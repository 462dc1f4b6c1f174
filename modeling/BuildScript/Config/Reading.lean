import BuildScript.Config.Basic
import BuildScript.Fault.Basic
import BuildScript.Yaml.Construction

/-!
Configurations as YAML texts: a mapping whose entries set the keys. A text without a document, and a
document that is nothing, give the default configuration.
-/

namespace BuildScript

open Files (Path)
open Yaml (Data)

/-- The entries of a document that is a mapping. One that is nothing has none. -/
def ConfigEntry.ofData (d : Data) : Except ConfigFlaw (List ConfigEntry) :=
  match d.root with
  | .scalar s => if d.isNothing then .ok [] else .error (.notMapping s.typeName)
  | .collection id =>
    match d.get id with
    | .dict entries => .ok (entries.map fun e => ⟨e.1, d.at e.2⟩)
    | _ => .error (.notMapping d.typeName)

/-- What is raised for a flawed configuration. -/
def ConfigFlaw.raised (f : ConfigFlaw) : Raised :=
  match f, f.message with
  | _, .error o => .ofObstacle o
  | .unreadable, .ok m => .fault (Fault.because .config m (Raised.ofText "YAMLError" ""))
  | _, .ok m => .fault (Fault.of .config m)

/-- What is raised for a text that gives no data. -/
def Yaml.LoadError.raised : LoadError → Raised
  | .flaw _ => ConfigFlaw.unreadable.raised
  | .scalar className message => .other (OtherError.saying className message)

/-- The configuration of a text, or what is raised because there is none. Paths are seen from the
directory `base`. -/
def Config.ofText (base : Path) (text : String) : Except Raised Config :=
  match Yaml.load text with
  | .error e => .error e.raised
  | .ok none => .ok {}
  | .ok (some d) => (ConfigEntry.ofData d >>= Config.ofEntries base).mapError ConfigFlaw.raised

end BuildScript
