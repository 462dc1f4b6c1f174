import BuildScript.Files.Path
import BuildScript.Text.Case
import BuildScript.Yaml.Data

/-!
Configurations: where to look for files, which namespaces to leave out, and how to log. A configuration
is the default one with the entries of a mapping taken in, one after the other; an entry that sets its key
to nothing leaves it as it is.
-/

namespace BuildScript

open Files (Path)
open Yaml (Data Datum Scalar)

/-- The keys that can be set. -/
inductive ConfigKey where
  | probingPaths
  | disableNamespaces
  | logLevel
  | logFormat
  | logFile
  deriving Repr, DecidableEq

namespace ConfigKey

/-- The name of a key. -/
def name : ConfigKey → String
  | probingPaths => "probing_paths"
  | disableNamespaces => "disable_namespaces"
  | logLevel => "log_level"
  | logFormat => "log_format"
  | logFile => "log_file"

/-- All keys. -/
def all : List ConfigKey := [probingPaths, disableNamespaces, logLevel, logFormat, logFile]

/-- The key with the given name. -/
def ofName? (s : String) : Option ConfigKey := all.find? fun k => k.name = s

theorem ofName?_name (k : ConfigKey) : ofName? k.name = some k := by
  cases k <;> decide

theorem name_of_ofName? {s : String} {k : ConfigKey} (h : ofName? s = some k) : k.name = s := by
  simpa using List.find?_some h

end ConfigKey

/-- The text that a datum is. Where it is torn, it is mended: a half of a character is no character here. -/
def Yaml.Datum.text? : Datum → Option String
  | .scalar (.plain (.text s)) => some s
  | .scalar (.torn ps) => some (Text.Point.mended ps)
  | _ => none

namespace Yaml.Data

/-- Whether what is meant is nothing. -/
def isNothing (d : Data) : Bool :=
  match d.root with
  | .scalar (.plain .none) => true
  | _ => false

/-- The text that is meant. -/
def text? (d : Data) : Option String := d.root.text?

/-- The texts that are meant; a text alone is a list of one. -/
def texts? (d : Data) : Option (List String) :=
  match d.root with
  | .scalar _ => d.text?.map fun s => [s]
  | .collection id =>
    match d.get id with
    | .list items => items.mapM Datum.text?
    | .pairs [] => some []
    | _ => none

end Yaml.Data

/-- The key that can be set and that a scalar is. -/
def ConfigKey.ofScalar? : Scalar → Option ConfigKey
  | .plain (.text s) => ofName? s
  | _ => none

/-- An entry of a configuration: a key, which may be none that can be set, and what it is set to. -/
structure ConfigEntry where
  key : Scalar
  value : Data
  deriving Repr

/-- A configuration. Nothing but a configuration that was found has a file. -/
structure Config where
  probingPaths : List Path := []
  disableNamespaces : List String := []
  logLevel : String := "info"
  logFormat : String := "\x7basctime\x7d \x7blevelname\x7d \x7bname\x7d: \x7bmessage\x7d"
  logFile : Option Path := none
  configFile : Option Path := none
  deriving Repr, DecidableEq

/-- The names of levels, as they are written in a configuration. -/
def levelNames : List String := ["debug", "info", "warning", "error", "critical"]

/-- Why there is no configuration. -/
inductive ConfigFlaw where
  | unreadable
  | notMapping (typeName : String)
  | unknownKey (key : Scalar)
  | notTexts (key : ConfigKey) (value : Data)
  | notText (key : ConfigKey) (value : Data)
  | unknownLevel (text : String)
  deriving Repr

/-- The message of a flaw, if what it shows can be shown. -/
def ConfigFlaw.message : ConfigFlaw → Except Obstacle String
  | unreadable => .ok "Could not parse buildfuncs config."
  | notMapping typeName =>
    .ok ("The buildfuncs config must be a mapping of keys to values, got " ++ typeName ++ ".")
  | unknownKey key => do
    return "Unknown buildfuncs config key '" ++ (← key.displayPlain) ++ "'. Valid keys are: "
      ++ ", ".intercalate (ConfigKey.all.map ConfigKey.name)
  | notTexts key value => do
    return "Config key '" ++ key.name ++ "' must be a list of strings, got " ++ (← value.display)
      ++ "."
  | notText key value => do
    return "Config key '" ++ key.name ++ "' must be a string, got " ++ (← value.display) ++ "."
  | unknownLevel text =>
    .ok ("Invalid log_level '" ++ text ++ "'. Must be one of "
      ++ (Value.tuple (levelNames.map .text)).shown ++ ".")

namespace Config

/-- The texts that a key is set to. -/
def textsFor (key : ConfigKey) (value : Data) : Except ConfigFlaw (List String) :=
  match value.texts? with
  | some ss => .ok ss
  | none => .error (.notTexts key value)

/-- The text that a key is set to. -/
def textFor (key : ConfigKey) (value : Data) : Except ConfigFlaw String :=
  match value.text? with
  | some t => .ok t
  | none => .error (.notText key value)

/-- The level that a text names, in letters of any case. -/
def levelOf (s : String) : Except ConfigFlaw String :=
  let level := Text.lower s
  if levelNames.contains level then .ok level else .error (.unknownLevel s)

/-- Sets a key. Paths are seen from the directory `base`. -/
def set (base : Path) (c : Config) (key : ConfigKey) (value : Data) : Except ConfigFlaw Config :=
  match key with
  | .probingPaths => do
    let paths := (← textsFor key value).map fun t => base.join (Path.ofText t)
    return { c with probingPaths := paths }
  | .disableNamespaces => do return { c with disableNamespaces := ← textsFor key value }
  | .logLevel => do return { c with logLevel := ← levelOf (← textFor key value) }
  | .logFormat => do return { c with logFormat := ← textFor key value }
  | .logFile => do return { c with logFile := some (base.join (Path.ofText (← textFor key value))) }

/-- Takes in one entry. -/
def setEntry (base : Path) (c : Config) (e : ConfigEntry) : Except ConfigFlaw Config :=
  if e.value.isNothing then .ok c
  else match ConfigKey.ofScalar? e.key with
    | none => .error (.unknownKey e.key)
    | some key => c.set base key e.value

/-- The configuration that entries give, in their order. -/
def ofEntries (base : Path) (entries : List ConfigEntry) : Except ConfigFlaw Config :=
  entries.foldlM (setEntry base) {}

/-- What can be asked for by name in a configuration. -/
inductive Item where
  | paths (ps : List Path)
  | texts (ss : List String)
  | text (s : String)
  | path (p : Option Path)
  deriving Repr, DecidableEq

/-- The item of a name. -/
def item? (c : Config) (name : String) : Option Item :=
  if name = "config_file" then some (.path c.configFile)
  else (ConfigKey.ofName? name).map fun
    | .probingPaths => .paths c.probingPaths
    | .disableNamespaces => .texts c.disableNamespaces
    | .logLevel => .text c.logLevel
    | .logFormat => .text c.logFormat
    | .logFile => .path c.logFile

/-- The message that says that a name is none of a configuration's. -/
def missingMessage (name : String) : String := "FuncConfig does not contain key " ++ name ++ "."

theorem setEntry_nothing (base : Path) (c : Config) {e : ConfigEntry} (h : e.value.isNothing = true) :
    c.setEntry base e = .ok c := by
  simp [setEntry, h]

theorem setEntry_unknown (base : Path) (c : Config) {e : ConfigEntry} (h : e.value.isNothing = false)
    (hk : ConfigKey.ofScalar? e.key = none) : c.setEntry base e = .error (.unknownKey e.key) := by
  simp [setEntry, h, hk]

theorem setEntry_known (base : Path) (c : Config) {e : ConfigEntry} {key : ConfigKey}
    (h : e.value.isNothing = false) (hk : ConfigKey.ofScalar? e.key = some key) :
    c.setEntry base e = c.set base key e.value := by
  simp [setEntry, h, hk]

end Config

end BuildScript
