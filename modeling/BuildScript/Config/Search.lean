import BuildScript.Config.Reading
import BuildScript.Files.Resolve
import BuildScript.Output

/-!
Finding the configuration. A file that is named is the one, and has to be there; else the first of the
search directories that holds a file with the configuration's name decides; else the configuration is
the default one. A file that is found and cannot be used is an error: no other is tried.
-/

namespace BuildScript

open Files (FileTree LookupError Path Trouble)

/-- The name of configuration files. -/
def configName : String := "buildfuncs.yaml"

/-- Where a configuration may come from: the search directories, and what the environment adds. -/
structure ConfigSources where
  directories : List Path
  /-- The file that the environment names. -/
  file : Option String := none
  /-- The further directory that the environment names. -/
  directory : Option String := none
  deriving Repr

/-- Why no configuration is found. -/
inductive SearchError where
  | missingFile (path : Path)
  | flawedFile (path : Path) (fault : Fault)
  | unreadableFile (path : Path) (trouble : Trouble)
  | other (e : OtherError)
  | trouble (t : Trouble)
  deriving Repr

/-- What is raised for an error. -/
def SearchError.raised : SearchError → Raised
  | missingFile p => .fault (Fault.of .config ("Config file '" ++ p.text ++ "' does not exist."))
  | flawedFile p f =>
    .fault (Fault.because .config ("Error in buildfuncs config at '" ++ p.text ++ "'.")
      (.fault f))
  | unreadableFile p t =>
    .fault (Fault.because .config ("Could not read config file '" ++ p.text ++ "'.")
      (.other (OtherError.ofTrouble t)))
  | other e => .other e
  | trouble t => .other (OtherError.ofTrouble t)

/-- What a search has come to, and what it told the user. -/
structure ConfigSearch (α : Type) where
  outcome : Except SearchError α
  notice : String := ""

/-- The notice about a directory that cannot be searched. -/
def ignoredDirectory (path : Path) : String :=
  "Invalid path in env var BUILDFUNCS_CONFIG_DIR: '" ++ path.text ++ "'. Ignoring."

namespace Config

/-- An answer about a path, an error of the system being a trouble with it. -/
def asked {α : Type} (path : Path) (answer : Except LookupError α) : Except SearchError α :=
  answer.mapError fun e => .trouble (.system e path.text)

/-- The directories that are searched, in order: that of the environment is the last. -/
def searchDirectories (tree : FileTree) (columns : Int) (s : ConfigSources) :
    ConfigSearch (List Path) :=
  match s.directory with
  | none => ⟨.ok s.directories, ""⟩
  | some text =>
    let path := Path.ofText text
    match asked path (tree.isDir path) with
    | .error e => ⟨.error e, ""⟩
    | .ok true =>
      ⟨(tree.resolve path).mapError .trouble |>.map fun r => s.directories ++ [r], ""⟩
    | .ok false => ⟨.ok s.directories, noticeText columns (ignoredDirectory path)⟩

/-- The text of the file that a path leads to. -/
def fileText (tree : FileTree) (path : Path) : Except LookupError String :=
  match tree.find path with
  | .ok (.file text) => .ok (String.ofList (Text.plainBreaks text.toList))
  | .ok _ => .error .isDirectory
  | .error e => .error e

/-- The configuration in a file. Its paths are seen from the directory in which the file really is. -/
def readFile (tree : FileTree) (path : Path) : Except SearchError Config :=
  match tree.resolve path with
  | .error t => .error (.trouble t)
  | .ok place =>
    match fileText tree place with
    | .error e => .error (.unreadableFile place (.system e place.text))
    | .ok text =>
      match Config.ofText place.parent text with
      | .ok c => .ok { c with configFile := some place }
      | .error (.fault f) => .error (.flawedFile place f)
      | .error (.other e) => .error (.other e)

/-- The first path that leads to a file. -/
def firstFile (tree : FileTree) : List Path → Except SearchError (Option Path)
  | [] => .ok none
  | path :: rest => do
    if ← asked path (tree.isFile path) then return some path else firstFile tree rest

/-- The configuration of the first path that leads to a file, else the default one. -/
def readFirst (tree : FileTree) (paths : List Path) : Except SearchError Config := do
  match ← firstFile tree paths with
  | none => return {}
  | some path => readFile tree path

/-- The file that is asked for: the one that is given, or else the one that the environment names. An
empty name names none. -/
def namedFile (s : ConfigSources) (given : Option Path) : Option Path :=
  given <|> (s.file.filter (· ≠ "")).map Path.ofText

/-- Finds the configuration. -/
def find (tree : FileTree) (columns : Int) (s : ConfigSources) (given : Option Path) :
    ConfigSearch Config :=
  match namedFile s given with
  | some path =>
    { outcome := do
        if ← asked path (tree.isFile path) then readFile tree path
        else throw (.missingFile path) }
  | none =>
    let directories := searchDirectories tree columns s
    { notice := directories.notice
      outcome := do readFirst tree ((← directories.outcome).map fun d => d.child configName) }

end Config

end BuildScript
