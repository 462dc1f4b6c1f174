import BuildScript.Files.Resolve
import BuildScript.Record

/-!
Probing: looking for a file by its plain name in a list of directories. In each directory the file is
looked for directly, then, if asked for, in the directories below it: those with a lesser name first,
each with all that lies below it before the next. Linked directories are not entered, and a link that
leads to no directory counts as a file there.
-/

namespace BuildScript.Files

mutual

/-- The first directory, from `here` down, in which `holds` is true: a directory before those below
it, and of two siblings the one with the lesser name. -/
def Node.firstDir (holds : List String → Node → Bool) (here : List String) :
    Node → Option (List String)
  | .dir es =>
    if holds here (.dir es) then some here else (firstAmong holds here es).map (·.2)
  | _ => none

/-- The least name among entries below which `holds` is true somewhere, with the first such place. -/
def firstAmong (holds : List String → Node → Bool) (here : List String) :
    List (String × Node) → Option (String × List String)
  | [] => none
  | (n, c) :: rest =>
    let others := firstAmong holds here rest
    match c.firstDir holds (here ++ [n]) with
    | none => others
    | some found =>
      match others with
      | none => some (n, found)
      | some (m, place) => if m < n then some (m, place) else some (n, found)

end

/-- The logger of this module. -/
def probeLogger : String := "buildfuncs.probing"

/-- What a search has come to, and what it wrote to the log. -/
structure Probe where
  outcome : Except Trouble (Option Path)
  log : List Record

/-- Whether the name has no directory part and is more than a dot or two. -/
def isPlainName (name : String) : Bool :=
  name ≠ "" && name ≠ "." && name ≠ ".." && !name.toList.contains '/'

/-- A path as a part of a record. -/
def pathPart (p : Path) : Part := .gap (.thing p.text ("PosixPath(" ++ Text.quoted p.text ++ ")"))

/-- The record that says where the file was found. -/
def foundRecord (name : String) (place : Path) : Record :=
  { level := .debug, logger := probeLogger
    parts := [.literal "Found '", .gap (.text name), .literal "' at '", pathPart place, .literal "'."] }

/-- The record that says that a directory is not there. -/
def missingRecord (directory : Path) : Record :=
  { level := .debug, logger := probeLogger
    parts := [.literal "Skipping missing probing directory '", pathPart directory, .literal "'."] }

/-- The record that says that a name is not looked for. -/
def refusedRecord (name : String) : Record :=
  { level := .debug, logger := probeLogger
    parts := [.literal "Refusing to probe for '", .gap (.text name),
      .literal "', which is not a plain file name."] }

/-- The path under which a directory is walked, `rel` below the one from which the walk starts. A walk
from the empty path starts at the dot. -/
def walkedPath (directory : Path) (rel : List String) : Path :=
  let start := if directory.root = .relative ∧ directory.names = [] then ["."] else directory.names
  ⟨directory.root, start ++ rel⟩

namespace FileTree

/-- Whether the directory at `rel` below a directory lists an entry of that name which is no directory,
nor a link that leads to one. A directory whose path is too long lists nothing. -/
def listsFile (t : FileTree) (directory : Path) (name : String) (rel : List String) (n : Node) :
    Bool :=
  (walkedPath directory rel).text.utf8ByteSize < pathByteLimit &&
    match n.child? name with
    | none => false
    | some (.dir _) => false
    | some (.file _) => true
    | some (.link _) =>
      match t.isDir ((walkedPath directory rel).child name) with
      | .ok b => !b
      | .error _ => true

/-- The place of the file in a directory: directly in it, or else in the first directory below that
lists it. -/
def placeIn (t : FileTree) (recursive : Bool) (name : String) (directory : Path) :
    Except Trouble (Option Path) := do
  let candidate := directory.child name
  match t.isFile candidate with
  | .error e => .error (.system e candidate.text)
  | .ok true => return some candidate
  | .ok false =>
    if !recursive then return none
    else match t.find directory with
      | .error _ => return none
      | .ok n =>
        return (n.firstDir (t.listsFile directory name) []).map fun rel =>
          ⟨directory.root, directory.names ++ rel ++ [name]⟩

/-- Looks for a plain name in directories, one after the other. -/
def searchDirs (t : FileTree) (recursive : Bool) (name : String) : List Path → Probe
  | [] => ⟨.ok none, []⟩
  | directory :: rest =>
    match t.isDir directory with
    | .error e => ⟨.error (.system e directory.text), []⟩
    | .ok false =>
      let later := t.searchDirs recursive name rest
      { later with log := missingRecord directory :: later.log }
    | .ok true =>
      match t.placeIn recursive name directory with
      | .error e => ⟨.error e, []⟩
      | .ok none => t.searchDirs recursive name rest
      | .ok (some place) => ⟨(t.resolve place).map some, [foundRecord name place]⟩

/-- Looks for a file in directories; the outcome is its resolved path, or nothing. -/
def probe (t : FileTree) (directories : List Path) (name : String) (recursive : Bool) : Probe :=
  if isPlainName name then t.searchDirs recursive name directories
  else ⟨.ok none, [refusedRecord name]⟩

end FileTree

end BuildScript.Files
