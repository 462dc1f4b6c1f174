import BuildScript.Files.Path

/-!
File trees: directories, files with their text, and symbolic links. `FileTree.locate` finds what a path
leads to, following links as a file system does: every name on the way has to be a directory, a name
has at most 255 bytes and a path fewer than 4096, and at most forty links are followed. Nothing is
forbidden in them: there are no permissions.
-/

namespace BuildScript.Files

/-- What a directory may hold. Its entries stand in the order in which they are listed. -/
inductive Node where
  | file (text : String)
  | link (target : String)
  | dir (entries : List (String × Node))
  deriving Repr, Inhabited

/-- Why a path leads to nothing, or cannot be used as asked. -/
inductive LookupError where
  | notFound
  | notDirectory
  | isDirectory
  | nameTooLong
  | tooManyLinks
  deriving Repr, DecidableEq

namespace LookupError

/-- The number of the error. -/
def code : LookupError → Nat
  | notFound => 2
  | notDirectory => 20
  | isDirectory => 21
  | nameTooLong => 36
  | tooManyLinks => 40

/-- The text of the error. -/
def text : LookupError → String
  | notFound => "No such file or directory"
  | notDirectory => "Not a directory"
  | isDirectory => "Is a directory"
  | nameTooLong => "File name too long"
  | tooManyLinks => "Too many levels of symbolic links"

end LookupError

namespace Node

/-- Whether the node is a directory. -/
def isDir : Node → Bool
  | dir _ => true
  | _ => false

/-- Whether the node is a file. -/
def isFile : Node → Bool
  | file _ => true
  | _ => false

/-- The entries of a directory; other nodes have none. -/
def entries : Node → List (String × Node)
  | dir es => es
  | _ => []

/-- The entry of a directory with the given name. -/
def child? (n : Node) (name : String) : Option Node := n.entries.lookup name

/-- The node below `n` at the end of a list of names. -/
def below? (n : Node) : List String → Option Node
  | [] => some n
  | name :: rest => (n.child? name).bind fun c => c.below? rest

/-- Replaces the entry with the given name, or adds it at the end. -/
def setEntry (name : String) (new : Node) : List (String × Node) → List (String × Node)
  | [] => [(name, new)]
  | (k, old) :: rest => if k = name then (k, new) :: rest else (k, old) :: setEntry name new rest

/-- The node with `new` at the end of a list of names, whose parent is a directory. -/
def place (n : Node) (new : Node) : List String → Node
  | [] => new
  | [name] => match n with
    | dir es => dir (setEntry name new es)
    | other => other
  | name :: rest => match n with
    | dir es => match es.lookup name with
      | some c => dir (setEntry name (c.place new rest) es)
      | none => dir es
    | other => other

end Node

/-- A tree of nodes from its root directory on, and the names of the current directory. -/
structure FileTree where
  root : Node
  current : List String
  deriving Inhabited

namespace FileTree

/-- The most bytes of a name. -/
def maxNameBytes : Nat := 255

/-- The number of bytes that a path's text does not reach. -/
def pathByteLimit : Nat := 4096

/-- The most links that are followed on the way to one node. -/
def maxLinks : Nat := 40

/-- The tree with one directory, which is the current one. -/
def ofCurrent (names : List String) : FileTree :=
  ⟨names.foldr (fun n below => .dir [(n, below)]) (.dir []), names⟩

/-- The node at the end of names that are all its own, no links among them. -/
def nodeAt? (t : FileTree) (names : List String) : Option Node := t.root.below? names

/-- Whether a name is too long. -/
def tooLong (name : String) : Bool := maxNameBytes < name.utf8ByteSize

/-- The names that a link's target or a path asks for, in order. A slash at the end asks for a
directory, which the dot stands for. -/
def steps (s : String) : List String :=
  (Path.pieces s).filter (· ≠ "") ++ if s.endsWith "/" then ["."] else []

/-- Follows names from the directory `here` on; `links` is how many links may still be followed, and
`follow` whether a link at the end is followed too. -/
def walk (t : FileTree) (follow : Bool) (links : Nat) (here names : List String) :
    Except LookupError (List String) :=
  match names with
  | [] => .ok here
  | name :: rest =>
    match t.nodeAt? here with
    | some (.dir es) =>
      if name = "." then t.walk follow links here rest
      else if name = ".." then t.walk follow links here.dropLast rest
      else if tooLong name then .error .nameTooLong
      else match es.lookup name with
        | none => .error .notFound
        | some (.link target) =>
          if rest.isEmpty && !follow then .ok (here ++ [name])
          else match links with
            | 0 => .error .tooManyLinks
            | links + 1 =>
              t.walk follow links (if target.startsWith "/" then [] else here) (steps target ++ rest)
        | some _ => t.walk follow links (here ++ [name]) rest
    | _ => .error .notDirectory
termination_by (links, names.length)

/-- The names at which the node that a path leads to stands. -/
def locate (t : FileTree) (follow : Bool) (p : Path) : Except LookupError (List String) :=
  if pathByteLimit ≤ p.text.utf8ByteSize then .error .nameTooLong
  else t.walk follow maxLinks (if p.isAbsolute then [] else t.current) p.names

/-- The node that a path leads to. -/
def find (t : FileTree) (p : Path) : Except LookupError Node := do
  let names ← t.locate true p
  match t.nodeAt? names with
  | some n => .ok n
  | none => .error .notFound

/-- The node that a path names, a link itself if it is one. -/
def findLink (t : FileTree) (p : Path) : Except LookupError Node := do
  let names ← t.locate false p
  match t.nodeAt? names with
  | some n => .ok n
  | none => .error .notFound

/-- Whether the path's text holds the character that ends texts for the system. -/
def hasNul (p : Path) : Bool := p.names.any fun n => n.toList.contains '\x00'

/-- Whether a path leads to a node of a kind. A path that leads nowhere does not; one that the system
refuses to look at is an error. -/
def leadsTo (t : FileTree) (kind : Node → Bool) (p : Path) : Except LookupError Bool :=
  if hasNul p then .ok false
  else match t.find p with
    | .ok n => .ok (kind n)
    | .error .nameTooLong => .error .nameTooLong
    | .error _ => .ok false

/-- Whether a path leads to a file. -/
def isFile (t : FileTree) (p : Path) : Except LookupError Bool := t.leadsTo Node.isFile p

/-- Whether a path leads to a directory. -/
def isDir (t : FileTree) (p : Path) : Except LookupError Bool := t.leadsTo Node.isDir p

/-- The tree with a new node at the end of names. -/
def place (t : FileTree) (names : List String) (n : Node) : FileTree :=
  { t with root := t.root.place n names }

/-- The names that a link's target asks for, whether or not there is a slash at the end. -/
def targetNames (s : String) : List String := (Path.pieces s).filter (· ≠ "")

/-- Where the names that a link in the directory `here` asks for are followed from. -/
def linkStart (here : List String) (target : String) : List String :=
  if target.startsWith "/" then [] else here

/-- Follows names to the place of a file that is opened to be written, and made there if it is missing.
`slash` is whether there is a slash behind the last name: no file can be opened there. -/
def walkNew (t : FileTree) (slash : Bool) (links : Nat) (here names : List String) :
    Except LookupError (List String) :=
  match names with
  | [] => .ok here
  | name :: rest =>
    match t.nodeAt? here with
    | some (.dir es) =>
      if name = "." then t.walkNew slash links here rest
      else if name = ".." then t.walkNew slash links here.dropLast rest
      else if rest.isEmpty && slash then .error .isDirectory
      else if tooLong name then .error .nameTooLong
      else match es.lookup name with
        | none => if rest.isEmpty then .ok (here ++ [name]) else .error .notFound
        | some (.link target) =>
          match links with
          | 0 => .error .tooManyLinks
          | links + 1 =>
            if rest.isEmpty then
              t.walkNew (target.endsWith "/") links (linkStart here target) (targetNames target)
            else t.walkNew slash links (linkStart here target) (steps target ++ rest)
        | some _ => t.walkNew slash links (here ++ [name]) rest
    | _ => .error .notDirectory
termination_by (links, names.length)

/-- The names at which a file that a path leads to is, or would be made. -/
def locateNew (t : FileTree) (p : Path) : Except LookupError (List String) :=
  if pathByteLimit ≤ p.text.utf8ByteSize then .error .nameTooLong
  else t.walkNew false maxLinks (if p.isAbsolute then [] else t.current) p.names

/-- Makes the directory that a path names, with those above it. -/
def makeDirs (t : FileTree) (p : Path) : FileTree :=
  (List.range (p.names.length + 1)).foldl (fun t k =>
    let q : Path := ⟨p.root, p.names.take k⟩
    match t.find q with
    | .ok _ => t
    | .error _ => match t.locateNew q with
      | .ok names => t.place names (.dir [])
      | .error _ => t) t

/-- Writes a file, its text replaced if there is one. -/
def write (t : FileTree) (p : Path) (text : String) : FileTree :=
  match t.locateNew p with
  | .ok names => t.place names (.file text)
  | .error _ => t

/-- Makes a link. -/
def makeLink (t : FileTree) (p : Path) (target : String) : FileTree :=
  match t.locate true p.parent with
  | .ok dir => t.place (dir ++ [p.name]) (.link target)
  | .error _ => t

end FileTree

end BuildScript.Files
