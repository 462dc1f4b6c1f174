import BuildScript.Text.Lines

/-!
File paths. A path is a root and the names below it. Reading a text drops empty names and the name
`.`, so that `a//b/./c` and `a/b/c` are one path; `..` stays. Exactly two slashes in front are a root
of their own, three or more are one.
-/

namespace BuildScript.Files

open BuildScript.Text (splitAtChar)

/-- What a path starts from. -/
inductive Root where
  | relative
  | slash
  | doubleSlash
  deriving Repr, DecidableEq, Inhabited

/-- The text of a root. -/
def Root.text : Root → String
  | relative => ""
  | slash => "/"
  | doubleSlash => "//"

/-- A path: a root and the names below it. -/
structure Path where
  root : Root
  names : List String
  deriving Repr, DecidableEq, Inhabited

namespace Path

/-- The pieces of a text between slashes. -/
def pieces (s : String) : List String := (splitAtChar '/' s.toList).map String.ofList

/-- The names of a text: its pieces without the empty ones and the dots. -/
def namesOf (s : String) : List String := (pieces s).filter fun n => n ≠ "" && n ≠ "."

/-- The root of a text. -/
def rootOf (s : String) : Root :=
  match s.toList with
  | '/' :: '/' :: '/' :: _ => .slash
  | '/' :: '/' :: _ => .doubleSlash
  | '/' :: _ => .slash
  | _ => .relative

/-- The path that a text names. -/
def ofText (s : String) : Path := ⟨rootOf s, namesOf s⟩

/-- The text of a path; the empty path is the dot. -/
def text (p : Path) : String :=
  if p.root = .relative ∧ p.names = [] then "."
  else p.root.text ++ "/".intercalate p.names

/-- Whether the path starts from a root. -/
def isAbsolute (p : Path) : Bool := p.root ≠ .relative

/-- `q` as seen from the directory `p`: `q` itself if it starts from a root. -/
def join (p q : Path) : Path :=
  if q.isAbsolute then q else ⟨p.root, p.names ++ q.names⟩

/-- The last name, empty for a bare root. -/
def name (p : Path) : String := p.names.getLast?.getD ""

/-- The path without its last name. -/
def parent (p : Path) : Path := ⟨p.root, p.names.dropLast⟩

/-- The path one name below. -/
def child (p : Path) (n : String) : Path := ⟨p.root, p.names ++ [n]⟩

/-- The last name up to its last dot, if there is text on both sides of it. -/
def stem (p : Path) : String :=
  let cs := p.name.toList
  let front := (cs.reverse.dropWhile (· ≠ '.')).drop 1 |>.reverse
  if front.isEmpty || front.length + 1 = cs.length then p.name else String.ofList front

/-- The names with every `..` taken together with the name in front of it; at the front it is
dropped. -/
def foldParents (names : List String) : List String :=
  (names.foldl (fun back n => if n = ".." then back.drop 1 else n :: back) []).reverse

theorem isAbsolute_join {p q : Path} (h : p.isAbsolute = true) : (p.join q).isAbsolute = true := by
  unfold join
  split
  · assumption
  · exact h

end Path

end BuildScript.Files
