import BuildScript.Files.Path
import BuildScript.Number.Shortest
import BuildScript.Text.Blank
import BuildScript.Text.Quoted

/-!
The values that functions of a build script take and give: the plain ones (nothing, flags, numbers,
texts, bytes, lists, tuples, dictionaries), the things of a build (assemblies, targets, properties, task
builders, platforms), and instances of classes of the host. An assembly is its name, version and location
and nothing else; the other things of a build are individuals, told apart by an identity. A class of the
host may be derived from that of texts or of numbers: its instances are texts or numbers (`Value.bare`),
but of a type of their own.
-/

namespace BuildScript

open Files (Path)
open Number (Binary64)

/-- The identity of a loaded library module. `derived` marks an assembly of a kind of its own, which
equals a plain one of the same data but is not one where a plain one is asked for. -/
structure Assembly where
  name : String
  version : String
  location : Option Path
  derived : Bool := false
  deriving Repr, DecidableEq

/-- The name and version of an assembly as one text. -/
def Assembly.fullName (a : Assembly) : String := a.name ++ ", Version=" ++ a.version

/-- Whether two assemblies have the same data. -/
def Assembly.same (a b : Assembly) : Bool :=
  a.name = b.name && a.version = b.version && a.location = b.location

/-- The broad families of platforms. -/
inductive PlatformKind where
  | win32
  | unix
  | other
  deriving Repr, DecidableEq

/-- The name of a family. -/
def PlatformKind.name : PlatformKind → String
  | win32 => "win32"
  | unix => "unix"
  | other => "other"

/-- The family with the given name. -/
def PlatformKind.ofName? (s : String) : Option PlatformKind :=
  [win32, unix, other].find? fun k => k.name = s

/-- The platform that a build runs on. -/
structure Platform where
  name : String
  kind : PlatformKind
  deriving Repr, DecidableEq

namespace Platform

/-- The platform of a system that reports itself by a name and belongs to a family of systems. -/
def detect (system family : String) : Platform :=
  ⟨system, if system = "win32" then .win32 else if family = "posix" then .unix else .other⟩

/-- Whether the platform is a win32 one. -/
def isWin32 (p : Platform) : Bool := p.kind = .win32

/-- Whether the platform is a unix one. -/
def isUnix (p : Platform) : Bool := p.kind = .unix

/-- The text that shows a platform. -/
def shown (p : Platform) : String := "<Platform " ++ p.name ++ " (" ++ p.kind.name ++ ")>"

end Platform

/-- A build target: its name, and whether it has run in this build. -/
structure Target where
  name : String
  executed : Bool := false
  deriving Repr, DecidableEq, Inhabited

/-- The text of a flag. -/
def flagText (b : Bool) : String := if b then "True" else "False"

/-- The text that shows a target. -/
def Target.shown (t : Target) : String :=
  "<Target " ++ t.name ++ " executed=" ++ flagText t.executed ++ ">"

/-- Whether a text can be the name of a class: it is not empty, and holds no blanks and none of the marks
that stand between names. -/
def isClassName (s : String) : Bool :=
  s ≠ "" && s.toList.all fun c => !Text.isBlank c && c ∉ ['(', ')', ',', ':']

/-- A class of the host of the build, told apart by its identity. -/
structure HostType where
  id : Nat
  home : String
  name : String
  named : isClassName name = true
  deriving Repr, DecidableEq

/-- What an instance of a class of the host is by the class that its own is derived from. -/
inductive Nature where
  | text (s : String)
  | int (i : Int)
  | float (x : Binary64)
  /-- The class is derived from neither texts nor numbers. -/
  | other
  deriving Repr, DecidableEq

/-- What stands against showing a value. -/
inductive Obstacle where
  | longInteger
  /-- A value of the type stands where something with a name is wanted. -/
  | nameless (typeName : String)
  /-- What the class of an instance of the host raises. -/
  | raised (className message : String)
  deriving Repr, DecidableEq

/-- An instance of a class of the host. How it is shown, what stands against that and whether it has a name
is for its class to say. -/
structure Instance where
  type : HostType
  nature : Nature
  shown : String
  plain : String
  name? : Option String := none
  obstacle? : Option Obstacle := none
  deriving Repr

/-- A value. The number in front of a target, property, task builder, platform or instance of the host is
its identity. -/
inductive Value where
  | none
  | bool (b : Bool)
  | int (i : Int)
  | float (x : Binary64)
  | text (s : String)
  | bytes (bs : List UInt8)
  | list (xs : List Value)
  | tuple (xs : List Value)
  | dict (entries : List (Value × Value))
  | assembly (a : Assembly)
  | target (id : Nat) (t : Target)
  | property (id : Nat) (name : String) (value : Value) (readOnly dynamic : Bool)
  | taskBuilder (id : Nat) (name : String) (assembly : Value) (className : String)
  | platform (id : Nat) (p : Platform)
  | host (id : Nat) (h : Instance)
  deriving Repr, Inhabited

/-- The types of values that a function can declare. -/
inductive TypeName where
  | text
  | bool
  | int
  | float
  | list
  | tuple
  | dict
  | bytes
  | object
  | none
  | assembly
  | derivedAssembly
  | target
  | property
  | taskBuilder
  | platform
  | host (t : HostType)
  deriving Repr, DecidableEq

namespace TypeName

/-- The name of a type. -/
def name : TypeName → String
  | text => "str"
  | bool => "bool"
  | int => "int"
  | float => "float"
  | list => "list"
  | tuple => "tuple"
  | dict => "dict"
  | bytes => "bytes"
  | object => "object"
  | none => "NoneType"
  | assembly => "Assembly"
  | derivedAssembly => "SubAssembly"
  | target => "Target"
  | property => "Property"
  | taskBuilder => "TaskBuilder"
  | platform => "Platform"
  | host t => t.name

/-- All types but those of the host. -/
def all : List TypeName :=
  [text, bool, int, float, list, tuple, dict, bytes, object, none, assembly, derivedAssembly, target,
   property, taskBuilder, platform]

/-- The type with the given name, if it is not one of the host. -/
def ofName? (s : String) : Option TypeName := all.find? fun t => t.name = s

theorem ofName?_name {t : TypeName} (h : t ∈ all) : ofName? t.name = some t := by
  have hall : ∀ t ∈ all, ofName? t.name = some t := by decide
  exact hall t h

/-- Every type has a name that a class can have. -/
theorem isClassName_name (t : TypeName) : isClassName t.name = true := by
  cases t with
  | host t => exact t.named
  | _ => decide

end TypeName

namespace Value

/-- The type of a value. No value has the type of all objects. -/
def type : Value → TypeName
  | none => .none
  | bool _ => .bool
  | int _ => .int
  | float _ => .float
  | text _ => .text
  | bytes _ => .bytes
  | list _ => .list
  | tuple _ => .tuple
  | dict _ => .dict
  | assembly a => if a.derived then .derivedAssembly else .assembly
  | target _ _ => .target
  | property .. => .property
  | taskBuilder .. => .taskBuilder
  | platform .. => .platform
  | host _ h => .host h.type

/-- The text or number that an instance of the host is; any other value as it is. -/
def bare : Value → Value
  | host id h =>
    match h.nature with
    | .text s => text s
    | .int i => int i
    | .float x => float x
    | .other => host id h
  | v => v

theorem bare_eq_bool {v : Value} {b : Bool} (h : v.bare = bool b) : v = bool b := by
  unfold bare at h
  split at h
  · split at h <;> cases h
  · exact h

/-- The text that a value is, whatever its type. -/
def text? (v : Value) : Option String :=
  match v.bare with
  | text s => some s
  | _ => Option.none

/-- The name that a value has, if it is a thing of a build or an instance of the host with a name. -/
def name : Value → String
  | assembly a => a.name
  | target _ t => t.name
  | property _ n .. => n
  | taskBuilder _ n .. => n
  | platform _ p => p.name
  | host _ h => h.name?.getD ""
  | _ => ""

/-- Puts the pieces of a tuple into parentheses; a single one has a comma behind it. -/
def inParentheses : List String → String
  | [x] => "(" ++ x ++ ",)"
  | xs => "(" ++ ", ".intercalate xs ++ ")"

/-- The braces of a dictionary around its pieces. -/
def inBraces (xs : List String) : String := "\x7b" ++ ", ".intercalate xs ++ "\x7d"

mutual

/-- The text that shows a value in a message: a text in quotes, a collection with all it holds. -/
def shown : Value → String
  | none => "None"
  | bool b => flagText b
  | int i => Number.intText i
  | float x => x.text
  | text s => Text.quoted s
  | bytes bs => Text.quotedBytes bs
  | list xs => "[" ++ ", ".intercalate (shownAll xs) ++ "]"
  | tuple xs => inParentheses (shownAll xs)
  | dict es => inBraces (shownEntries es)
  | assembly a => "<Assembly " ++ a.fullName ++ ">"
  | target _ t => t.shown
  | property _ n v ro dyn =>
    "<Property " ++ n ++ "=" ++ v.shown ++ " ro=" ++ flagText ro ++ " dyn=" ++ flagText dyn ++ ">"
  | taskBuilder _ n a _ => "<TaskBuilder " ++ n ++ " from " ++ a.name ++ ">"
  | platform _ p => p.shown
  | host _ h => h.shown

/-- The texts that show each of some values. -/
def shownAll : List Value → List String
  | [] => []
  | x :: rest => x.shown :: shownAll rest

/-- The texts that show each entry of a dictionary. -/
def shownEntries : List (Value × Value) → List String
  | [] => []
  | (k, v) :: rest => (k.shown ++ ": " ++ v.shown) :: shownEntries rest

end

/-- The text that stands for a value in running text: a text as it is, an instance of the host as its class
says, all else as it is shown. -/
def plain : Value → String
  | text s => s
  | host _ h => h.plain
  | v => v.shown

/-- The texts that show some values, with commas between them. -/
def shownList (xs : List Value) : String := ", ".intercalate (shownAll xs)

/-- Whether a value counts as something: not nothing, false, zero, or an empty collection. -/
def isSomething (v : Value) : Bool :=
  match v.bare with
  | none => false
  | bool b => b
  | int i => i ≠ 0
  | float x => !x.isZero
  | text s => s ≠ ""
  | bytes bs => !bs.isEmpty
  | list xs => !xs.isEmpty
  | tuple xs => !xs.isEmpty
  | dict es => !es.isEmpty
  | _ => true

theorem shownAll_eq_map (xs : List Value) : shownAll xs = xs.map shown := by
  induction xs with
  | nil => simp [shownAll]
  | cons x xs ih => simp [shownAll, ih]

end Value

end BuildScript
