import BuildScript.Coercion
import BuildScript.Fault.Basic
import BuildScript.Project
import BuildScript.Record

/-!
Function sets as they are written down: a class with a namespace, a table of the functions that it
offers, and the methods that run them. A method sees the build, takes arguments, and answers with a
value or something raised; all that it may change is what its own set remembers. What else it does is
left in its answer as events.
-/

namespace BuildScript

open Files (Path FileTree)

/-- Something that happens when functions are called. Function sets are told apart by the identity of
their class. -/
inductive Event where
  | logged (r : Record)
  /-- A constructor of the class ran, whether it came to an end or raised. -/
  | constructed (cls : Nat)
  /-- A method of the class ran with these arguments. -/
  | ran (cls : Nat) (method : String) (args : List Value)
  /-- A method put these arguments on record. -/
  | noted (args : List Value)
  deriving Repr

/-- What a bound function set remembers, by name. -/
abbrev Memory := Table String Value

/-- The machine that a build runs on: its files, the directory of this library, and the language. -/
structure Host where
  tree : FileTree
  libraryDir : Path
  /-- What a method comes to that the language gives to every set. -/
  language : String → Memory → List Value → Except Raised Value := fun _ _ _ => .ok .none

/-- What a bound function set sees. -/
structure Scene where
  project : Project
  /-- Properties that are given to function sets in place of the project's. -/
  separate : Option Properties := none
  host : Host

/-- The properties that a function set sees. -/
def Scene.properties (s : Scene) : Properties := s.separate.getD s.project.properties

/-- What a method comes to. -/
structure Answer where
  result : Except Raised Value
  memory : Memory
  events : List Event := []

/-- What a method is called on. -/
inductive Receiver where
  | boundSet
  | ownClass
  | nothing
  deriving Repr, DecidableEq

/-- How arguments come to a parameter. -/
inductive ParameterKind where
  /-- One, by its place. -/
  | positional
  /-- All that are left, by their place. -/
  | variadic
  /-- One, by its name only. -/
  | keywordOnly
  /-- All that are left, by their name. -/
  | keywords
  deriving Repr, DecidableEq

/-- A parameter of a method. -/
structure Parameter where
  name : String
  kind : ParameterKind := .positional
  /-- It may go without an argument. -/
  optional : Bool := false
  deriving Repr, DecidableEq

/-- Something of a class that can be called. -/
structure Method where
  receiver : Receiver := .boundSet
  /-- The parameters that it is written with. What it is called on goes to the first. -/
  written : List Parameter := [{ name := "self" }]
  /-- What it says of itself, or what it stands in place of says. -/
  doc : Option String := none
  run : Scene → Memory → List Value → Answer
  /-- What messages call it, if not by its class and the name that it is found by. -/
  title : Option String := none
  /-- It is no function that is written in the language, and minds its arguments itself. -/
  foreign : Bool := false
  /-- What is raised where it is asked for its parameters and does not tell them. -/
  untold : Option Raised := none

/-- How many arguments what a method is called on counts for. -/
def Receiver.count : Receiver → Nat
  | boundSet | ownClass => 1
  | nothing => 0

namespace Method

/-- What is raised where a method of the class has no parameter for the class. -/
def invalidSignature : Raised := Raised.ofText "ValueError" "invalid method signature"

/-- The parameters of a method of the class where the class has been filled in. -/
def withoutClass : List Parameter → Except Raised (List Parameter)
  | [] => .error invalidSignature
  | p :: ps =>
    match p.kind with
    | .positional => .ok ps
    | .variadic => .ok (p :: ps)
    | .keywordOnly | .keywords => .error invalidSignature

/-- The parameters that a method shows where its class is asked for it. The class fills in itself if
the method is called on that, but it has no bound set to fill in. -/
def listed (m : Method) : Except Raised (List Parameter) :=
  match m.untold, m.receiver with
  | some e, _ => .error e
  | none, .ownClass => withoutClass m.written
  | none, .boundSet | none, .nothing => .ok m.written

/-- The parameters that a call has arguments for: those that are listed, without one for a bound set. -/
def taken (m : Method) : Except Raised (List Parameter) :=
  match m.receiver with
  | .boundSet => m.listed.map (·.drop 1)
  | .ownClass | .nothing => m.listed

/-- The parameters in front of those, for what the method is called on. A variadic one is for both. -/
def own (m : Method) : List Parameter :=
  match m.receiver with
  | .boundSet => m.written.take 1
  | .ownClass => (m.written.take 1).filter (·.kind = .positional)
  | .nothing => []

end Method

/-- What a name in a class stands for: a method, or a plain value. -/
inductive Attribute where
  | method (m : Method)
  | value (v : Value)

/-- An entry in the table of functions of a class. -/
structure Entry where
  name : Value
  method : String
  params : List Declared := []
  returns : Declared := .type .text
  deprecated : Bool := false

/-- Why a class has no file. -/
inductive NoFile where
  /-- It was written at a prompt. -/
  | prompt
  /-- Its module is not known, or has no file; the text shows the class. -/
  | builtIn (shown : String)
  deriving Repr, DecidableEq

/-- What is raised where the file of such a class is asked for. -/
def NoFile.raised : NoFile → Raised
  | prompt => Raised.ofText "OSError" "source code not available"
  | builtIn shown => Raised.ofText "TypeError" (shown ++ " is a built-in class")

/-- A class of function sets, told apart by its identity. -/
structure SetClass where
  id : Nat
  name : String
  /-- The file that it is written in. -/
  file : Except NoFile String
  space : Value
  doc : Option String
  entries : List Entry
  attributes : Table String Attribute
  /-- What a new set remembers, or what its constructor raises. -/
  construct : Scene → Except Raised Memory
  /-- How the language shows a method of its own that it has bound to a class. -/
  shownBuiltin : String → String := fun name => "<built-in method " ++ name ++ " of type object>"

/-- Why a class has no file, if it has none. -/
def SetClass.unfiled? (c : SetClass) : Option NoFile :=
  match c.file with
  | .ok _ => none
  | .error e => some e

/-- What the class of all function sets says of itself. -/
def baseDoc : String :=
  "Base class for function sets. An instance is bound to exactly one\n"
    ++ "    project context for its whole life, and is only ever used by the\n"
    ++ "    evaluation session that created it.\n\n"
    ++ "    Construction does no validation; each function checks its own\n"
    ++ "    preconditions when called.\n    "

/-- The class of all function sets. It has no namespace. -/
def SetClass.base : SetClass :=
  { id := 0, name := "FunctionSet", file := .ok "", space := .none, doc := some baseDoc, entries := []
    attributes := .empty, construct := fun _ => .ok .empty }

end BuildScript
