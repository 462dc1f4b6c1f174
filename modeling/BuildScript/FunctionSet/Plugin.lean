import BuildScript.FunctionSet.Descriptor
import BuildScript.FunctionSet.Inherited
import BuildScript.Text.Blank

/-!
Plugins: function sets whose declaration has been checked. A namespace and the name of a function start
with a small letter and go on with small letters, digits and hyphens; the set describes itself; and
each entry names a method that takes as many arguments as the entry declares types. A method that does
not tell its parameters is not refused: what the language raises then is what the declaration comes to.
-/

namespace BuildScript

/-- Something that is no class of function sets: its text, and what stands against showing it. -/
structure Stray where
  shown : String
  obstacle? : Option Obstacle := none
  deriving Repr

/-- A text alone stands for something that can be shown. -/
instance : Coe String Stray where
  coe shown := { shown }

/-- What is wrong with a declaration. -/
inductive DeclarationError where
  | notASet (given : Stray)
  | invalidNamespace (space : Value) (cls : String)
  | noDescription (cls : String)
  | invalidName (name : Value) (space : String)
  | noMethod (space function method cls : String)
  /-- A method that does not tell its parameters; the language says so. -/
  | untold (e : Raised)
  | arityMismatch (space function : String) (taken declared : Nat)
  | invalidType (given : Value) (space function : String)
  deriving Repr

/-- The message that says what is wrong. -/
def DeclarationError.message : DeclarationError → String
  | notASet given => "Function set '" ++ given.shown ++ "' must be a FunctionSet subclass."
  | invalidNamespace space cls =>
    "Invalid namespace '" ++ space.plain ++ "' for function set " ++ cls
      ++ ". Namespaces must be lowercase identifiers."
  | noDescription cls =>
    "A function set description is required. Either add a doc string to " ++ cls
      ++ ", or provide a description argument."
  | invalidName name space =>
    "Invalid function name '" ++ name.plain ++ "' in function set '" ++ space ++ "'."
  | noMethod space function method cls =>
    "Function '" ++ qualifiedName space function ++ "' refers to method '" ++ method ++ "', which "
      ++ cls ++ " does not have."
  | untold e => e.text
  | arityMismatch space function taken declared =>
    "Invalid parameter types for '" ++ qualifiedName space function ++ "'. The method takes "
      ++ Number.natText taken ++ " arguments, but " ++ Number.natText declared
      ++ " parameter types were declared."
  | invalidType given space function =>
    "Invalid type '" ++ given.plain ++ "' declared for '" ++ qualifiedName space function ++ "'."

/-- What stands against the message. -/
def DeclarationError.obstacle? : DeclarationError → Option Obstacle
  | notASet given => given.obstacle?
  | invalidNamespace v _ | invalidName v _ | invalidType v _ _ => v.obstacle?
  | _ => none

/-- What is raised for a wrong declaration. -/
def DeclarationError.raised (e : DeclarationError) : Raised :=
  match e, e.obstacle? with
  | untold x, _ => x
  | _, some o => .ofObstacle o
  | _, none => .fault (.of .functionSet e.message)

/-- Whether a text is a name: a small letter, then small letters, digits and hyphens. -/
def isName (s : String) : Bool :=
  match s.toList with
  | [] => false
  | c :: cs => c.isLower && cs.all fun c => c.isLower || c.isDigit || c = '-'

/-- The name that a value is, if it is one. -/
def Value.name? (v : Value) : Option String := v.text?.filter isName

/-- What is offered as a function set: a class of them, or something else. -/
inductive Candidate where
  | set (c : SetClass)
  | other (given : Stray)

/-- The types that were declared, if they are all types; else the first value that is not one. -/
def declaredTypes : List Declared → Except Value (List TypeName)
  | [] => .ok []
  | .type t :: rest => (declaredTypes rest).map (t :: ·)
  | .value v :: _ => .error v

/-- The descriptor of an entry in the table of a class with this namespace. -/
def SetClass.describe (c : SetClass) (space : String) (e : Entry) :
    Except DeclarationError Descriptor :=
  match e.name.name? with
  | none => .error (.invalidName e.name space)
  | some name =>
    match c.method? e.method with
    | none => .error (.noMethod space name e.method c.name)
    | some m =>
      match m.taken with
      | .error x => .error (.untold x)
      | .ok taken =>
        if taken.length ≠ e.params.length then
          .error (.arityMismatch space name taken.length e.params.length)
        else
          match declaredTypes e.params, e.returns with
          | .error v, _ => .error (.invalidType v space name)
          | .ok _, .value v => .error (.invalidType v space name)
          | .ok params, .type returns =>
            .ok { space, name, method := e.method, params, returns, deprecated := e.deprecated
                  description := Text.collapse (m.doc.getD "") }

/-- A function set that can be registered, told apart by its identity. -/
structure Plugin where
  id : Nat
  space : String
  cls : SetClass
  description : String
  descriptors : List Descriptor

namespace Plugin

/-- What a class says of itself, if it says anything of its own. -/
def descriptionOf (c : SetClass) : Option String :=
  match c.doc with
  | none => none
  | some doc => if doc = baseDoc then none else some (Text.collapse doc)

/-- The plugin of a class. A description that is given stands for the one of the class. -/
def ofClass (id : Nat) (description : Option String) (c : SetClass) :
    Except DeclarationError Plugin :=
  match c.space.name? with
  | none => .error (.invalidNamespace c.space c.name)
  | some space =>
    match description <|> descriptionOf c with
    | none => .error (.noDescription c.name)
    | some description => do
      let descriptors ← c.entries.mapM (c.describe space)
      return { id, space, cls := c, description, descriptors }

/-- The plugin of what is offered. -/
def ofCandidate (id : Nat) (description : Option String) :
    Candidate → Except DeclarationError Plugin
  | .set c => ofClass id description c
  | .other given => .error (.notASet given)

/-- The names of the parameters of a function of the set: the last of those that its method lists, one
for each type. -/
def argNames (p : Plugin) (d : Descriptor) : List String :=
  match (p.cls.method? d.method).map Method.listed with
  | some (.ok listed) =>
    let names := listed.map (·.name)
    names.drop (names.length - d.arity)
  | some (.error _) | none => []

/-- The text that shows a plugin. -/
def shown (p : Plugin) : String := "<FunctionSetPlugin " ++ p.space ++ " (" ++ p.cls.name ++ ")>"

end Plugin

end BuildScript
