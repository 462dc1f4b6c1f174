import BuildScript.Value.Equal

/-!
Failures of calls, as they are handed to whoever evaluates a script: which function was called with
what, what kind of thing went wrong, and a message that names the call.
-/

namespace BuildScript

/-- The kinds of failure of a call. -/
inductive FailureKind where
  | unknownNamespace
  | unknownFunction
  | argumentTypeMismatch
  | invalidState
  | unknownTarget
  | unknownTask
  | unknownProperty
  | fileNotFound
  | invocationFailed
  deriving Repr, DecidableEq

namespace FailureKind

/-- The name of a kind. -/
def name : FailureKind → String
  | unknownNamespace => "UnknownNamespace"
  | unknownFunction => "UnknownFunction"
  | argumentTypeMismatch => "ArgumentTypeMismatch"
  | invalidState => "InvalidState"
  | unknownTarget => "UnknownTarget"
  | unknownTask => "UnknownTask"
  | unknownProperty => "UnknownProperty"
  | fileNotFound => "FileNotFound"
  | invocationFailed => "InvocationFailed"

/-- The name of a kind in the code that reports it. -/
def constant : FailureKind → String
  | unknownNamespace => "UNKNOWN_NAMESPACE"
  | unknownFunction => "UNKNOWN_FUNCTION"
  | argumentTypeMismatch => "ARGUMENT_TYPE_MISMATCH"
  | invalidState => "INVALID_STATE"
  | unknownTarget => "UNKNOWN_TARGET"
  | unknownTask => "UNKNOWN_TASK"
  | unknownProperty => "UNKNOWN_PROPERTY"
  | fileNotFound => "FILE_NOT_FOUND"
  | invocationFailed => "INVOCATION_FAILED"

/-- The text that shows a kind. -/
def shown (k : FailureKind) : String := "<ErrorKind." ++ k.constant ++ ": '" ++ k.name ++ "'>"

/-- All kinds. -/
def all : List FailureKind :=
  [unknownNamespace, unknownFunction, argumentTypeMismatch, invalidState, unknownTarget, unknownTask,
   unknownProperty, fileNotFound, invocationFailed]

/-- The kind with the given name. -/
def ofName? (s : String) : Option FailureKind := all.find? fun k => k.name = s

theorem ofName?_name (k : FailureKind) : ofName? k.name = some k := by
  cases k <;> decide

end FailureKind

/-- The name of a function with its namespace. -/
def qualifiedName (space function : String) : String := space ++ "::" ++ function

/-- The text of a call. -/
def callText (space function : String) (args : List Value) : String :=
  qualifiedName space function ++ "(" ++ Value.shownList args ++ ")"

/-- A failed call. -/
structure CallFailure where
  space : String
  function : String
  kind : FailureKind
  message : String
  arguments : List Value
  deriving Repr

namespace CallFailure

/-- The name of the function that was called. -/
def qualified (f : CallFailure) : String := qualifiedName f.space f.function

/-- The text that shows a failure. -/
def shown (f : CallFailure) : String := "<CallFailure " ++ f.kind.name ++ " " ++ f.message ++ ">"

/-- Whether two failures agree in all they hold. -/
def eq (a b : CallFailure) : Bool :=
  a.space = b.space && a.function = b.function && a.kind = b.kind && a.message = b.message
    && Value.eqAll a.arguments b.arguments

/-- The failure of a call for a reason. -/
def ofReason (space function : String) (args : List Value) (kind : FailureKind) (reason : String) :
    CallFailure :=
  ⟨space, function, kind, callText space function args ++ ": " ++ reason, args⟩

end CallFailure

end BuildScript
