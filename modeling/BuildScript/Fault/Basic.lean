import BuildScript.Failure
import BuildScript.Fault.Other

/-!
Faults: what is raised when something goes wrong. A fault of this library has a class, a message, data
for the user, and the chain of faults that led to it, which may end in an error from outside. The
fault of a call carries the call's failure and takes its message from there.
-/

namespace BuildScript

/-- The classes of faults, that of failed calls apart. -/
inductive FaultClass where
  | base
  | config
  | registration
  | duplicateNamespace
  | duplicateSignature
  | functionSet
  | function
  | unknownNamespace
  | unknownFunction
  | argumentTypeMismatch
  | invalidState
  | unknownTarget
  | unknownTask
  | unknownProperty
  | fileNotFound
  | invocation
  deriving Repr, DecidableEq

namespace FaultClass

/-- The name of a class. -/
def name : FaultClass → String
  | base => "BuildFuncsError"
  | config => "ConfigError"
  | registration => "RegistrationError"
  | duplicateNamespace => "DuplicateNamespaceError"
  | duplicateSignature => "DuplicateSignatureError"
  | functionSet => "FunctionSetError"
  | function => "FunctionError"
  | unknownNamespace => "UnknownNamespaceError"
  | unknownFunction => "UnknownFunctionError"
  | argumentTypeMismatch => "ArgumentTypeMismatchError"
  | invalidState => "InvalidStateError"
  | unknownTarget => "UnknownTargetError"
  | unknownTask => "UnknownTaskError"
  | unknownProperty => "UnknownPropertyError"
  | fileNotFound => "ProbeFileNotFoundError"
  | invocation => "FunctionInvocationError"

/-- All classes. -/
def all : List FaultClass :=
  [base, config, registration, duplicateNamespace, duplicateSignature, functionSet, function,
   unknownNamespace, unknownFunction, argumentTypeMismatch, invalidState, unknownTarget, unknownTask,
   unknownProperty, fileNotFound, invocation]

/-- The class with the given name. -/
def ofName? (s : String) : Option FaultClass := all.find? fun c => c.name = s

/-- The class that a class is a special case of. -/
def parent : FaultClass → FaultClass
  | base => base
  | config => base
  | registration => base
  | function => base
  | duplicateNamespace => registration
  | duplicateSignature => registration
  | functionSet => registration
  | _ => function

/-- Whether a class is the other one or a special case of it. -/
def below (a b : FaultClass) : Bool := a = b || a.parent = b || a.parent.parent = b

/-- The kind of failure that a call has when its function raises the class; only the classes below
`function` have one. -/
def kind? : FaultClass → Option FailureKind
  | function => some .invocationFailed
  | unknownNamespace => some .unknownNamespace
  | unknownFunction => some .unknownFunction
  | argumentTypeMismatch => some .argumentTypeMismatch
  | invalidState => some .invalidState
  | unknownTarget => some .unknownTarget
  | unknownTask => some .unknownTask
  | unknownProperty => some .unknownProperty
  | fileNotFound => some .fileNotFound
  | invocation => some .invocationFailed
  | _ => none

theorem ofName?_name (c : FaultClass) : ofName? c.name = some c := by
  cases c <;> decide

theorem isSome_kind?_iff (c : FaultClass) : c.kind?.isSome = c.below .function := by
  cases c <;> decide

end FaultClass

/-- One fault of a chain, without those that led to it. -/
inductive Link where
  | own (cls : FaultClass) (message : String) (data : Value)
  | call (failure : CallFailure) (data : Value)
  deriving Repr

namespace Link

/-- The name of the link's class. -/
def className : Link → String
  | own c _ _ => c.name
  | call _ _ => "FunctionCallError"

/-- The message. -/
def message : Link → String
  | own _ m _ => m
  | call f _ => f.message

/-- The data for the user. -/
def data : Link → Value
  | own _ _ d => d
  | call _ d => d

/-- The kind of failure, where the class has one. -/
def kind? : Link → Option FailureKind
  | own c _ _ => c.kind?
  | call f _ => some f.kind

/-- Whether the class of a link is that of the other or a special case of it. -/
def below : Link → Link → Bool
  | own a _ _, own b _ _ => a.below b
  | call _ _, call _ _ => true
  | call _ _, own b _ _ => b = .base
  | own _ _ _, call _ _ => false

end Link

/-- A fault of this library: its own link, the links that led to it, nearest first, and the error from
outside at the end of the chain. -/
structure Fault where
  head : Link
  priors : List Link := []
  root : Option OtherError := none
  deriving Repr

/-- Anything that can be raised. -/
inductive Raised where
  | fault (f : Fault)
  | other (e : OtherError)
  deriving Repr

instance : Inhabited Raised := ⟨.other default⟩

namespace Fault

/-- A fault with a message and nothing that led to it. -/
def of (cls : FaultClass) (message : String) : Fault := { head := .own cls message .none }

/-- A fault with what led to it. -/
def ofLink (head : Link) (prior : Raised) : Fault :=
  match prior with
  | .fault f => { head, priors := f.head :: f.priors, root := f.root }
  | .other e => { head, root := some e }

/-- A fault with a message and what led to it. -/
def because (cls : FaultClass) (message : String) (prior : Raised) : Fault :=
  ofLink (.own cls message .none) prior

/-- What led to the fault. -/
def prior? (f : Fault) : Option Raised :=
  match f.priors with
  | l :: ls => some (.fault { head := l, priors := ls, root := f.root })
  | [] => f.root.map .other

theorem prior?_because (cls : FaultClass) (message : String) (prior : Raised) :
    (because cls message prior).prior? = some prior := by
  cases prior with
  | fault f => rfl
  | other e => rfl

/-- The messages of the chain from the fault on. -/
def messages (f : Fault) : List String :=
  (f.head :: f.priors).map Link.message ++ (f.root.map OtherError.text).toList

/-- The text of a fault: the messages of its chain. -/
def text (f : Fault) : String := ": ".intercalate f.messages

/-- What stands against the text of a fault. -/
def obstacle? (f : Fault) : Option Obstacle := f.root.bind OtherError.obstacle?

/-- The fault of a failed call. -/
def ofFailure (failure : CallFailure) : Fault := { head := .call failure .none }

end Fault

namespace Raised

/-- The name of the class. -/
def className : Raised → String
  | fault f => f.head.className
  | other e => e.className

/-- The text of what was raised. -/
def text : Raised → String
  | fault f => f.text
  | other e => e.text

/-- What stands against the text of what was raised. -/
def obstacle? : Raised → Option Obstacle
  | fault f => f.obstacle?
  | other e => e.obstacle?

/-- An error from outside with a text. -/
def ofText (className message : String) : Raised := .other (OtherError.ofText className message)

/-- What stands against showing a value, as it is raised. -/
def ofObstacle (o : Obstacle) : Raised := ofText o.className o.message

end Raised

end BuildScript
