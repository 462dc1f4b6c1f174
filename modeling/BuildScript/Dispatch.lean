import BuildScript.Registry

/-!
Dispatch: a call is resolved in the registry, its arguments are coerced, the function set of its
namespace is bound if that has not been done before, and its method is run. What goes wrong on the way
comes back as a failure of the call. Three things escape: an integer that is too large for a
floating-point parameter, a bound set that lacks the method of a function that was registered later, and a
value in a message that cannot be shown.
-/

namespace BuildScript

/-- A call of a function. -/
structure Call where
  space : String
  function : String
  args : List Value := []
  deriving Repr

/-- The text of a call. -/
def Call.text (c : Call) : String := callText c.space c.function c.args

/-- The text that shows a call. -/
def Call.shown (c : Call) : String := "<CallDescriptor " ++ c.text ++ ">"

/-- What stands against the text of a call. -/
def Call.obstacle? (c : Call) : Option Obstacle := Value.obstacleAll? c.args

/-- A call as something that a record tells of. -/
def Call.told (c : Call) : Told := .thing c.text c.shown c.obstacle?

/-- What a call comes to. -/
inductive CallResult where
  | value (v : Value)
  | failure (f : CallFailure)
  deriving Repr

namespace CallResult

/-- Whether the call has not failed. -/
def isOk : CallResult → Bool
  | value _ => true
  | failure _ => false

/-- The value, or the fault of the failed call. -/
def unwrap : CallResult → Except Fault Value
  | value v => .ok v
  | failure f => .error (.ofFailure f)

/-- The text that shows a result, if its value can be shown. -/
def display : CallResult → Except Obstacle String
  | value v => v.display.map fun s => "<CallResult value=" ++ s ++ ">"
  | failure f => .ok ("<CallResult failure=" ++ f.shown ++ ">")

end CallResult

/-- What no result of a call accounts for. -/
inductive Escape where
  /-- An argument is neither coerced nor of a wrong type. -/
  | coercion (e : CoercionError)
  /-- The bound set of the class has no such method. -/
  | noMethod (cls method : String)
  /-- A value cannot be shown. -/
  | unshowable (o : Obstacle)
  deriving Repr

/-- What is raised for a value that is not coerced. -/
def CoercionError.raised : CoercionError → Raised
  | mismatch m =>
    match m.obstacle? with
    | some o => .ofObstacle o
    | none => .fault (.of .argumentTypeMismatch m.message)
  | overflow => .ofText "OverflowError" "int too large to convert to float"
  | notKey typeName => .ofText "TypeError" ("unhashable type: '" ++ typeName ++ "'")

/-- What is raised when something escapes. -/
def Escape.raised : Escape → Raised
  | coercion e => e.raised
  | noMethod cls method =>
    .ofText "AttributeError" ("'" ++ cls ++ "' object has no attribute '" ++ method ++ "'")
  | unshowable o => .ofObstacle o

/-- A function set that a session has made of a class. -/
structure BoundSet where
  cls : SetClass
  memory : Memory

/-- The sets that a session has bound, by namespace. -/
abbrev Bindings := Table String BoundSet

/-- The state of a session after a step, what the step came to, and what happened. -/
structure Dispatched (ε α : Type) where
  outcome : Except ε α
  bindings : Bindings
  events : List Event

/-! ## Binding -/

/-- Makes a function set of a class. -/
def SetClass.bind (c : SetClass) (s : Scene) : Except Raised BoundSet × Event :=
  ((c.construct s).map fun memory => ⟨c, memory⟩, .constructed c.id)

/-- The function set that a session has for a namespace, bound now if it has not been before. -/
def bindSet (r : Registry) (s : Scene) (bindings : Bindings) (space : String) :
    Dispatched Raised BoundSet :=
  match bindings.get? space with
  | some b => ⟨.ok b, bindings, []⟩
  | none =>
    match r.getSet space with
    | .error e => ⟨.error (.fault e.fault), bindings, []⟩
    | .ok p =>
      let (made, event) := p.cls.bind s
      match made with
      | .error e => ⟨.error e, bindings, [event]⟩
      | .ok b => ⟨.ok b, bindings.put space b, [event]⟩

/-! ## Methods of bound sets -/

/-- What a name stands for in a bound set. What the set holds of its own comes before what its class
has. -/
def BoundSet.lookup (b : BoundSet) (s : Scene) (name : String) : Option Found :=
  if name = "project" then some (.uncallable "ProjectContext")
  else if name = "_properties" then
    some (.uncallable (if s.separate.isSome then "PropertyDictionary" else "NoneType"))
  else match b.memory.get? name with
    | some v => some (.uncallable v.type.name)
    | none => b.cls.find? name

/-- Names in a row, the last behind an `and`. -/
def andList : List String → String
  | [] => ""
  | [a] => a
  | [a, b] => a ++ " and " ++ b
  | names => ", ".intercalate names.dropLast ++ ", and " ++ names.getLastD ""

/-- The ending of a word for so many things. -/
def plural (n : Nat) : String := if n = 1 then "" else "s"

/-- What is said of parameters of a sort that go without arguments. -/
def missingText (sort : String) (missing : List Parameter) : String :=
  "() missing " ++ Number.natText missing.length ++ " required " ++ sort ++ " argument"
    ++ plural missing.length ++ ": " ++ andList (missing.map fun p => Text.quoted p.name)

/-- What is said of more arguments than there are places. -/
def excessText (places : List Parameter) (given : Nat) : String :=
  let needed := places.countP fun p => !p.optional
  let taken := if needed < places.length
    then "from " ++ Number.natText needed ++ " to " ++ Number.natText places.length
    else Number.natText places.length
  let ending := if needed < places.length then "s" else plural places.length
  "() takes " ++ taken ++ " positional argument" ++ ending ++ " but " ++ Number.natText given
    ++ (if given = 1 then " was" else " were") ++ " given"

/-- The parameters that take one argument each by their place. -/
def Method.places (m : Method) : List Parameter := m.written.filter (·.kind = .positional)

/-- The parameters that no call by place has an argument for, and that do not go without. -/
def Method.named (m : Method) : List Parameter :=
  m.written.filter fun p => p.kind = .keywordOnly && !p.optional

/-- Why a method does not take a number of arguments, if it does not: they are more than it has places
for, or some of its parameters go without. What it is called on counts as an argument. -/
def Method.refusal? (m : Method) (name : String) (given : Nat) : Option String :=
  let total := given + m.receiver.count
  let missing := (m.places.drop total).filter fun p => !p.optional
  let called := m.title.getD name
  if m.foreign then none
  else if m.places.length < total ∧ m.written.all (·.kind ≠ .variadic) then
    some (called ++ excessText m.places total)
  else if missing ≠ [] then some (called ++ missingText "positional" missing)
  else if m.named ≠ [] then some (called ++ missingText "keyword-only" m.named)
  else none

/-- The answer of a set that cannot run what it was asked to. -/
def BoundSet.refuse (b : BoundSet) (message : String) : Answer :=
  { result := .error (Raised.ofText "TypeError" message), memory := b.memory }

/-- Runs what was found under a name. -/
def BoundSet.run (b : BoundSet) (s : Scene) (name : String) (m : Found) (args : List Value) :
    Answer :=
  match m with
  | .uncallable typeName => b.refuse ("'" ++ typeName ++ "' object is not callable")
  | .method m =>
    match m.refusal? (b.cls.name ++ "." ++ name) args.length with
    | some message => b.refuse message
    | none =>
      let answer := m.run s b.memory args
      { answer with events := .ran b.cls.id name args :: answer.events }

/-! ## Calls -/

/-- What becomes of a call whose `n`-th argument is not coerced. -/
def notCoerced (n : Nat) (a : Value) : CoercionError → Escape ⊕ Fault
  | .mismatch m =>
    match m.obstacle? with
    | some o => .inl (.unshowable o)
    | none => .inr (.of .argumentTypeMismatch
        ("Invalid argument " ++ Number.natText n ++ " (" ++ a.shown ++ "): " ++ m.message))
  | e => .inl (.coercion e)

/-- Coerces arguments to the types of parameters, counting from `n`. -/
def coerceArgs (n : Nat) : List Value → List TypeName → Except (Escape ⊕ Fault) (List Value)
  | a :: args, t :: types =>
    match coerce a (.type t) with
    | .error e => .error (notCoerced n a e)
    | .ok v => (coerceArgs (n + 1) args types).map (v :: ·)
  | _, _ => .ok []

/-- Whether what was raised is a fault of a function. -/
def Raised.functionFault? : Raised → Option Fault
  | .fault f => match f.head with
    | .own c _ _ => if c.below .function then some f else none
    | .call _ _ => none
  | .other _ => none

/-- The fault of a function that was meant by what was raised, wrapped unless it is one already. An error
that cannot be shown cannot be wrapped. -/
def Raised.wrapped (what : String) (e : Raised) : Escape ⊕ Fault :=
  match e.functionFault?, e.obstacle? with
  | some f, _ => .inr f
  | none, some o => .inl (.unshowable o)
  | none, none => .inr (.because .invocation (what ++ ": " ++ e.text) e)

/-- The logger of dispatch. -/
def dispatchLogger : String := "buildfuncs.dispatch"

/-- The record that a call is made. -/
def Call.announcement (c : Call) : Record :=
  { level := .debug, logger := dispatchLogger, parts := [.literal "Invoking ", .gap c.told] }

/-- The record that a function is deprecated. -/
def Descriptor.deprecation (d : Descriptor) : Record :=
  { level := .warning, logger := dispatchLogger
    parts := [.literal "Function '", .gap (.text d.qualified), .literal "' is deprecated."] }

/-- The record of a failure: its kind and its message. -/
def CallFailure.report (f : CallFailure) : Record :=
  { level := .info, logger := dispatchLogger
    parts := [.literal "Function call failed (", .gap (.thing f.kind.name f.kind.shown), .literal "): ",
      .gap (.text f.message)] }

/-- The record of an error that led to the failure of a call. -/
def Call.underlying (c : Call) (e : Raised) : Record :=
  { level := .debug, logger := dispatchLogger
    parts := [.literal "Underlying error for ", .gap c.told], error := some (e.className, e.text) }

/-- The warning that a function is deprecated, if it is. -/
def Descriptor.warning (d : Descriptor) : List Event :=
  if d.deprecated then [.logged d.deprecation] else []

/-- Runs the function of a descriptor with coerced arguments on the bound set of its namespace. -/
def runFunction (r : Registry) (s : Scene) (bindings : Bindings) (c : Call) (d : Descriptor)
    (args : List Value) : Dispatched (Escape ⊕ Fault) Value :=
  let bound := bindSet r s bindings c.space
  match bound.outcome with
  | .error e =>
    ⟨.error (e.wrapped ("Could not create the '" ++ c.space ++ "' function set")),
      bound.bindings, bound.events⟩
  | .ok b =>
    match b.lookup s d.method with
    | none => ⟨.error (.inl (.noMethod b.cls.name d.method)), bound.bindings, bound.events⟩
    | some m =>
      let answer := b.run s d.method m args
      ⟨answer.result.mapError (·.wrapped "Function call failed"),
        bound.bindings.put c.space { b with memory := answer.memory },
        bound.events ++ d.warning ++ answer.events⟩

/-- Resolves a call, coerces its arguments and runs its function. -/
def perform (r : Registry) (s : Scene) (bindings : Bindings) (c : Call) :
    Dispatched (Escape ⊕ Fault) Value :=
  match r.resolve c.space c.function c.args.length with
  | .error e => ⟨.error (.inr e.fault), bindings, []⟩
  | .ok d =>
    match coerceArgs 1 c.args d.params with
    | .error e => ⟨.error e, bindings, []⟩
    | .ok args => runFunction r s bindings c d args

/-- The failure of a call for a fault. -/
def Call.failure (c : Call) (f : Fault) : CallFailure :=
  .ofReason c.space c.function c.args (f.head.kind?.getD .invocationFailed) f.head.message

/-- The records of a failed call: that it failed, and what led to it. -/
def failureEvents (c : Call) (f : Fault) : List Event :=
  .logged (c.failure f).report :: (f.prior?.map fun e => .logged (c.underlying e)).toList

/-- What happens when a call is made, whatever it comes to. -/
def Call.announced (c : Call) : List Event := [.logged c.announcement]

/-- Makes a call. It is put on record first, whether it can be shown or not. The message of a failure shows
the call, and there is no failure if that cannot be shown. -/
def invoke (r : Registry) (s : Scene) (bindings : Bindings) (c : Call) :
    Dispatched Escape CallResult :=
  let d := perform r s bindings c
  let events := c.announced ++ d.events
  match d.outcome with
  | .ok v => ⟨.ok (.value v), d.bindings, events⟩
  | .error (.inl e) => ⟨.error e, d.bindings, events⟩
  | .error (.inr f) =>
    match c.obstacle? with
    | some o => ⟨.error (.unshowable o), d.bindings, events⟩
    | none => ⟨.ok (.failure (c.failure f)), d.bindings, events ++ failureEvents c f⟩

/-- Makes a call for its value; a failure is raised. -/
def call (r : Registry) (s : Scene) (bindings : Bindings) (c : Call) :
    Dispatched (Escape ⊕ Fault) Value :=
  let d := invoke r s bindings c
  ⟨match d.outcome with
    | .error e => .error (.inl e)
    | .ok result => result.unwrap.mapError .inr,
    d.bindings, d.events⟩

/-- Makes calls for their values, one after the other, up to the first that fails. -/
def callAll (r : Registry) (s : Scene) (bindings : Bindings) :
    List Call → Dispatched (Escape ⊕ Fault) (List Value)
  | [] => ⟨.ok [], bindings, []⟩
  | c :: cs =>
    let d := call r s bindings c
    match d.outcome with
    | .error e => ⟨.error e, d.bindings, d.events⟩
    | .ok v =>
      let rest := callAll r s d.bindings cs
      ⟨rest.outcome.map (v :: ·), rest.bindings, d.events ++ rest.events⟩

end BuildScript
