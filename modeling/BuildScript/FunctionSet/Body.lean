import BuildScript.FunctionSet.Basic

/-!
Methods written as data: constants, arguments, arithmetic on the arguments, questions about the build,
a counter that the set keeps for itself, and errors. Sets of such methods are told apart from those of
the library only by what they do.
-/

namespace BuildScript

open Number (Binary64)

/-- What a method does. -/
inductive Body where
  | const (v : Value)
  | argument (index : Nat)
  | arguments
  /-- The sum of the arguments, from zero. -/
  | sum
  /-- Half of the first argument, as a floating-point number. -/
  | half
  | concat
  /-- Puts the arguments on record. -/
  | record
  | raise (e : Raised)
  /-- How often such a method of the set has run, this time included. -/
  | uses
  | projectName
  | propertyNames
  deriving Repr

/-- An error from outside with a text, as a result. -/
def raiseText {α : Type} (className message : String) : Except Raised α :=
  .error (Raised.ofText className message)

/-- A number as a floating-point one. -/
def Value.binary64 (v : Value) : Option (Except Raised Binary64) :=
  match v.bare, v.integer? with
  | .float x, _ => some (.ok x)
  | _, some i =>
    match Binary64.ofInt? i with
    | some x => some (.ok x)
    | Option.none => some (raiseText "OverflowError" "int too large to convert to float")
  | _, Option.none => Option.none

/-- The sum of two numbers; an integer unless one of them is a floating-point number. -/
def Value.add (a b : Value) : Except Raised Value :=
  match a.integer?, b.integer? with
  | some i, some j => .ok (.int (i + j))
  | _, _ =>
    match a.binary64, b.binary64 with
    | some x, some y => do return .float ((← x).add (← y))
    | _, _ =>
      raiseText "TypeError" ("unsupported operand type(s) for +: '" ++ a.type.name ++ "' and '"
        ++ b.type.name ++ "'")

/-- Half of a number. -/
def Value.halved (a : Value) : Except Raised Value :=
  match a.integer?, a.bare with
  | some i, _ =>
    match Binary64.halfOfInt? i with
    | some x => .ok (.float x)
    | Option.none => raiseText "OverflowError" "integer division result too large for a float"
  | Option.none, .float x => .ok (.float x.half)
  | Option.none, _ =>
    raiseText "TypeError" ("unsupported operand type(s) for /: '" ++ a.type.name ++ "' and 'int'")

/-- The name of the counter that a set keeps. -/
def usesName : String := "uses"

/-- The memory after one more use, and the number of uses. -/
def countUse (m : Memory) : Memory × Value :=
  let n := ((m.get? usesName).bind Value.integer?).getD 0 + 1
  (m.put usesName (.int n), .int n)

/-- What a method comes to that changes nothing. -/
def Answer.pure (m : Memory) (result : Except Raised Value) : Answer := { result, memory := m }

/-- Runs a body. -/
def Body.run (b : Body) (s : Scene) (m : Memory) (args : List Value) : Answer :=
  match b with
  | const v => .pure m (.ok v)
  | argument i =>
    .pure m (match args[i]? with
      | some v => .ok v
      | none => raiseText "IndexError" "tuple index out of range")
  | arguments => .pure m (.ok (.list args))
  | sum => .pure m (args.foldlM Value.add (.int 0))
  | half =>
    .pure m (match args with
      | v :: _ => v.halved
      | [] => raiseText "IndexError" "tuple index out of range")
  | concat => .pure m (.ok (.text (String.join (args.map Value.plain))))
  | record => { result := .ok (.text ""), memory := m, events := [.noted args] }
  | raise e => .pure m (.error e)
  | uses => let (after, n) := countUse m; .pure after (.ok n)
  | projectName => .pure m (.ok (match s.project.name with | some n => .text n | none => .none))
  | propertyNames => .pure m (.ok (.list (s.properties.keys.map .text)))

/-- The memory of a set whose methods are written as data, when it is made. -/
def freshMemory : Memory := Table.empty.put usesName (.int 0)

/-- A method with a body and these parameters behind what it is called on. -/
def Body.method (b : Body) (receiver : Receiver) (params : List Parameter) (doc : Option String) :
    Method :=
  { receiver, doc, run := b.run
    written := if receiver = .nothing then params else { name := "self" } :: params }

end BuildScript
