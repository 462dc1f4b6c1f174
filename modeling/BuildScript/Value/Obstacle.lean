import BuildScript.Number.Integer
import BuildScript.Value.Basic

/-!
What stands against showing a value: an integer in it with too many digits, a task builder whose assembly
has no name, or an instance of the host whose class raises. Of several the first in the text counts. Main
statement: a list of values can be shown exactly if each of them can.
-/

namespace BuildScript

namespace Obstacle

/-- The class of the error that an obstacle is. -/
def className : Obstacle → String
  | longInteger => "ValueError"
  | nameless _ => "AttributeError"
  | raised className _ => className

/-- The message of the error that an obstacle is. -/
def message : Obstacle → String
  | longInteger => Number.limitText ""
  | nameless typeName => "'" ++ typeName ++ "' object has no attribute 'name'"
  | raised _ message => message

end Obstacle

namespace Value

/-- Whether a value has a name. -/
def isNamed : Value → Bool
  | assembly _ | target _ _ | property .. | taskBuilder .. | platform _ _ => true
  | host _ h => h.name?.isSome
  | _ => false

mutual

/-- The first thing that stands against showing a value. -/
def obstacle? : Value → Option Obstacle
  | int i => if Number.isTooLong i then some .longInteger else Option.none
  | list xs => obstacleAll? xs
  | tuple xs => obstacleAll? xs
  | dict es => obstacleEntries? es
  | property _ _ v _ _ => v.obstacle?
  | taskBuilder _ _ a _ => if a.isNamed then Option.none else some (.nameless a.type.name)
  | host _ h => h.obstacle?
  | _ => Option.none

/-- The first thing that stands against showing some values. -/
def obstacleAll? : List Value → Option Obstacle
  | [] => Option.none
  | x :: rest => x.obstacle? <|> obstacleAll? rest

/-- The first thing that stands against showing the entries of a dictionary. -/
def obstacleEntries? : List (Value × Value) → Option Obstacle
  | [] => Option.none
  | (k, v) :: rest => k.obstacle? <|> v.obstacle? <|> obstacleEntries? rest

end

/-- A result, unless something stands against it. -/
def barring {α : Type} (a : α) : Option Obstacle → Except Obstacle α
  | some o => .error o
  | Option.none => .ok a

/-- The text that shows a value, if it can be shown. -/
def display (v : Value) : Except Obstacle String := barring v.shown v.obstacle?

/-- The text that stands for a value in running text, if it can be shown. -/
def displayPlain (v : Value) : Except Obstacle String := barring v.plain v.obstacle?

theorem obstacleAll?_eq_none_iff (xs : List Value) :
    obstacleAll? xs = Option.none ↔ ∀ x ∈ xs, x.obstacle? = Option.none := by
  induction xs with
  | nil => simp [obstacleAll?]
  | cons x xs ih =>
    rw [obstacleAll?]
    cases h : x.obstacle? with
    | none => simpa [h] using ih
    | some o => simp [h]

end Value

end BuildScript
