import BuildScript.Number.Numeral
import BuildScript.Text.Case
import BuildScript.Value.Obstacle

/-!
Coercion of arguments to declared types. A text is taken for a flag, an integer or a number if it reads
as one, and an integer for a number; nothing else is converted. A value of any other declared type has
to be of exactly that type. An instance of the host that is a text or a number is taken for what it is.
-/

namespace BuildScript

/-- What stands where a type is declared: a type, or by mistake some other value. -/
inductive Declared where
  | type (t : TypeName)
  | value (v : Value)
  deriving Repr

namespace Declared

/-- Whether a type was declared. -/
def isType : Declared → Bool
  | type _ => true
  | value _ => false

/-- The name to show. -/
def name : Declared → String
  | type t => t.name
  | value v => v.plain

/-- What stands against showing the name. -/
def obstacle? : Declared → Option Obstacle
  | type _ => none
  | value v => v.obstacle?

end Declared

/-- Why a value is not what was declared. -/
inductive Mismatch where
  | notText (v : Value)
  | notFlag (v : Value)
  | flagForInteger (b : Bool)
  | notInteger (v : Value)
  | flagForNumber (b : Bool)
  | notNumber (v : Value)
  | notOfType (declared : Declared) (v : Value)
  deriving Repr

/-- The message of a mismatch. -/
def Mismatch.message : Mismatch → String
  | notText v => "Expected a string, got " ++ v.shown ++ " of type " ++ v.type.name ++ "."
  | notFlag v => "Expected a boolean ('true' or 'false'), got " ++ v.shown ++ "."
  | flagForInteger b => "Expected an integer, got boolean " ++ flagText b ++ "."
  | notInteger v => "Expected an integer, got " ++ v.shown ++ "."
  | flagForNumber b => "Expected a number, got boolean " ++ flagText b ++ "."
  | notNumber v => "Expected a number, got " ++ v.shown ++ "."
  | notOfType declared v =>
    "Expected a value of type " ++ declared.name ++ ", got " ++ v.shown ++ " of type "
      ++ v.type.name ++ "."

/-- What stands against showing what the message of a mismatch shows. -/
def Mismatch.obstacle? : Mismatch → Option Obstacle
  | notText v | notFlag v | notInteger v | notNumber v => v.obstacle?
  | flagForInteger _ | flagForNumber _ => none
  | notOfType declared v => declared.obstacle? <|> v.obstacle?

/-- Why a coercion has no value. -/
inductive CoercionError where
  | mismatch (m : Mismatch)
  /-- The integer is too large for a floating-point number. -/
  | overflow
  /-- What is declared is no type, and of a type whose values cannot be looked up. -/
  | notKey (typeName : String)
  deriving Repr

namespace Value

/-- A text, as it is. -/
def toText (v : Value) : Except CoercionError Value :=
  match v.bare with
  | text _ => .ok v
  | _ => .error (.mismatch (.notText v))

/-- A flag, or one of its two names in any case. -/
def toFlag (v : Value) : Except CoercionError Value :=
  match v.bare with
  | bool _ => .ok v
  | text s =>
    if Text.lower s = "true" then .ok (bool true)
    else if Text.lower s = "false" then .ok (bool false)
    else .error (.mismatch (.notFlag v))
  | _ => .error (.mismatch (.notFlag v))

/-- An integer, or the text of one. A flag is no integer. -/
def toInteger (v : Value) : Except CoercionError Value :=
  match v.bare with
  | bool b => .error (.mismatch (.flagForInteger b))
  | int _ => .ok v
  | text s =>
    match Number.intOfText? s with
    | some i => .ok (int i)
    | Option.none => .error (.mismatch (.notInteger v))
  | _ => .error (.mismatch (.notInteger v))

/-- A floating-point number, an integer as one, or the text of one. A flag is no number. -/
def toNumber (v : Value) : Except CoercionError Value :=
  match v.bare with
  | bool b => .error (.mismatch (.flagForNumber b))
  | int i =>
    match Number.Binary64.ofInt? i with
    | some x => .ok (float x)
    | Option.none => .error .overflow
  | float x => .ok (float x)
  | text s =>
    match Number.floatOfText? s with
    | some x => .ok (float x)
    | Option.none => .error (.mismatch (.notNumber v))
  | _ => .error (.mismatch (.notNumber v))

mutual

/-- The type of the first part of a value that keeps it from being a key: a collection that can change. -/
def notKey? : Value → Option TypeName
  | list _ => some .list
  | dict _ => some .dict
  | tuple xs => notKeyAmong? xs
  | _ => Option.none

/-- The type of the first part of some values that keeps them from being keys. -/
def notKeyAmong? : List Value → Option TypeName
  | [] => Option.none
  | x :: rest => x.notKey? <|> notKeyAmong? rest

end

end Value

/-- Coerces a value to what was declared. -/
def coerce (v : Value) : Declared → Except CoercionError Value
  | .type .text => v.toText
  | .type .bool => v.toFlag
  | .type .int => v.toInteger
  | .type .float => v.toNumber
  | .type t => if v.type = t then .ok v else .error (.mismatch (.notOfType (.type t) v))
  | .value w =>
    match w.notKey? with
    | some t => .error (.notKey t.name)
    | none => .error (.mismatch (.notOfType (.value w) v))

end BuildScript
