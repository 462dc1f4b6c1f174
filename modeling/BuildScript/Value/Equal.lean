import BuildScript.Value.Basic

/-!
Equality of values. Flags, integers and floating-point numbers are compared as numbers, whatever their
type, and instances of the host that are texts or numbers as what they are; dictionaries hold the same
entries in any order; assemblies are compared by their data, and the other things of a build and the other
instances of the host by their identity.
-/

namespace BuildScript.Value

open Number (Binary64)

/-- A flag as a number. -/
def flagNumber (b : Bool) : Int := if b then 1 else 0

/-- An integer, or a flag as one. -/
def integer? (v : Value) : Option Int :=
  match v.bare with
  | int i => some i
  | bool b => some (flagNumber b)
  | _ => Option.none

/-- Whether an integer equals a value. -/
def eqInteger (a : Int) (w : Value) : Bool :=
  match w.bare with
  | bool b => a = flagNumber b
  | int b => a = b
  | float b => b.eqInt a
  | _ => false

/-- Whether a floating-point number equals a value. -/
def eqNumber (a : Binary64) (w : Value) : Bool :=
  match w.bare with
  | bool b => a.eqInt (flagNumber b)
  | int b => a.eqInt b
  | float b => a.eq b
  | _ => false

/-- Whether a text equals a value. -/
def eqText (a : String) (w : Value) : Bool :=
  match w.bare with
  | text b => a = b
  | _ => false

mutual

/-- Whether two values are equal. -/
def eq : Value → Value → Bool
  | none, w => match w with | none => true | _ => false
  | bool a, w => eqInteger (flagNumber a) w
  | int a, w => eqInteger a w
  | float a, w => eqNumber a w
  | text a, w => eqText a w
  | bytes a, w => match w with | bytes b => a = b | _ => false
  | list a, w => match w with | list b => eqAll a b | _ => false
  | tuple a, w => match w with | tuple b => eqAll a b | _ => false
  | dict a, w => match w with
    | dict b => a.length = b.length && eqEntries a b
    | _ => false
  | assembly a, w => match w with | assembly b => a.same b | _ => false
  | target i _, w => match w with | target j _ => i = j | _ => false
  | property i .., w => match w with | property j .. => i = j | _ => false
  | taskBuilder i .., w => match w with | taskBuilder j .. => i = j | _ => false
  | platform i _, w => match w with | platform j _ => i = j | _ => false
  | host i h, w =>
    match h.nature with
    | .text a => eqText a w
    | .int a => eqInteger a w
    | .float a => eqNumber a w
    | .other => match w.bare with | host j _ => i = j | _ => false

/-- Whether two lists are of one length and equal value by value. -/
def eqAll : List Value → List Value → Bool
  | [], bs => bs.isEmpty
  | a :: as, bs => match bs with
    | b :: bs => eq a b && eqAll as bs
    | [] => false

/-- Whether each entry has an equal one on the other side. -/
def eqEntries : List (Value × Value) → List (Value × Value) → Bool
  | [], _ => true
  | (k, v) :: rest, bs => bs.any (fun e => eq k e.1 && eq v e.2) && eqEntries rest bs

end

/-- Adds an entry to a dictionary; an equal key keeps its place and takes the new value. -/
def putEntry (k v : Value) : List (Value × Value) → List (Value × Value)
  | [] => [(k, v)]
  | (k', v') :: rest => if eq k' k then (k', v) :: rest else (k', v') :: putEntry k v rest

/-- A dictionary that entries make when they are added in turn. -/
def dictOf (entries : List (Value × Value)) : Value :=
  dict (entries.foldl (fun es e => putEntry e.1 e.2 es) [])

/-- Whether an integer is below a value; nothing if the two have no order. -/
def integerLess? (a : Int) (w : Value) : Option Bool :=
  match w.bare with
  | bool b => some (decide (a < flagNumber b))
  | int b => some (decide (a < b))
  | float b => some (b.gtInt a)
  | _ => Option.none

/-- Whether a floating-point number is below a value; nothing if the two have no order. -/
def numberLess? (a : Binary64) (w : Value) : Option Bool :=
  match w.bare with
  | bool b => some (a.ltInt (flagNumber b))
  | int b => some (a.ltInt b)
  | float b => some (a.lt b)
  | _ => Option.none

/-- Whether a text is below a value; nothing if the two have no order. -/
def textLess? (a : String) (w : Value) : Option Bool :=
  match w.bare with
  | text b => some (decide (a < b))
  | _ => Option.none

mutual

/-- Whether one value is below another; nothing if the two have no order. -/
def less? : Value → Value → Option Bool
  | bool a, w => integerLess? (flagNumber a) w
  | int a, w => integerLess? a w
  | float a, w => numberLess? a w
  | text a, w => textLess? a w
  | bytes a, w => match w with
    | bytes b => some (decide (a.map UInt8.toNat < b.map UInt8.toNat))
    | _ => Option.none
  | list a, w => match w with | list b => lessAll? a b | _ => Option.none
  | tuple a, w => match w with | tuple b => lessAll? a b | _ => Option.none
  | host _ h, w =>
    match h.nature with
    | .text a => textLess? a w
    | .int a => integerLess? a w
    | .float a => numberLess? a w
    | .other => Option.none
  | _, _ => Option.none

/-- The order of two lists: that of the first values that differ, else that of their lengths. -/
def lessAll? : List Value → List Value → Option Bool
  | [], bs => some (!bs.isEmpty)
  | a :: as, bs => match bs with
    | [] => some false
    | b :: bs => if eq a b then lessAll? as bs else less? a b

end

end BuildScript.Value
