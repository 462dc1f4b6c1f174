import BuildScript.Number.Numeral
import BuildScript.Value.Equal
import BuildScript.Value.Obstacle
import BuildScript.Yaml.Binary
import BuildScript.Yaml.Calendar
import BuildScript.Yaml.Kind
import BuildScript.Yaml.Token

/-!
Scalars: what the text of a scalar stands for under its tag. Underscores in numbers are passed over;
numbers with colons have sixtieths. A text that its tag does not fit is an error.
-/

namespace BuildScript.Yaml

open Number (Binary64)
open Text (Point)

/-- A scalar: a plain value, a row of code points that is no text, a date, or a point in time. A missing
number that is not written as the word for it is told apart from others by its node. -/
inductive Scalar where
  | plain (v : Value)
  | torn (ps : List Point)
  | missing (node : Nat)
  | date (d : Date)
  | moment (m : Moment)
  deriving Repr

namespace Scalar

/-- The text that shows a scalar, if it can be shown. -/
def display : Scalar → Except Obstacle String
  | plain v => v.display
  | torn ps => .ok (Point.quoted ps)
  | missing _ => .ok Binary64.nan.text
  | date d => .ok d.shown
  | moment m => .ok m.shown

/-- The text of a scalar in running text, if it can be shown. -/
def displayPlain : Scalar → Except Obstacle String
  | plain v => v.displayPlain
  | torn ps => .ok (Point.mended ps)
  | missing _ => .ok Binary64.nan.text
  | date d => .ok d.text
  | moment m => .ok m.text

/-- The name of the type of a scalar. -/
def typeName : Scalar → String
  | plain v => v.type.name
  | torn _ => TypeName.text.name
  | missing _ => TypeName.float.name
  | date _ => "date"
  | moment _ => "datetime"

/-- Whether two scalars are the same as keys. -/
def eq : Scalar → Scalar → Bool
  | plain (.float .nan), plain (.float .nan) => true
  | plain a, plain b => a.eq b
  | torn a, torn b => a = b
  | missing a, missing b => a = b
  | date a, date b => a = b
  | moment a, moment b => a.same b
  | _, _ => false

/-- An error of a scalar. -/
def wrong {α : Type} (className message : String) : Except LoadError α :=
  .error (.scalar className message)

/-- Code points as the characters of a number. None has a half in it. -/
def numberChars (ps : List Point) : List Char := ps.map (Point.charOr '?')

/-- An integer in a base. -/
def integerIn (base : Nat) (ps : List Point) : Except LoadError Int :=
  match Number.readInt base (numberChars ps) with
  | .ok i => .ok i
  | .error e => wrong "ValueError" (e.message base (Point.quoteAll ps))

/-- The sign of a number, and what is behind it. -/
def cutSign : List Point → Bool × List Point
  | .char '-' :: rest => (true, rest)
  | .char '+' :: rest => (false, rest)
  | ps => (false, ps)

/-- The sign of a number, and what is behind it. There has to be something. -/
def unsigned (ps : List Point) : Except LoadError (Bool × List Point) :=
  if ps.isEmpty then wrong "IndexError" "string index out of range" else .ok (cutSign ps)

/-- What is left of a number without its underscores. -/
def withoutLows (ps : List Point) : List Point := ps.filter (· ≠ .char '_')

/-- The mark between sixtieths. -/
def colon : Point := .char ':'

/-- The value of sixtieths, the greatest first. -/
def sixtieths (parts : List Int) : Int := parts.foldl (fun n d => 60 * n + d) 0

/-- An unsigned integer. -/
def unsignedInteger (ps : List Point) : Except LoadError Int :=
  match ps with
  | [.char '0'] => .ok 0
  | .char '0' :: .char 'b' :: rest => integerIn 2 rest
  | .char '0' :: .char 'x' :: rest => integerIn 16 rest
  | .char '0' :: _ => integerIn 8 ps
  | [] => wrong "IndexError" "string index out of range"
  | _ =>
    if ps.contains colon then ((piecesBetween (· = colon) ps).mapM (integerIn 10)).map sixtieths
    else integerIn 10 ps

/-- The integer of a text. -/
def integer (ps : List Point) : Except LoadError Int := do
  let (negative, rest) ← unsigned (withoutLows ps)
  let n ← unsignedInteger rest
  return if negative then -n else n

/-- A floating-point number without sixtieths. -/
def simpleFloat (ps : List Point) : Except LoadError Binary64 :=
  match Number.floatOfText? (String.ofList (numberChars ps)) with
  | some x => .ok x
  | none => wrong "ValueError" ("could not convert string to float: " ++ Point.quoted ps)

/-- The value of sixtieths, the least first; `scale` is what the first of them counts for. -/
def floatSixtieths (scale : Nat) (sum : Binary64) : List Binary64 → Except LoadError Binary64
  | [] => .ok sum
  | x :: rest =>
    match Binary64.ofInt? scale with
    | some s => floatSixtieths (scale * 60) (sum.add (x.mul s)) rest
    | none => wrong "OverflowError" "int too large to convert to float"

/-- The number with the other sign. -/
def negated : Binary64 → Binary64
  | .finite negative m e => .finite (!negative) m e
  | .infinity negative => .infinity (!negative)
  | .nan => .nan

/-- The word for a missing number. -/
def nanWord : List Point := Point.ofText ".nan"

/-- The word for infinity. -/
def infinityWord : List Point := Point.ofText ".inf"

/-- An unsigned floating-point number. -/
def unsignedFloat (ps : List Point) : Except LoadError Binary64 :=
  if ps = infinityWord then .ok (.infinity false)
  else if ps = nanWord then .ok .nan
  else if ps.contains colon then do
    let parts ← (piecesBetween (· = colon) ps).mapM simpleFloat
    floatSixtieths 1 (.zero false) parts.reverse
  else simpleFloat ps

/-- The scalar of the floating-point number of a node's text. -/
def float (node : Nat) (ps : List Point) : Except LoadError Scalar := do
  let (negative, rest) ← unsigned (Point.lower (withoutLows ps))
  let x ← unsignedFloat rest
  if x = .nan ∧ rest ≠ nanWord then return missing node
  else return plain (.float (if negative then negated x else x))

/-- The flag of a text. -/
def flag (ps : List Point) : Except LoadError Bool :=
  let word := Point.lower ps
  if ["yes", "true", "on"].any fun w => word = Point.ofText w then .ok true
  else if ["no", "false", "off"].any fun w => word = Point.ofText w then .ok false
  else wrong "KeyError" (Point.quoted word)

/-- The number that digits stand for. -/
def digitsValue (cs : List Char) : Nat := Number.asciiValue cs

/-- The offset of a zone, in minutes. -/
def zoneOffset (z : Bool × List Char × List Char) : Int :=
  let minutes : Int := (digitsValue z.2.1 * 60 + digitsValue z.2.2 : Nat)
  if z.1 then -minutes else minutes

/-- A date or point in time, or the error that there is none such. -/
def ofCalendar (f : TimeFields) : Except CalendarError Scalar :=
  let year := digitsValue f.year
  let month := digitsValue f.month
  let day := digitsValue f.day
  match f.clock with
  | none => (Date.make year month day).map .date
  | some (hour, minute, second, fraction) =>
    let micro := digitsValue ((fraction ++ List.replicate 6 '0').take 6)
    (Moment.make year month day (digitsValue hour) (digitsValue minute) (digitsValue second) micro
      (f.zone.map zoneOffset)).map .moment

/-- The date or point in time of a text. -/
def time (ps : List Point) : Except LoadError Scalar :=
  match (Point.text? ps).bind fun s => timeFields? (withoutLastBreak s.toList) with
  | none => wrong "AttributeError" "'NoneType' object has no attribute 'groupdict'"
  | some f =>
    match ofCalendar f with
    | .ok s => .ok s
    | .error e => wrong "ValueError" e.message

/-- The scalar of bytes. -/
def binary (ps : List Point) : Except LoadError Scalar :=
  match (Point.text? ps).bind bytesOfText? with
  | some bs => .ok (plain (.bytes bs))
  | none => flawed .badBinary

/-- The scalar of a text. -/
def ofPoints (ps : List Point) : Scalar :=
  match Point.text? ps with
  | some s => plain (.text s)
  | none => torn ps

/-- The scalar of a node's text under one of the tags of scalars. -/
def ofTag? (tag : String) (node : Nat) (ps : List Point) : Option (Except LoadError Scalar) :=
  if tag = textTag then some (.ok (ofPoints ps))
  else if tag = typeTag "null" then some (.ok (plain .none))
  else if tag = typeTag "bool" then some ((flag ps).map fun b => plain (.bool b))
  else if tag = typeTag "int" then some ((integer ps).map fun i => plain (.int i))
  else if tag = typeTag "float" then some (float node ps)
  else if tag = typeTag "binary" then some (binary ps)
  else if tag = typeTag "timestamp" then some (time ps)
  else none

end Scalar

end BuildScript.Yaml
