import BuildScript.Number.Reading

/-!
Integers as text, read, in base two, eight, ten or sixteen. Spaces around are dropped; then come at most
one sign, the mark of the base, if it is there, and digits with at most one underscore between
neighbours, one of which may also stand behind the mark. Of decimal digits there are not too many.
-/

namespace BuildScript.Number

/-- Why a text is no integer. -/
inductive NumeralError where
  | malformed
  | tooLong (digits : Nat)
  deriving Repr, DecidableEq

/-- How much of a text a message shows. -/
def shownLength : Nat := 200

/-- The message that says why a text, which is given as it is shown, is no integer in a base. -/
def NumeralError.message (base : Nat) (shown : List Char) : NumeralError → String
  | malformed =>
    "invalid literal for int() with base " ++ natText base ++ ": "
      ++ String.ofList (shown.take shownLength)
  | tooLong digits => limitText (": value has " ++ natText digits ++ " digits")

/-- The value of a digit in a base. -/
def digitIn? (base : Nat) (c : Char) : Option Nat :=
  let value? := if c.isDigit then some (c.toNat - 48)
    else if c.isLower then some (c.toNat - 87)
    else if c.isUpper then some (c.toNat - 55)
    else none
  value?.filter (· < base)

/-- The letter that marks a base behind a zero. -/
def baseMark? : Nat → Option Char
  | 2 => some 'b'
  | 8 => some 'o'
  | 16 => some 'x'
  | _ => none

/-- What follows the mark of the base, and an underscore behind it. -/
def dropMark (base : Nat) (cs : List Char) : List Char :=
  match cs with
  | '0' :: c :: '_' :: rest => if baseMark? base = some c.toLower then rest else cs
  | '0' :: c :: rest => if baseMark? base = some c.toLower then rest else cs
  | _ => cs

/-- Whether a text of digits and underscores has a digit at either end and none but single underscores
in between. -/
def isSpaced : List Char → Bool
  | [] => false
  | '_' :: _ => false
  | _ :: '_' :: rest => isSpaced rest
  | [_] => true
  | _ :: rest => isSpaced rest

/-- The number that digits of a base stand for. -/
def valueIn (base : Nat) (ds : List Nat) : Nat := ds.foldl (fun n d => base * n + d) 0

/-- The integer that ASCII characters stand for in a base. -/
def readNumeral (base : Nat) (cs : List Char) : Except NumeralError Int :=
  let (negative, body) := cutSign (cs.dropWhile isAsciiSpace)
  let isPart (c : Char) : Bool := c = '_' || (digitIn? base c).isSome
  let numeral := dropMark base body
  let run := numeral.takeWhile isPart
  let digits := run.filterMap (digitIn? base)
  if !isSpaced run then .error .malformed
  else if base = 10 ∧ maxDigits < digits.length then .error (.tooLong digits.length)
  else if (numeral.dropWhile isPart).all isAsciiSpace then
    .ok (Binary64.signed negative (valueIn base digits))
  else .error .malformed

/-- The integer that a text stands for in a base. -/
def readInt (base : Nat) (cs : List Char) : Except NumeralError Int :=
  readNumeral base (cs.map asciiForm)

/-- The decimal integer that a text stands for. Blanks of all kinds may stand around it. -/
def intOfText? (s : String) : Option Int := (readInt 10 (Text.strip s.toList)).toOption

end BuildScript.Number
