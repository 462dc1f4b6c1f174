import BuildScript.Number.Binary64
import BuildScript.Number.Integer
import BuildScript.Text.Blank
import BuildScript.Text.Digit

/-!
Floating-point numbers as text, read. Blanks around are dropped; then comes at most one sign, then
`inf`, `infinity` or `nan` in any case, or digits with at most one point among them and an optional
exponent. An underscore may stand between two digits. In a text that is not all ASCII, digits of other
scripts count as digits and blanks of other scripts as spaces.
-/

namespace BuildScript.Number

open BuildScript.Text (digitValue? isBlank)

/-- The ASCII spaces that may stand around a number. -/
def isAsciiSpace (c : Char) : Bool :=
  c = ' ' || c = '\t' || c = '\n' || c = '\x0b' || c = '\x0c' || c = '\x0d'

/-- A character as ASCII: a digit for a digit of any script, a space for a blank beyond ASCII, and
`?`, which no number holds, for all else beyond ASCII. -/
def asciiForm (c : Char) : Char :=
  if c.toNat < 127 then c
  else if isBlank c then ' '
  else match digitValue? c with
    | some d => Nat.digitChar d
    | none => '?'

/-- Drops underscores that stand between two digits; any other underscore spoils the text. -/
def dropUnderscores (afterDigit : Bool) : List Char → Option (List Char)
  | [] => some []
  | '_' :: c :: rest =>
    if afterDigit && c.isDigit then (dropUnderscores true rest).map (c :: ·) else none
  | ['_'] => none
  | c :: rest => (dropUnderscores c.isDigit rest).map (c :: ·)

/-- The digits at the front, and what follows them. -/
def cutDigits (cs : List Char) : List Char × List Char := (cs.takeWhile Char.isDigit, cs.dropWhile Char.isDigit)

/-- The value of ASCII digits. -/
def asciiValue (cs : List Char) : Nat := cs.foldl (fun n c => 10 * n + (c.toNat - 48)) 0

/-- An exponent, which must be all of the text; an empty text is the exponent zero. -/
def readExponent : List Char → Option Int
  | [] => some 0
  | c :: rest =>
    if c = 'e' || c = 'E' then
      let signed := cutSign rest
      if !signed.2.isEmpty && signed.2.all Char.isDigit then
        some (Binary64.signed signed.1 (asciiValue signed.2))
      else none
    else none

/-- The ASCII lower case form of a character. -/
def asciiLower (cs : List Char) : List Char := cs.map Char.toLower

/-- An unsigned number: one of the three words, or digits, point and exponent. -/
def readUnsigned (negative : Bool) (cs : List Char) : Option Binary64 :=
  let word := asciiLower cs
  if word = "inf".toList ∨ word = "infinity".toList then some (.infinity negative)
  else if word = "nan".toList then some .nan
  else
    let whole := cutDigits cs
    let fraction := match whole.2 with
      | '.' :: rest => cutDigits rest
      | rest => ([], rest)
    if whole.1.isEmpty && fraction.1.isEmpty then none
    else (readExponent fraction.2).map fun e =>
      Binary64.ofDecimal negative (asciiValue (whole.1 ++ fraction.1)) (e - fraction.1.length)

/-- The number that ASCII characters stand for. -/
def readFloat? (cs : List Char) : Option Binary64 := do
  let trimmed := (cs.dropWhile isAsciiSpace).reverse.dropWhile isAsciiSpace |>.reverse
  let plain ← dropUnderscores false trimmed
  let signed := cutSign plain
  readUnsigned signed.1 signed.2

/-- The floating-point number that a text stands for. -/
def floatOfText? (s : String) : Option Binary64 := readFloat? (s.toList.map asciiForm)

end BuildScript.Number
