import BuildScript.Template.Basic
import BuildScript.Text.Digit
import BuildScript.Text.WordChar

/-!
What a template has to be: one that can be cut to its end, with names, conversions and layouts of the
right form, and with a field that has a name. Of several flaws the first in the text counts.
-/

namespace BuildScript.Template

open Text (isDigit isWordChar)

/-- Whether nothing is left, a line feed at the end apart. -/
def atEnd (cs : List Char) : Bool := cs = [] || cs = ['\n']

/-- What follows the first word of a name: words behind dots, and texts in square brackets. -/
def isTail (cs : List Char) : Bool :=
  match cs with
  | '.' :: c :: rest => isWordChar c && isTail (rest.dropWhile isWordChar)
  | '[' :: c :: rest =>
    c ≠ ']' && match _h : rest.dropWhile (· ≠ ']') with
      | ']' :: behind => isTail behind
      | _ => false
  | _ => atEnd cs
termination_by cs.length
decreasing_by
  · have := (List.dropWhile_sublist (l := rest) isWordChar).length_le
    simp only [List.length_cons]
    omega
  · have := (List.dropWhile_sublist (l := rest) (· ≠ ']')).length_le
    simp only [List.length_cons, _h] at *
    omega

/-- Whether a name has the right form: a word, with what may follow it. -/
def isName (cs : List Char) : Bool :=
  match cs with
  | c :: rest => isWordChar c && isTail (rest.dropWhile isWordChar)
  | [] => false

/-- The characters that say to which side a text is moved. -/
def isAlignment (c : Char) : Bool := c = '<' || c = '>' || c = '=' || c = '^'

/-- Behind the alignment and the character that fills, if there is one. -/
def skipAlignment (cs : List Char) : List Char :=
  match cs with
  | f :: a :: rest =>
    if isAlignment a && f ≠ '\n' then rest else if isAlignment f then a :: rest else cs
  | [a] => if isAlignment a then [] else cs
  | [] => []

/-- Behind one character, if it satisfies a test. -/
def skipOne (p : Char → Bool) (cs : List Char) : List Char :=
  match cs with
  | c :: rest => if p c then rest else cs
  | [] => []

/-- Behind a number, or behind a word in braces that stands for one, if there is either. -/
def skipNumber? (cs : List Char) : Option (List Char) :=
  match cs with
  | c :: rest =>
    if isDigit c then some (rest.dropWhile isDigit)
    else if c = openBrace then
      let word := rest.takeWhile isWordChar
      match rest.dropWhile isWordChar with
      | d :: behind => if d = closeBrace && !word.isEmpty then some behind else none
      | [] => none
    else none
  | [] => none

/-- Behind a number if there is one. -/
def skipNumber (cs : List Char) : List Char := (skipNumber? cs).getD cs

/-- The letters of presentations, in either case, with the long form of the letter `s`. -/
def isPresentation (c : Char) : Bool :=
  c = '%' || c = 'ſ' || "bcdefgnosx".toList.contains c.toLower

/-- Whether a layout has the right form. -/
def isLayout (cs : List Char) : Bool :=
  let sized := skipNumber (skipOne (· = '0') (skipOne (· = '#')
    (skipOne (fun c => c = '+' || c = ' ' || c = '-') (skipAlignment cs))))
  let grouped := skipOne (fun c => c = ',' || c = '_') sized
  let precise := match grouped with
    | '.' :: rest => skipNumber? rest
    | _ => some grouped
  match precise with
  | none => false
  | some rest => atEnd (skipOne isPresentation rest)

/-- Whether a conversion is one of the known. -/
def isConversion (c : Char) : Bool := c = 'r' || c = 's' || c = 'a'

/-- The flaw of a field. -/
def Field.flaw? (f : Field) : Option Flaw :=
  if !f.name.isEmpty && !isName f.name then some (.badName f.name)
  else match f.conversion.filter fun c => !isConversion c with
    | some c => some (.badConversion c)
    | none => if !f.layout.isEmpty && !isLayout f.layout then some (.badLayout f.layout) else none

/-- The flaw of a piece. -/
def Piece.flaw? : Piece → Option Flaw
  | text _ => none
  | field f => f.flaw?

/-- Whether a piece is a field that has a name. -/
def Piece.isNamed : Piece → Bool
  | text _ => false
  | field f => !f.name.isEmpty

/-- The flaw of a template. -/
def flaw? (cs : List Char) : Option Flaw :=
  let parts := cut cs
  match parts.pieces.findSome? Piece.flaw? <|> parts.flaw with
  | some e => some e
  | none => if parts.pieces.any Piece.isNamed then none else some .noFields

end BuildScript.Template
