import BuildScript.Text.Case
import BuildScript.Text.Quoted

/-!
Code points: characters, and the halves into which the characters beyond the first 65536 fall in a
sixteen-bit encoding. A half is no character, and two halves beside each other stay two. A row of code
points without a half is a text.
-/

namespace BuildScript.Text

/-- A code point. -/
inductive Point where
  | char (c : Char)
  | half (code : Nat)
  deriving Repr, DecidableEq

namespace Point

/-- The code points of characters. -/
def ofChars (cs : List Char) : List Point := cs.map char

/-- The code points of a text. -/
def ofText (s : String) : List Point := ofChars s.toList

/-- The code point of a number, if it is one. -/
def ofCode? (n : Nat) : Option Point :=
  if 0xd800 ≤ n ∧ n < 0xe000 then some (half n)
  else if n < 0x110000 then some (char (Char.ofNat n))
  else none

/-- The character that a code point is. -/
def char? : Point → Option Char
  | char c => some c
  | half _ => none

/-- A character that stands for a code point; `hole` for a half. -/
def charOr (hole : Char) : Point → Char
  | char c => c
  | half _ => hole

/-- The text that code points are, if there is no half among them. -/
def text? (ps : List Point) : Option String := (ps.mapM char?).map String.ofList

/-- The text of code points, with the replacement character for each half. -/
def mended (ps : List Point) : String := String.ofList (ps.map (charOr '\ufffd'))

/-- A code point inside a text that is quoted by `quote`. -/
def quoteIn (quote : Char) : Point → List Char
  | char c => quoteChar quote c
  | half n => escapeCode n

/-- The quoted form of code points. -/
def quoteAll (ps : List Point) : List Char :=
  let quote := chooseQuote (ps.contains (char '\'')) (ps.contains (char '"'))
  quote :: (ps.flatMap (quoteIn quote) ++ [quote])

/-- The quoted form of code points. -/
def quoted (ps : List Point) : String := String.ofList (quoteAll ps)

/-- Characters as code points, each replacement character as the next of some code points. -/
def refill : List Char → List Point → List Point
  | c :: cs, p :: ps => if c = '\ufffd' then p :: refill cs ps else char c :: refill cs (p :: ps)
  | cs, [] => ofChars cs
  | [], _ => []

/-- The lower case form of code points. -/
def lower (ps : List Point) : List Point :=
  refill (lowerFrom [] (ps.map (charOr '\ufffd'))) (ps.filter fun p => p.charOr '\ufffd' = '\ufffd')

end Point

theorem Point.text?_ofText (s : String) : text? (ofText s) = some s := by
  have h : ∀ cs : List Char, (ofChars cs).mapM char? = some cs := by
    intro cs
    induction cs with
    | nil => rfl
    | cons c cs ih => simp_all [ofChars, char?]
  simp [text?, ofText, h]

end BuildScript.Text
