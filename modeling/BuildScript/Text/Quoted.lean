import BuildScript.Text.Printable

/-!
Quoted forms of texts and of bytes, as they stand in messages. The quote is a single one unless the
text has a single and no double one; backslash, the quote in use and the three common controls are
written with a backslash, and what is not printable by its code point in the shortest of three
widths.
-/

namespace BuildScript.Text

/-- The last `width` hexadecimal digits of `n`. -/
def hexDigits : Nat → Nat → List Char
  | 0, _ => []
  | width + 1, n => hexDigits width (n / 16) ++ [Nat.digitChar (n % 16)]

/-- The quote for a text: single, unless it holds a single quote and no double quote. -/
def chooseQuote (hasSingle hasDouble : Bool) : Char :=
  if hasSingle && !hasDouble then '"' else '\''

/-- A code point as an escape of two, four or eight digits. -/
def escapeCode (n : Nat) : List Char :=
  if n < 0x100 then '\\' :: 'x' :: hexDigits 2 n
  else if n < 0x10000 then '\\' :: 'u' :: hexDigits 4 n
  else '\\' :: 'U' :: hexDigits 8 n

/-- The controls with an escape of their own. -/
def controlEscape? (c : Char) : Option (List Char) :=
  if c = '\n' then some ['\\', 'n']
  else if c = '\x0d' then some ['\\', 'r']
  else if c = '\t' then some ['\\', 't']
  else none

/-- A character inside a text that is quoted by `quote`. -/
def quoteChar (quote c : Char) : List Char :=
  if c = quote || c = '\\' then ['\\', c]
  else match controlEscape? c with
    | some e => e
    | none => if isPrintable c then [c] else escapeCode c.toNat

/-- The quoted form of a text. -/
def quoteChars (cs : List Char) : List Char :=
  let quote := chooseQuote (cs.contains '\'') (cs.contains '"')
  quote :: (cs.flatMap (quoteChar quote) ++ [quote])

/-- The quoted form of a text. -/
def quoted (s : String) : String := String.ofList (quoteChars s.toList)

/-- A byte inside bytes that are quoted by `quote`: ASCII as in a text, all else by its number. -/
def quoteByte (quote : Char) (b : UInt8) : List Char :=
  let c := Char.ofNat b.toNat
  if c = quote || c = '\\' then ['\\', c]
  else match controlEscape? c with
    | some e => e
    | none =>
      if 0x20 ≤ b.toNat ∧ b.toNat < 0x7f then [c] else '\\' :: 'x' :: hexDigits 2 b.toNat

/-- The quoted form of bytes, marked by a `b` in front. -/
def quotedBytes (bs : List UInt8) : String :=
  let quote := chooseQuote (bs.contains 39) (bs.contains 34)
  String.ofList ('b' :: quote :: (bs.flatMap (quoteByte quote) ++ [quote]))

end BuildScript.Text
