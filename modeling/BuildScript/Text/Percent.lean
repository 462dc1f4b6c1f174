/-!
Percent-encoding. Letters and digits of ASCII, the marks `_`, `.`, `-`, `~` and the slash stand for
themselves; every other byte of the UTF-8 form is written as `%` and two digits.
-/

namespace BuildScript.Text

/-- Whether a byte stands for itself. -/
def isUnreserved (b : UInt8) : Bool :=
  let c := Char.ofNat b.toNat
  (b.toNat < 128 && c.isAlphanum) || c = '_' || c = '.' || c = '-' || c = '~' || c = '/'

/-- The hexadecimal digit of a number below sixteen. -/
def percentDigit (n : Nat) : Char :=
  if n < 10 then Char.ofNat (48 + n) else Char.ofNat (55 + n)

/-- The encoded form of a byte. -/
def percentByte (b : UInt8) : List Char :=
  if isUnreserved b then [Char.ofNat b.toNat]
  else ['%', percentDigit (b.toNat / 16), percentDigit (b.toNat % 16)]

/-- The bytes of a text in UTF-8. -/
def utf8 (s : String) : List UInt8 := s.toList.flatMap String.utf8EncodeChar

/-- The encoded form of a text. -/
def percentEncode (s : String) : String := String.ofList ((utf8 s).flatMap percentByte)

end BuildScript.Text
