/-!
Bytes written in sixty-four characters, four characters for three bytes. Characters that are none of
these are passed over. The text ends with a padding that completes a group of four.
-/

namespace BuildScript.Yaml

/-- The six bits that a character stands for. -/
def sextet? (c : Char) : Option Nat :=
  if 'A' ≤ c ∧ c ≤ 'Z' then some (c.toNat - 65)
  else if 'a' ≤ c ∧ c ≤ 'z' then some (c.toNat - 71)
  else if '0' ≤ c ∧ c ≤ '9' then some (c.toNat + 4)
  else if c = '+' then some 62
  else if c = '/' then some 63
  else none

/-- Reads on in a group of four: `place` characters of it have been read, the bits of the last that make
no byte yet are `bits`, and `pads` paddings stand behind it. A padding that completes the group ends
the text. -/
def readSextets (place bits pads : Nat) : List Char → Option (List UInt8)
  | [] => if place = 0 then some [] else none
  | '=' :: rest =>
    if 2 ≤ place then
      if 4 ≤ place + (pads + 1) then some [] else readSextets place bits (pads + 1) rest
    else readSextets place bits pads rest
  | c :: rest =>
    match sextet? c with
    | none => readSextets place bits pads rest
    | some n =>
      match place with
      | 0 => readSextets 1 n 0 rest
      | 1 => (readSextets 2 (n % 16) 0 rest).map (UInt8.ofNat (bits * 4 + n / 16) :: ·)
      | 2 => (readSextets 3 (n % 4) 0 rest).map (UInt8.ofNat (bits * 16 + n / 4) :: ·)
      | _ => (readSextets 0 0 0 rest).map (UInt8.ofNat (bits * 64 + n) :: ·)

/-- The bytes that a text of ASCII characters stands for. -/
def bytesOfText? (s : String) : Option (List UInt8) :=
  if s.toList.all fun c => c.toNat < 128 then readSextets 0 0 0 s.toList else none

end BuildScript.Yaml
