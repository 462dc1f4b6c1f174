/-!
Integers as decimal text: a minus sign if negative and the digits, no zero in front. Main statements:
how the digits of a number go on from those of its tenth.
-/

namespace BuildScript.Number

/-- Writes the decimal digits of `n` in front of `acc`. -/
def digitsOnto (n : Nat) (acc : List Char) : List Char :=
  if n < 10 then Nat.digitChar n :: acc
  else digitsOnto (n / 10) (Nat.digitChar (n % 10) :: acc)

/-- The decimal digits of a natural number. -/
def natChars (n : Nat) : List Char := digitsOnto n []

/-- The decimal text of an integer. -/
def intChars (i : Int) : List Char :=
  if i < 0 then '-' :: natChars i.natAbs else natChars i.natAbs

/-- The decimal text of a natural number. -/
def natText (n : Nat) : String := String.ofList (natChars n)

/-- The decimal text of an integer. -/
def intText (i : Int) : String := String.ofList (intChars i)

/-- The number that decimal digits stand for, most significant first. -/
def valueOfDigits (ds : List Nat) : Nat := ds.foldl (fun n d => 10 * n + d) 0

/-- The most digits of an integer that is read or written. -/
def maxDigits : Nat := 4300

/-- What the messages about integers of too many digits have in common. -/
def limitText (detail : String) : String :=
  "Exceeds the limit (" ++ natText maxDigits ++ " digits) for integer string conversion" ++ detail
    ++ "; use sys.set_int_max_str_digits() to increase the limit"

/-- The least number that has too many digits to be written. -/
def writeLimit : Nat := Nat.pow 10 maxDigits

/-- Whether an integer has too many digits to be written. -/
def isTooLong (i : Int) : Bool := writeLimit ≤ i.natAbs

/-- Cuts a sign off; the flag says whether it was a minus. -/
def cutSign : List Char → Bool × List Char
  | '-' :: rest => (true, rest)
  | '+' :: rest => (false, rest)
  | cs => (false, cs)

theorem digitsOnto_eq (n : Nat) (acc : List Char) : digitsOnto n acc = natChars n ++ acc := by
  induction n using Nat.strongRecOn generalizing acc with
  | ind n ih =>
    unfold natChars
    rw [digitsOnto, digitsOnto.eq_def n []]
    split
    · rfl
    · rw [ih _ (by omega), ih _ (by omega) [_]]
      simp

theorem natChars_of_lt {n : Nat} (h : n < 10) : natChars n = [Nat.digitChar n] := by
  rw [natChars, digitsOnto, if_pos h]

theorem natChars_of_ge {n : Nat} (h : 10 ≤ n) :
    natChars n = natChars (n / 10) ++ [Nat.digitChar (n % 10)] := by
  rw [natChars, digitsOnto, if_neg (by omega), digitsOnto_eq]

end BuildScript.Number
