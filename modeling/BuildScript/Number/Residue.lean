import BuildScript.Number.Binary64

/-!
Residues of numbers modulo the prime `2^61 - 1`, with their sign, as words of 64 bits. A fraction has
one too, for two has an inverse: its 61st power is one. Integers and floating-point numbers that are
equal have the same residue.
-/

namespace BuildScript.Number.Residue

/-- The prime `2^61 - 1`. -/
def modulus : Nat := 2305843009213693951

/-- A negative number counts from the top of the words; minus one is taken for minus two. -/
def word (negative : Bool) (residue : Nat) : UInt64 :=
  if negative then (if residue = 1 then -2 else -(UInt64.ofNat residue)) else UInt64.ofNat residue

/-- The residue of a significand times a power of two. -/
def scaled (significand : Nat) (exponent : Int) : Nat :=
  significand * Nat.pow 2 (exponent % 61).toNat % modulus

/-- The residue of an integer. -/
def ofInt (i : Int) : UInt64 := word (decide (i < 0)) (i.natAbs % modulus)

/-- What stands for the residue of an infinity. -/
def infinity : Nat := 314159

/-- The residue of a floating-point number. What is no number has none. -/
def ofBinary64? : Binary64 → Option UInt64
  | .nan => none
  | .infinity negative => some (word negative infinity)
  | .finite negative m e => some (word negative (scaled m e))

end BuildScript.Number.Residue
