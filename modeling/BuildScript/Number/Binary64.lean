/-!
Binary floating-point numbers of 64 bits. A finite number is a sign, a significand below `2^53` and
an exponent, in the one form that every rounding here produces: the significand is at least `2^52`,
or the exponent is the least one. All rounding is to the nearest number and from the middle to the
even significand.
-/

namespace BuildScript.Number

/-- A binary floating-point number: `significand · 2^exponent` with a sign, an infinity, or no
number. -/
inductive Binary64 where
  | nan
  | infinity (negative : Bool)
  | finite (negative : Bool) (significand : Nat) (exponent : Int)
  deriving Repr, DecidableEq, Inhabited

namespace Binary64

/-- The least exponent of a finite number. -/
def minExponent : Int := -1074

/-- The greatest exponent of a finite number. -/
def maxExponent : Int := 971

/-- Zero with a sign. -/
def zero (negative : Bool) : Binary64 := .finite negative 0 minExponent

/-- The integer nearest to `num / den`; from the middle the even one. -/
def roundRatio (num den : Nat) : Nat :=
  let q := num / den
  let r := num % den
  if 2 * r > den ∨ (2 * r = den ∧ q % 2 = 1) then q + 1 else q

/-- The numerator and denominator of `num / den · 2^(-e)`. -/
def scaleDown (num den : Nat) (e : Int) : Nat × Nat :=
  if 0 ≤ e then (num, den * Nat.pow 2 e.toNat) else (num * Nat.pow 2 (-e).toNat, den)

/-- The exponent at which the quotient `num / den` has 53 bits, but no lower than the least. -/
def exponentFor (num den : Nat) : Int :=
  let guess : Int := (Nat.log2 num : Int) - (Nat.log2 den : Int) - 53
  let scaled := scaleDown num den guess
  let e := if scaled.1 / scaled.2 < Nat.pow 2 53 then guess else guess + 1
  max e minExponent

/-- The number nearest to `num / den` for a positive denominator. -/
def ofRatio (negative : Bool) (num den : Nat) : Binary64 :=
  if num = 0 then zero negative
  else
    let e := exponentFor num den
    let scaled := scaleDown num den e
    let m := roundRatio scaled.1 scaled.2
    let (m, e) := if m = Nat.pow 2 53 then (Nat.pow 2 52, e + 1) else (m, e)
    if maxExponent < e then .infinity negative else .finite negative m e

/-- The number nearest to an integer. -/
def ofInt (i : Int) : Binary64 := ofRatio (decide (i < 0)) i.natAbs 1

/-- The number nearest to an integer, or nothing if that is an infinity. -/
def ofInt? (i : Int) : Option Binary64 :=
  match ofInt i with
  | .infinity _ => none
  | x => some x

/-- The number nearest to `digits · 10^exponent`. Exponents far outside the range are not raised to. -/
def ofDecimal (negative : Bool) (digits : Nat) (exponent : Int) : Binary64 :=
  let size : Int := (Nat.log2 digits : Int) / 4 + exponent
  let top : Int := (Nat.log2 digits : Int) / 3 + 1 + exponent
  if digits = 0 then zero negative
  else if 310 < size then .infinity negative
  else if top < -330 then zero negative
  else if 0 ≤ exponent then ofRatio negative (digits * Nat.pow 10 exponent.toNat) 1
  else ofRatio negative digits (Nat.pow 10 (-exponent).toNat)

/-- A finite number as an integer times a power of two. -/
def signed (negative : Bool) (m : Nat) : Int := if negative then -(m : Int) else m

/-- The number nearest to `n · 2^e`, zero with the given sign. -/
def ofScaled (zeroNegative : Bool) (n : Int) (e : Int) : Binary64 :=
  if n = 0 then zero zeroNegative
  else
    let scaled := scaleDown n.natAbs 1 (-e)
    ofRatio (decide (n < 0)) scaled.1 scaled.2

/-- The number nearest to the sum. Opposite infinities have none; a zero sum is negative only if
both numbers are negative zeros. -/
def add : Binary64 → Binary64 → Binary64
  | .nan, _ => .nan
  | _, .nan => .nan
  | .infinity a, .infinity b => if a = b then .infinity a else .nan
  | .infinity a, .finite .. => .infinity a
  | .finite .., .infinity b => .infinity b
  | .finite na ma ea, .finite nb mb eb =>
    let e := min ea eb
    let sum := signed na ma * Nat.pow 2 (ea - e).toNat + signed nb mb * Nat.pow 2 (eb - e).toNat
    ofScaled (na && nb && ma = 0 && mb = 0) sum e

/-- The number nearest to the product. An infinity times zero has none. -/
def mul : Binary64 → Binary64 → Binary64
  | .nan, _ => .nan
  | _, .nan => .nan
  | .infinity a, .infinity b => .infinity (a != b)
  | .infinity a, .finite nb mb _ => if mb = 0 then .nan else .infinity (a != nb)
  | .finite na ma _, .infinity b => if ma = 0 then .nan else .infinity (na != b)
  | .finite na ma ea, .finite nb mb eb =>
    ofScaled (na != nb) (signed (na != nb) (ma * mb)) (ea + eb)

/-- The number nearest to a half. -/
def half : Binary64 → Binary64
  | .finite neg m e => ofScaled neg (signed neg m) (e - 1)
  | x => x

/-- The number nearest to half an integer, or nothing if that is an infinity. -/
def halfOfInt? (i : Int) : Option Binary64 :=
  match ofRatio (decide (i < 0)) i.natAbs 2 with
  | .infinity _ => none
  | x => some x

/-- Equality of numbers: zeros are equal whatever their sign, and no number equals nothing. -/
def eq : Binary64 → Binary64 → Bool
  | .nan, _ => false
  | _, .nan => false
  | .infinity a, .infinity b => a = b
  | .finite na ma ea, .finite nb mb eb => (ma = 0 && mb = 0) || (na = nb && ma = mb && ea = eb)
  | _, _ => false

/-- Whether the number is exactly the integer. -/
def eqInt (x : Binary64) (i : Int) : Bool :=
  match x with
  | .finite neg m e =>
    let scaled := scaleDown m 1 (-e)
    decide (signed neg scaled.1 = i * scaled.2)
  | _ => false

/-- Whether the number is zero. -/
def isZero : Binary64 → Bool
  | .finite _ m _ => m = 0
  | _ => false

/-- Order of numbers; nothing is below or above a missing number. -/
def lt : Binary64 → Binary64 → Bool
  | .nan, _ => false
  | _, .nan => false
  | .infinity a, .infinity b => a && !b
  | .infinity a, .finite .. => a
  | .finite .., .infinity b => !b
  | .finite na ma ea, .finite nb mb eb =>
    let e := min ea eb
    decide (signed na ma * Nat.pow 2 (ea - e).toNat < signed nb mb * Nat.pow 2 (eb - e).toNat)

/-- Whether the number is below the integer. -/
def ltInt (x : Binary64) (i : Int) : Bool :=
  match x with
  | .nan => false
  | .infinity negative => negative
  | .finite neg m e =>
    let scaled := scaleDown m 1 (-e)
    decide (signed neg scaled.1 < i * scaled.2)

/-- Whether the number is above the integer. -/
def gtInt (x : Binary64) (i : Int) : Bool :=
  match x with
  | .nan => false
  | .infinity negative => !negative
  | .finite neg m e =>
    let scaled := scaleDown m 1 (-e)
    decide (i * scaled.2 < signed neg scaled.1)

end Binary64

end BuildScript.Number
