import BuildScript.Number.Binary64
import BuildScript.Number.Integer

/-!
The text of a floating-point number: the fewest significant digits that read back as the number, of
those the nearest to it. Numbers from `10^-4` to below `10^16` are written out; the others have one
digit in front of the point and an exponent of at least two digits.
-/

namespace BuildScript.Number

namespace Shortest

/-- Decimal digits and a power of ten: `digits · 10^exponent`. -/
structure Decimal where
  digits : Nat
  exponent : Int
  deriving Repr, DecidableEq

/-- The exact value `m · 2^e` of a positive number, with the ends of the interval of values that
round to it, as numerators over one denominator. The ends belong to it iff `m` is even. -/
structure Interval where
  low : Nat
  value : Nat
  high : Nat
  den : Nat
  closed : Bool

/-- The interval of a significand and exponent: half a step to either side, a quarter below a power
of two that has a smaller step below it. -/
def Interval.of (m : Nat) (e : Int) : Interval :=
  let narrow := m = Nat.pow 2 52 ∧ Binary64.minExponent < e
  let low := if narrow then 4 * m - 1 else 4 * m - 2
  let scale := if 0 ≤ e then Nat.pow 2 e.toNat else 1
  let den := if 0 ≤ e then 4 else 4 * Nat.pow 2 (-e).toNat
  { low := low * scale, value := 4 * m * scale, high := (4 * m + 2) * scale, den
    closed := m % 2 = 0 }

/-- Whether `digits · num10 / den10` lies in the interval, for a power of ten `num10 / den10`. -/
def Interval.holds (i : Interval) (digits num10 den10 : Nat) : Bool :=
  let x := digits * num10 * i.den
  let low := i.low * den10
  let high := i.high * den10
  if i.closed then decide (low ≤ x ∧ x ≤ high) else decide (low < x ∧ x < high)

/-- A power of ten as numerator and denominator. -/
def powerOfTen (k : Int) : Nat × Nat :=
  if 0 ≤ k then (Nat.pow 10 k.toNat, 1) else (1, Nat.pow 10 (-k).toNat)

/-- The point of the grid `10^k` that lies in the interval and is nearest to its value. -/
def Interval.nearest? (i : Interval) (k : Int) : Option Decimal :=
  let (num10, den10) := powerOfTen k
  let below := i.value * den10 / (i.den * num10)
  let above := below + 1
  let toBelow := i.value * den10 - below * num10 * i.den
  let toAbove := above * num10 * i.den - i.value * den10
  match i.holds below num10 den10, i.holds above num10 den10 with
  | true, true =>
    if toBelow < toAbove ∨ (toBelow = toAbove ∧ below % 2 = 0) then some ⟨below, k⟩
    else some ⟨above, k⟩
  | true, false => some ⟨below, k⟩
  | false, true => some ⟨above, k⟩
  | false, false => none

/-- The first grid among `10^k`, `10^(k-1)`, … with a point in the interval. -/
def Interval.coarsest (i : Interval) (k : Int) : Nat → Decimal
  | 0 => ⟨0, k⟩
  | fuel + 1 =>
    match i.nearest? k with
    | some d => d
    | none => i.coarsest (k - 1) fuel

/-- An exponent of ten that is at least that of the leading digit of `m · 2^e`. -/
def topExponent (m : Nat) (e : Int) : Int :=
  ((Nat.log2 m : Int) + e + 1) * 30103 / 100000 + 1

/-- The shortest decimal that reads back as `m · 2^e`, for a positive `m`. -/
def ofFinite (m : Nat) (e : Int) : Decimal := (Interval.of m e).coarsest (topExponent m e) 24

/-- The text of an exponent: its sign and at least two digits. -/
def exponentChars (k : Int) : List Char :=
  let digits := natChars k.natAbs
  'e' :: (if k < 0 then '-' else '+') :: (if digits.length < 2 then '0' :: digits else digits)

/-- The text of a positive decimal. -/
def Decimal.chars (d : Decimal) : List Char :=
  let digits := natChars d.digits
  let point : Int := digits.length + d.exponent
  if -4 < point ∧ point ≤ 16 then
    if point ≤ 0 then '0' :: '.' :: (List.replicate (-point).toNat '0' ++ digits)
    else if 0 ≤ d.exponent then digits ++ List.replicate d.exponent.toNat '0' ++ ['.', '0']
    else digits.take point.toNat ++ '.' :: digits.drop point.toNat
  else
    let tail := digits.drop 1
    digits.take 1 ++ (if tail.isEmpty then [] else '.' :: tail) ++ exponentChars (point - 1)

end Shortest

/-- The text of a floating-point number. -/
def Binary64.chars : Binary64 → List Char
  | .nan => "nan".toList
  | .infinity negative => if negative then "-inf".toList else "inf".toList
  | .finite negative m e =>
    let body := if m = 0 then "0.0".toList else (Shortest.ofFinite m e).chars
    if negative then '-' :: body else body

/-- The text of a floating-point number. -/
def Binary64.text (x : Binary64) : String := String.ofList x.chars

end BuildScript.Number
