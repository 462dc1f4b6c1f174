import BuildScript.Number.Binary64
import Mathlib.Tactic.Common

/-!
Which integers have no floating-point number near them. An integer is rounded to 53 bits, and what
is left over is carried into the exponent, so the greatest integers of 1024 bits are rounded out of
the range. Main statement: `ofInt?_eq_none_iff`, that an integer overflows exactly from the middle
between the greatest number and `2^1024` on.
-/

namespace BuildScript.Number.Binary64

/-- The middle between `(2^53 - 1) · 2^(k+1)`, of 53 bits, and the next power of two. -/
def carryBound (k : Nat) : Nat := (Nat.pow 2 54 - 1) * Nat.pow 2 k

/-- The middle between the greatest number, `(2^53 - 1) · 2^971`, and `2^1024`. -/
def overflowBound : Nat := carryBound 970

theorem powTwo_of_eq_add {a b c : Nat} (h : c = a + b) :
    Nat.pow 2 c = Nat.pow 2 a * Nat.pow 2 b := by
  subst h
  exact Nat.pow_add 2 a b

theorem powTwo_of_eq_succ {c a : Nat} (h : c = a + 1) : Nat.pow 2 c = 2 * Nat.pow 2 a := by
  rw [powTwo_of_eq_add h, show Nat.pow 2 1 = 2 from rfl, Nat.mul_comm]

/-! ## Rounding a quotient -/

/-- From the middle above an odd number on, a quotient is rounded up to what is beyond it. -/
theorem lt_roundRatio_iff {k : Nat} (hk : k % 2 = 1) (num : Nat) {half : Nat} (hhalf : 0 < half) :
    k < roundRatio num (2 * half) ↔ (2 * k + 1) * half ≤ num := by
  have hsplit := Nat.div_add_mod num (2 * half)
  have hrest := Nat.mod_lt num (show 0 < 2 * half by omega)
  have hmid : (2 * k + 1) * half = 2 * half * k + half := by
    rw [Nat.add_mul, Nat.one_mul, Nat.mul_right_comm]
  unfold roundRatio
  generalize num / (2 * half) = q at hsplit ⊢
  generalize num % (2 * half) = r at hsplit hrest ⊢
  dsimp only
  rcases Nat.lt_trichotomy q k with hqk | rfl | hqk
  · have hstep : 2 * half * (q + 1) ≤ 2 * half * k := Nat.mul_le_mul_left _ hqk
    rw [Nat.mul_succ] at hstep
    split <;> omega
  · split <;> omega
  · have hstep : 2 * half * (k + 1) ≤ 2 * half * q := Nat.mul_le_mul_left _ hqk
    rw [Nat.mul_succ] at hstep
    split <;> omega

theorem roundRatio_le {num den k : Nat} (h : num < den * k) : roundRatio num den ≤ k := by
  have hq : num / den < k := Nat.div_lt_of_lt_mul h
  unfold roundRatio
  dsimp only
  split <;> omega

/-! ## The exponent of an integer -/

theorem exponentFor_le (n : Nat) : exponentFor n 1 ≤ max ((n.log2 : Int) - 52) minExponent := by
  have hone : Nat.log2 1 = 0 := by decide
  unfold exponentFor
  rw [hone]
  dsimp only
  split <;> omega

/-- An integer of 54 bits or more is cut down to 53. -/
theorem exponentFor_of_le {n : Nat} (h : 53 ≤ n.log2) : exponentFor n 1 = (n.log2 : Int) - 52 := by
  have hone : Nat.log2 1 = 0 := by decide
  have hn : n ≠ 0 := by
    rintro rfl
    exact absurd h (by decide)
  have hguess : (n.log2 : Int) - ((0 : Nat) : Int) - 53 = ((n.log2 - 53 : Nat) : Int) := by omega
  have hscale : scaleDown n 1 ((n.log2 - 53 : Nat) : Int) = (n, Nat.pow 2 (n.log2 - 53)) := by
    unfold scaleDown
    rw [if_pos (Int.natCast_nonneg _), Nat.one_mul, Int.toNat_natCast]
  have hlow : Nat.pow 2 53 ≤ n / Nat.pow 2 (n.log2 - 53) := by
    have hcut : Nat.pow 2 n.log2 = Nat.pow 2 53 * Nat.pow 2 (n.log2 - 53) :=
      powTwo_of_eq_add (by omega)
    have hle : Nat.pow 2 n.log2 ≤ n := Nat.log2_self_le hn
    exact (Nat.le_div_iff_mul_le (Nat.two_pow_pos _)).mpr (hcut ▸ hle)
  unfold exponentFor
  rw [hone, hguess]
  dsimp only
  rw [hscale, if_neg (Nat.not_lt.mpr hlow)]
  unfold minExponent
  omega

/-! ## Overflow -/

/-- A rounded quotient overflows by its exponent, or at the greatest exponent by a carry. -/
theorem ofRatio_eq_infinity_iff (negative : Bool) {num den : Nat} (hnum : num ≠ 0) :
    (∃ b, ofRatio negative num den = .infinity b) ↔
      maxExponent < exponentFor num den ∨ maxExponent = exponentFor num den ∧
        roundRatio (scaleDown num den (exponentFor num den)).1
          (scaleDown num den (exponentFor num den)).2 = Nat.pow 2 53 := by
  unfold ofRatio
  rw [if_neg hnum]
  generalize exponentFor num den = e
  dsimp only
  generalize roundRatio (scaleDown num den e).1 (scaleDown num den e).2 = m
  by_cases hcarry : m = Nat.pow 2 53
  · rw [if_pos hcarry]
    dsimp only
    split
    · exact iff_of_true ⟨negative, rfl⟩ (by omega)
    · exact iff_of_false (by rintro ⟨b, hb⟩; cases hb) (by omega)
  · rw [if_neg hcarry]
    dsimp only
    split
    · exact iff_of_true ⟨negative, rfl⟩ (by omega)
    · exact iff_of_false (by rintro ⟨b, hb⟩; cases hb) (by omega)

/-! ## The bound in bits -/

theorem lt_carryBound {n k : Nat} (h : n.log2 ≤ k + 52) : n < carryBound k := by
  have hn : n < Nat.pow 2 (n.log2 + 1) := Nat.lt_log2_self
  have hbits : Nat.pow 2 (n.log2 + 1) ≤ Nat.pow 2 (53 + k) :=
    Nat.pow_le_pow_right (by decide) (by omega)
  have hsplit : Nat.pow 2 (53 + k) = Nat.pow 2 53 * Nat.pow 2 k := powTwo_of_eq_add rfl
  have hstep : Nat.pow 2 53 * Nat.pow 2 k ≤ (Nat.pow 2 54 - 1) * Nat.pow 2 k :=
    Nat.mul_le_mul_right _ (by decide)
  unfold carryBound
  omega

theorem carryBound_le {n k : Nat} (h : k + 54 ≤ n.log2) : carryBound k ≤ n := by
  have hne : n ≠ 0 := by
    rintro rfl
    rw [Nat.log2_zero] at h
    omega
  have hn : Nat.pow 2 n.log2 ≤ n := Nat.log2_self_le hne
  have hbits : Nat.pow 2 (54 + k) ≤ Nat.pow 2 n.log2 :=
    Nat.pow_le_pow_right (by decide) (by omega)
  have hsplit : Nat.pow 2 (54 + k) = Nat.pow 2 54 * Nat.pow 2 k := powTwo_of_eq_add rfl
  have hstep : (Nat.pow 2 54 - 1) * Nat.pow 2 k ≤ Nat.pow 2 54 * Nat.pow 2 k :=
    Nat.mul_le_mul_right _ (by decide)
  unfold carryBound
  omega

/-- At the bit in between, the rounded significand has one bit more exactly from the bound on. -/
theorem carry_iff {n k : Nat} (hbits : n.log2 = k + 53) :
    roundRatio (scaleDown n 1 ((k + 1 : Nat) : Int)).1 (scaleDown n 1 ((k + 1 : Nat) : Int)).2
        = Nat.pow 2 53 ↔ carryBound k ≤ n := by
  have hstep : Nat.pow 2 (k + 1) = 2 * Nat.pow 2 k := powTwo_of_eq_succ rfl
  have hscale : scaleDown n 1 ((k + 1 : Nat) : Int) = (n, 2 * Nat.pow 2 k) := by
    unfold scaleDown
    rw [if_pos (Int.natCast_nonneg _), Nat.one_mul, Int.toNat_natCast, hstep]
  have hbelow : n < 2 * Nat.pow 2 k * Nat.pow 2 53 := by
    have hbound : n < Nat.pow 2 (n.log2 + 1) := Nat.lt_log2_self
    have htop : Nat.pow 2 (n.log2 + 1) = Nat.pow 2 (k + 1) * Nat.pow 2 53 :=
      powTwo_of_eq_add (by omega)
    rwa [htop, hstep] at hbound
  have hle : roundRatio n (2 * Nat.pow 2 k) ≤ Nat.pow 2 53 := roundRatio_le hbelow
  have hpos : 0 < Nat.pow 2 k := Nat.two_pow_pos k
  have hlast := lt_roundRatio_iff (k := Nat.pow 2 53 - 1) (by decide) n hpos
  -- the greatest significand is odd, so from the middle above it the carry is taken
  have hmid : 2 * (Nat.pow 2 53 - 1) + 1 = Nat.pow 2 54 - 1 := by decide
  have htop : 0 < Nat.pow 2 53 := by decide
  rw [hmid] at hlast
  unfold carryBound
  rw [hscale, ← hlast]
  dsimp only
  omega

/-- Below the bit at which the carry decides no integer overflows, and above it each one does. -/
theorem ofRatio_one_eq_infinity_iff (negative : Bool) (n : Nat) {k : Nat}
    (hk : maxExponent = ((k + 1 : Nat) : Int)) :
    (∃ b, ofRatio negative n 1 = .infinity b) ↔ carryBound k ≤ n := by
  by_cases hn : n = 0
  · have hsmall : n < carryBound k :=
      lt_carryBound (by rw [hn, Nat.log2_zero]; omega)
    refine iff_of_false ?_ (Nat.not_le.mpr hsmall)
    unfold ofRatio
    rw [if_pos hn]
    rintro ⟨b, hb⟩
    cases hb
  rw [ofRatio_eq_infinity_iff negative hn, hk]
  rcases Nat.lt_trichotomy n.log2 (k + 53) with hfew | hbits | hmany
  · have hexp := exponentFor_le n
    have hleast : minExponent < ((k + 1 : Nat) : Int) := by
      unfold minExponent
      omega
    have hsmall : n < carryBound k := lt_carryBound (by omega)
    refine iff_of_false ?_ (Nat.not_le.mpr hsmall)
    omega
  · have hexp : exponentFor n 1 = ((k + 1 : Nat) : Int) := by
      rw [exponentFor_of_le (by omega), hbits]
      omega
    rw [hexp, carry_iff hbits]
    constructor
    · rintro (hlt | ⟨-, h⟩)
      · exact absurd hlt (Int.lt_irrefl _)
      · exact h
    · intro h
      exact .inr ⟨rfl, h⟩
  · have hexp : exponentFor n 1 = (n.log2 : Int) - 52 := exponentFor_of_le (by omega)
    refine iff_of_true (.inl ?_) (carryBound_le (by omega))
    omega

/-- An integer overflows exactly from the middle between the greatest number and `2^1024` on. -/
theorem ofInt?_eq_none_iff (i : Int) : ofInt? i = none ↔ overflowBound ≤ i.natAbs := by
  have hnone : ofInt? i = none ↔ ∃ b, ofInt i = .infinity b := by
    unfold ofInt?
    cases ofInt i with
    | infinity b => exact iff_of_true rfl ⟨b, rfl⟩
    | nan => exact iff_of_false nofun (by rintro ⟨b, hb⟩; cases hb)
    | finite => exact iff_of_false nofun (by rintro ⟨b, hb⟩; cases hb)
  have hratio := ofRatio_one_eq_infinity_iff (decide (i < 0)) i.natAbs (k := 970) rfl
  rw [hnone]
  exact hratio

end BuildScript.Number.Binary64
