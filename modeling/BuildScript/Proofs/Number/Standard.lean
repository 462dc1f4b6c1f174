import BuildScript.Proofs.Number.Overflow
import BuildScript.Number.Reading
import Mathlib.Data.Rat.Cast.Order
import Mathlib.Algebra.Order.Field.Power
import Mathlib.Tactic.FieldSimp
import Mathlib.Tactic.Linarith
import Mathlib.Tactic.Positivity
import Mathlib.Tactic.Ring

/-!
The standard form of a floating-point number: its significand has 53 bits, or its exponent is the least. All numbers
that are rounded or read here are in it (`standard_ofRatio`, `standard_floatOfText`). A rational number has no two
standard forms, but that zero has two signs, so finite numbers are equal exactly if they stand for the same rational
number (`eq_finite_iff`), and one is equal to an integer exactly if it stands for it (`eqInt_finite_iff`).
-/

namespace BuildScript.Number.Binary64

/-- The form of numbers in which none but zero can be written in two ways. -/
inductive Standard : Binary64 → Prop where
  | nan : Standard .nan
  | infinity (negative : Bool) : Standard (.infinity negative)
  | finite (negative : Bool) {m : Nat} {e : Int} (hm : m < Nat.pow 2 53) (hleast : minExponent ≤ e)
      (hgreatest : e ≤ maxExponent) (h : Nat.pow 2 52 ≤ m ∨ e = minExponent) :
      Standard (.finite negative m e)

/-- The rational number that a sign, a significand and an exponent stand for. -/
def amount (negative : Bool) (m : Nat) (e : Int) : ℚ := signed negative m * 2 ^ e

/-! ## Comparing -/

theorem cast_pow_two (n : Nat) : ((Nat.pow 2 n : Nat) : ℚ) = 2 ^ (n : Int) := by
  rw [Nat.pow_eq, Nat.cast_pow, Nat.cast_ofNat, zpow_natCast]

theorem scaleDown_snd_pos {den : Nat} (hden : 0 < den) (num : Nat) (e : Int) :
    0 < (scaleDown num den e).2 := by
  unfold scaleDown
  split
  · exact Nat.mul_pos hden (Nat.two_pow_pos _)
  · exact hden

/-- A quotient is scaled down by a power of two. -/
theorem scaleDown_eq {den : Nat} (hden : 0 < den) (num : Nat) (e : Int) :
    ((scaleDown num den e).1 : ℚ) = num / den * 2 ^ (-e) * (scaleDown num den e).2 := by
  have hne : (den : ℚ) ≠ 0 := Nat.cast_ne_zero.mpr (Nat.ne_of_gt hden)
  have htwo : (2 : ℚ) ^ e ≠ 0 := zpow_ne_zero e two_ne_zero
  unfold scaleDown
  split
  · rename_i he
    simp only [Nat.cast_mul, cast_pow_two, Int.toNat_of_nonneg he, zpow_neg]
    field_simp
  · rename_i he
    simp only [Nat.cast_mul, cast_pow_two, Int.toNat_of_nonneg (show 0 ≤ -e by omega)]
    field_simp

/-- A number is an integer exactly if it stands for it. -/
theorem eqInt_finite_iff (negative : Bool) (m : Nat) (e i : Int) :
    (Binary64.finite negative m e).eqInt i = true ↔ amount negative m e = i := by
  have hpos := scaleDown_snd_pos Nat.one_pos m (-e)
  have hscale := scaleDown_eq Nat.one_pos m (-e)
  generalize hscaled : scaleDown m 1 (-e) = scaled at hpos hscale
  have hne : (scaled.2 : ℚ) ≠ 0 := Nat.cast_ne_zero.mpr (Nat.ne_of_gt hpos)
  have hsigned : ((signed negative scaled.1 : Int) : ℚ) = amount negative m e * scaled.2 := by
    unfold amount signed
    rw [neg_neg, Nat.cast_one, div_one] at hscale
    cases negative <;> simp [hscale]
  simp only [eqInt, hscaled, decide_eq_true_eq]
  rw [← Int.cast_inj (α := ℚ), hsigned, Int.cast_mul, Int.cast_natCast, mul_left_inj' hne]

/-- What a number stands for has one standard form. -/
theorem standard_unique {m n : Nat} {e f : Int} (hm : m < Nat.pow 2 53) (he : minExponent ≤ e)
    (hn : Nat.pow 2 52 ≤ n ∨ f = minExponent) (h : (m : ℚ) * 2 ^ e = n * 2 ^ f) : f ≤ e := by
  by_contra hlt
  have hlow : Nat.pow 2 52 ≤ n := hn.resolve_right (by omega)
  -- the other significand would have a bit more
  have hdouble : (n : ℚ) * 2 ≤ m := by
    have hstep : (2 : ℚ) ^ (e + 1) ≤ 2 ^ f := zpow_le_zpow_right₀ (by norm_num) (by omega)
    have hpos : (0 : ℚ) < 2 ^ e := by positivity
    rw [zpow_add_one₀ two_ne_zero] at hstep
    refine le_of_mul_le_mul_right ?_ hpos
    calc (n : ℚ) * 2 * 2 ^ e = n * (2 ^ e * 2) := by ring
      _ ≤ n * 2 ^ f := mul_le_mul_of_nonneg_left hstep (Nat.cast_nonneg n)
      _ = m * 2 ^ e := h.symm
  have hdouble' : n * 2 ≤ m := by exact_mod_cast hdouble
  have hbits : Nat.pow 2 53 = Nat.pow 2 52 * 2 := rfl
  omega

theorem amount_eq_zero_iff (negative : Bool) (m : Nat) (e : Int) : amount negative m e = 0 ↔ m = 0 := by
  have hpow : (2 : ℚ) ^ e ≠ 0 := zpow_ne_zero e two_ne_zero
  unfold amount signed
  cases negative <;> simp [hpow]

theorem amount_of_negative (m : Nat) (e : Int) : amount true m e = -(m * 2 ^ e) := by
  simp [amount, signed]

theorem amount_of_not_negative (m : Nat) (e : Int) : amount false m e = m * 2 ^ e := by
  simp [amount, signed]

/-- Numbers that are not zero stand for the same only if they have the same sign. -/
theorem negative_eq_of_amount_eq {a b : Bool} {m n : Nat} {e f : Int} (hm : m ≠ 0) (hn : n ≠ 0)
    (h : amount a m e = amount b n f) : a = b ∧ (m : ℚ) * 2 ^ e = n * 2 ^ f := by
  have hleft : (0 : ℚ) < m * 2 ^ e := by positivity
  have hright : (0 : ℚ) < n * 2 ^ f := by positivity
  cases a <;> cases b <;> simp only [amount_of_negative, amount_of_not_negative] at h
  · exact ⟨rfl, h⟩
  · linarith
  · linarith
  · exact ⟨rfl, neg_inj.mp h⟩

/-- Numbers in standard form are equal exactly if they stand for the same. -/
theorem eq_finite_iff {a b : Bool} {m n : Nat} {e f : Int} (hx : Standard (.finite a m e))
    (hy : Standard (.finite b n f)) :
    (Binary64.finite a m e).eq (.finite b n f) = true ↔ amount a m e = amount b n f := by
  obtain ⟨-⟩ | ⟨-⟩ | ⟨-, hm, he, -, hlow⟩ := hx
  obtain ⟨-⟩ | ⟨-⟩ | ⟨-, hn, hf, -, hlow'⟩ := hy
  simp only [eq, Bool.or_eq_true, Bool.and_eq_true, decide_eq_true_eq]
  constructor
  · rintro (⟨hm0, hn0⟩ | ⟨⟨rfl, rfl⟩, rfl⟩)
    · rw [(amount_eq_zero_iff a m e).mpr hm0, (amount_eq_zero_iff b n f).mpr hn0]
    · rfl
  · intro h
    by_cases hm0 : m = 0
    · rw [(amount_eq_zero_iff a m e).mpr hm0] at h
      exact .inl ⟨hm0, (amount_eq_zero_iff b n f).mp h.symm⟩
    · have hn0 : n ≠ 0 := fun hn0 => by
        rw [(amount_eq_zero_iff b n f).mpr hn0, amount_eq_zero_iff] at h
        exact hm0 h
      obtain ⟨hsign, hsame⟩ := negative_eq_of_amount_eq hm0 hn0 h
      have hexp : e = f :=
        Int.le_antisymm (standard_unique hn hf hlow hsame.symm) (standard_unique hm he hlow' hsame)
      subst hexp
      have hpow : (2 : ℚ) ^ e ≠ 0 := zpow_ne_zero e two_ne_zero
      exact .inr ⟨⟨hsign, Nat.cast_injective (mul_right_cancel₀ hpow hsame)⟩, rfl⟩

/-! ## Rounding -/

theorem le_roundRatio {num den k : Nat} (hden : 0 < den) (h : den * k ≤ num) : k ≤ roundRatio num den := by
  have hq : k ≤ num / den := (Nat.le_div_iff_mul_le hden).mpr (Nat.mul_comm den k ▸ h)
  unfold roundRatio
  dsimp only
  split <;> omega

/-- A quotient lies between the powers of two that its bits give. -/
theorem ratio_bounds {num den : Nat} (hnum : num ≠ 0) (hden : den ≠ 0) :
    (2 : ℚ) ^ ((num.log2 : Int) - den.log2 - 1) ≤ num / den ∧
      (num : ℚ) / den < 2 ^ ((num.log2 : Int) - den.log2 + 1) := by
  have hpos : (0 : ℚ) < den := Nat.cast_pos.mpr (Nat.pos_of_ne_zero hden)
  have hlow (n : Nat) (hn : n ≠ 0) : (2 : ℚ) ^ (n.log2 : Int) ≤ n := by
    rw [zpow_natCast]
    exact_mod_cast Nat.log2_self_le hn
  have hhigh (n : Nat) : (n : ℚ) < 2 ^ ((n.log2 : Int) + 1) := by
    rw [← Nat.cast_succ, zpow_natCast]
    exact_mod_cast Nat.lt_log2_self
  constructor
  · rw [le_div_iff₀ hpos]
    calc (2 : ℚ) ^ ((num.log2 : Int) - den.log2 - 1) * den
        ≤ 2 ^ ((num.log2 : Int) - den.log2 - 1) * 2 ^ ((den.log2 : Int) + 1) :=
          mul_le_mul_of_nonneg_left (hhigh den).le (by positivity)
      _ = 2 ^ (num.log2 : Int) := by rw [← zpow_add₀ two_ne_zero]; congr 1; ring
      _ ≤ num := hlow num hnum
  · rw [div_lt_iff₀ hpos]
    calc (num : ℚ) < 2 ^ ((num.log2 : Int) + 1) := hhigh num
      _ = 2 ^ ((num.log2 : Int) - den.log2 + 1) * 2 ^ (den.log2 : Int) := by
          rw [← zpow_add₀ two_ne_zero]; congr 1; ring
      _ ≤ 2 ^ ((num.log2 : Int) - den.log2 + 1) * den :=
          mul_le_mul_of_nonneg_left (hlow den hden) (by positivity)

/-- The whole part of a scaled quotient is below a number exactly if the quotient is. -/
theorem scaleDown_div_lt_iff (num : Nat) {den : Nat} (hden : 0 < den) (e : Int) (k : Nat) :
    (scaleDown num den e).1 / (scaleDown num den e).2 < k ↔ (num : ℚ) / den * 2 ^ (-e) < k := by
  have hpos := scaleDown_snd_pos hden num e
  have hposq : (0 : ℚ) < (scaleDown num den e).2 := Nat.cast_pos.mpr hpos
  rw [Nat.div_lt_iff_lt_mul hpos, ← Nat.cast_lt (α := ℚ), Nat.cast_mul, scaleDown_eq hden,
    mul_lt_mul_iff_of_pos_right hposq]

/-- A quotient whose bits give a guess at its exponent has 53 bits at the guess or at the next exponent. -/
theorem chosen_bounds {r : ℚ} {guess e : Int} (hlow : 2 ^ (guess + 52) ≤ r) (hhigh : r < 2 ^ (guess + 54))
    (he : r * 2 ^ (-guess) < 2 ^ (53 : Int) ∧ e = guess ∨
      2 ^ (53 : Int) ≤ r * 2 ^ (-guess) ∧ e = guess + 1) :
    2 ^ (52 : Int) ≤ r * 2 ^ (-e) ∧ r * 2 ^ (-e) < 2 ^ (53 : Int) := by
  have hcancel (e k : Int) : (2 : ℚ) ^ (e + k) * 2 ^ (-e) = 2 ^ k := by
    rw [← zpow_add₀ two_ne_zero]
    congr 1
    ring
  rcases he with ⟨hfew, rfl⟩ | ⟨hmany, rfl⟩
  · refine ⟨?_, hfew⟩
    rw [← hcancel e 52]
    exact mul_le_mul_of_nonneg_right hlow (by positivity)
  · constructor
    · calc (2 : ℚ) ^ (52 : Int) = 2 ^ (53 : Int) * 2 ^ (-1 : Int) := by
            rw [← zpow_add₀ two_ne_zero]; rfl
        _ ≤ r * 2 ^ (-guess) * 2 ^ (-1 : Int) := mul_le_mul_of_nonneg_right hmany (by positivity)
        _ = r * 2 ^ (-(guess + 1)) := by
            rw [mul_assoc, ← zpow_add₀ two_ne_zero, neg_add]
    · have hstep : guess + 54 = guess + 1 + 53 := by ring
      rw [← hcancel (guess + 1) 53, ← hstep]
      exact mul_lt_mul_of_pos_right hhigh (by positivity)

/-- At its exponent a quotient has no more than 53 bits, and no fewer unless the exponent is the least. -/
theorem exponentFor_bounds {num den : Nat} (hnum : num ≠ 0) (hden : den ≠ 0) :
    (num : ℚ) / den * 2 ^ (-exponentFor num den) < (Nat.pow 2 53 : Nat) ∧
      (((Nat.pow 2 52 : Nat) : ℚ) ≤ num / den * 2 ^ (-exponentFor num den) ∨
        exponentFor num den = minExponent) := by
  have htop : ((Nat.pow 2 53 : Nat) : ℚ) = 2 ^ (53 : Int) := cast_pow_two 53
  have hbottom : ((Nat.pow 2 52 : Nat) : ℚ) = 2 ^ (52 : Int) := cast_pow_two 52
  have hbounds := ratio_bounds hnum hden
  have hcut := scaleDown_div_lt_iff num (Nat.pos_of_ne_zero hden)
    ((num.log2 : Int) - den.log2 - 53) (Nat.pow 2 53)
  have hratio : (0 : ℚ) ≤ num / den := by positivity
  unfold exponentFor
  dsimp only
  have hlow : (num.log2 : Int) - den.log2 - 1 = ((num.log2 : Int) - den.log2 - 53) + 52 := by ring
  have hhigh : (num.log2 : Int) - den.log2 + 1 = ((num.log2 : Int) - den.log2 - 53) + 54 := by ring
  rw [hlow, hhigh] at hbounds
  rw [htop] at hcut
  rw [htop, hbottom]
  generalize (num.log2 : Int) - den.log2 - 53 = guess at hbounds hcut ⊢
  generalize (num : ℚ) / den = r at hbounds hcut hratio ⊢
  generalize hchosen : (if (scaleDown num den guess).1 / (scaleDown num den guess).2 < Nat.pow 2 53
    then guess else guess + 1) = e
  have he : r * 2 ^ (-guess) < 2 ^ (53 : Int) ∧ e = guess ∨
      2 ^ (53 : Int) ≤ r * 2 ^ (-guess) ∧ e = guess + 1 := by
    rw [← hchosen, ← not_lt, ← hcut]
    split
    · rename_i hfew
      exact .inl ⟨hfew, rfl⟩
    · rename_i hmany
      exact .inr ⟨hmany, rfl⟩
  obtain ⟨hmin, hmax⟩ := chosen_bounds hbounds.1 hbounds.2 he
  rcases le_total e minExponent with hle | hle
  · rw [max_eq_right hle]
    refine ⟨lt_of_le_of_lt ?_ hmax, .inr rfl⟩
    exact mul_le_mul_of_nonneg_left (zpow_le_zpow_right₀ (by norm_num) (neg_le_neg hle)) hratio
  · rw [max_eq_left hle]
    exact ⟨hmax, .inl hmin⟩

theorem standard_zero (negative : Bool) : Standard (zero negative) :=
  .finite negative (by decide) (Int.le_refl _) (by decide) (.inr rfl)

/-- A rounded quotient is in standard form. -/
theorem standard_ofRatio (negative : Bool) (num : Nat) {den : Nat} (hden : den ≠ 0) :
    Standard (ofRatio negative num den) := by
  unfold ofRatio
  split
  · exact standard_zero negative
  · rename_i hnum
    obtain ⟨hhigh, hlow⟩ := exponentFor_bounds hnum hden
    have hleast : minExponent ≤ exponentFor num den := le_max_right _ _
    have hpos := scaleDown_snd_pos (Nat.pos_of_ne_zero hden) num (exponentFor num den)
    have hposq : (0 : ℚ) < (scaleDown num den (exponentFor num den)).2 := Nat.cast_pos.mpr hpos
    have hscale := scaleDown_eq (Nat.pos_of_ne_zero hden) num (exponentFor num den)
    generalize exponentFor num den = e at hhigh hlow hleast hpos hposq hscale ⊢
    dsimp only
    generalize scaleDown num den e = scaled at hpos hposq hscale ⊢
    have hround : roundRatio scaled.1 scaled.2 ≤ Nat.pow 2 53 := by
      refine roundRatio_le ?_
      rw [← Nat.cast_lt (α := ℚ), Nat.cast_mul, hscale, mul_comm]
      exact mul_lt_mul_of_pos_left hhigh hposq
    have hbits : Nat.pow 2 52 ≤ roundRatio scaled.1 scaled.2 ∨ e = minExponent := by
      refine hlow.imp_left fun hlow => le_roundRatio hpos ?_
      rw [← Nat.cast_le (α := ℚ), Nat.cast_mul, hscale, mul_comm]
      exact mul_le_mul_of_nonneg_right hlow hposq.le
    generalize roundRatio scaled.1 scaled.2 = m at hround hbits ⊢
    -- a carry leaves the least significand of 53 bits, one exponent up
    have hsettled : ∀ n f, (if m = Nat.pow 2 53 then (Nat.pow 2 52, e + 1) else (m, e)) = (n, f) →
        n < Nat.pow 2 53 ∧ minExponent ≤ f ∧ (Nat.pow 2 52 ≤ n ∨ f = minExponent) := by
      intro n f h
      have hcarry : Nat.pow 2 52 < Nat.pow 2 53 := by decide
      split at h <;> cases h
      · exact ⟨hcarry, by omega, .inl (Nat.le_refl _)⟩
      · exact ⟨by omega, hleast, hbits⟩
    generalize (if m = Nat.pow 2 53 then (Nat.pow 2 52, e + 1) else (m, e)) = settled at hsettled ⊢
    obtain ⟨hn, hf, hform⟩ := hsettled settled.1 settled.2 rfl
    split
    · exact .infinity negative
    · rename_i hfits
      exact .finite negative hn hf (Int.not_lt.mp hfits) hform

theorem standard_of_ofInt? {i : Int} {x : Binary64} (h : ofInt? i = some x) : Standard x := by
  have hstandard : Standard (ofInt i) := standard_ofRatio _ _ Nat.one_ne_zero
  unfold ofInt? at h
  split at h <;> cases h
  exact hstandard

theorem standard_ofDecimal (negative : Bool) (digits : Nat) (exponent : Int) :
    Standard (ofDecimal negative digits exponent) := by
  unfold ofDecimal
  dsimp only
  split_ifs
  · exact standard_zero negative
  · exact .infinity negative
  · exact standard_zero negative
  · exact standard_ofRatio negative _ Nat.one_ne_zero
  · exact standard_ofRatio negative _ (Nat.ne_of_gt (Nat.pow_pos (by decide)))

end BuildScript.Number.Binary64

namespace BuildScript.Number

open Binary64 (Standard)

/-- A text reads as a number in standard form. -/
theorem standard_floatOfText {s : String} {x : Binary64} (h : floatOfText? s = some x) : x.Standard := by
  simp only [floatOfText?, readFloat?, Option.bind_eq_bind, Option.bind_eq_some_iff] at h
  obtain ⟨plain, -, hread⟩ := h
  unfold readUnsigned at hread
  dsimp only at hread
  split_ifs at hread
  · cases hread
    exact .infinity _
  · cases hread
    exact .nan
  · obtain ⟨e, -, rfl⟩ := Option.map_eq_some_iff.mp hread
    exact Binary64.standard_ofDecimal _ _ _

end BuildScript.Number
