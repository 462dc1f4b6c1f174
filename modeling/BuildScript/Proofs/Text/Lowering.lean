import BuildScript.Dispatch
import BuildScript.Proofs.Number.Numerals
import BuildScript.Proofs.Traversal

/-!
What has a given lower case form. Of the characters beyond ASCII only two have an ASCII letter in their form, the
capital I with a dot above and the Kelvin sign. So a word of small letters, none of them an `i` or a `k`, is the form
of its own spellings in small and capital letters, and of no other text (`lower_eq_iff`). Main statement:
`coerce_flagText`, that the texts taken for flags are the spellings of `true` and `false`.
-/

namespace BuildScript

namespace Text

/-! ## The forms of characters -/

/-- A run beyond ASCII leads from characters to characters beyond ASCII, but for that of the Kelvin sign. -/
theorem lowerRuns_cases : ∀ r ∈ lowerRuns,
    r = (65, 90, 1, 32) ∨ r = (8490, 8490, 1, -8383) ∨
      127 < r.1 + r.2.2.2 ∧
        (r.2.1 + r.2.2.2 < 0xd800 ∨ 0xdfff < r.1 + r.2.2.2 ∧ r.2.1 + r.2.2.2 < 0x110000) := by
  decide +kernel

theorem lowerForm_of_ascii {c : Char} (h : c.toNat < 127) : lowerForm c = [c.toLower] :=
  Number.forall_ascii (P := fun c => lowerForm c = [c.toLower]) (by decide +kernel) h

/-- The only ASCII characters in the form of a character beyond ASCII. -/
theorem mem_lowerForm_of_not_ascii {c x : Char} (hc : ¬ c.toNat < 127) (hx : x ∈ lowerForm c)
    (hascii : x.toNat < 127) : x = 'i' ∨ x = 'k' := by
  unfold lowerForm caseForm at hx
  split at hx
  · rename_i e he
    have hall : (lowerExpansions.all fun e => e.2.toList.all fun x => x = 'i' || decide (127 ≤ x.toNat)) = true := by
      decide +kernel
    have hletter := List.all_eq_true.mp (List.all_eq_true.mp hall e (List.mem_of_find?_eq_some he)) x hx
    rw [Bool.or_eq_true, decide_eq_true_eq, decide_eq_true_eq] at hletter
    exact .inl (hletter.resolve_right (Nat.not_le.mpr hascii))
  · split at hx
    · rename_i r hr
      have hholds := List.find?_some hr
      simp only [CaseRun.holds, Bool.and_eq_true, decide_eq_true_eq] at hholds
      obtain ⟨⟨hfirst, hlast⟩, -⟩ := hholds
      rw [List.mem_singleton] at hx
      rcases lowerRuns_cases r (List.mem_of_find?_eq_some hr) with rfl | rfl | ⟨hlow, hgap⟩
      · exact absurd (Nat.lt_of_le_of_lt hlast (by decide)) hc
      · have hkelvin : c.toNat = 8490 := Nat.le_antisymm hlast hfirst
        rw [hkelvin] at hx
        exact .inr hx
      · have hvalid : Nat.isValidChar (c.toNat + r.2.2.2).toNat := by
          unfold Nat.isValidChar
          omega
        have hcode : x.toNat = (c.toNat + r.2.2.2).toNat := by
          rw [hx, Char.ofNat, dif_pos hvalid]
          rfl
        omega
    · rw [List.mem_singleton] at hx
      exact absurd (hx ▸ hascii) hc

theorem lowerForm_ne_nil (c : Char) : lowerForm c ≠ [] := by
  unfold lowerForm caseForm
  split
  · rename_i e he
    have hall : ∀ e ∈ lowerExpansions, e.2.toList ≠ [] := by decide +kernel
    exact hall e (List.mem_of_find?_eq_some he)
  · split <;> exact List.cons_ne_nil _ _

theorem lowerFormAt_of_ascii (before after : List Char) {c : Char} (h : c.toNat < 127) :
    lowerFormAt before c after = [c.toLower] := by
  have hsigma : c ≠ 'Σ' := by
    rintro rfl
    exact absurd h (by decide)
  rw [lowerFormAt, if_neg hsigma, lowerForm_of_ascii h]

theorem mem_lowerFormAt_of_not_ascii {before after : List Char} {c x : Char} (hc : ¬ c.toNat < 127)
    (hx : x ∈ lowerFormAt before c after) (hascii : x.toNat < 127) : x = 'i' ∨ x = 'k' := by
  have hfinal : ¬ 'ς'.toNat < 127 := by decide
  have hsmall : ¬ 'σ'.toNat < 127 := by decide
  unfold lowerFormAt at hx
  split at hx
  · split at hx <;> rw [List.mem_singleton] at hx <;> subst hx
    · exact absurd hascii hfinal
    · exact absurd hascii hsmall
  · exact mem_lowerForm_of_not_ascii hc hx hascii

theorem lowerFormAt_ne_nil (before after : List Char) (c : Char) : lowerFormAt before c after ≠ [] := by
  unfold lowerFormAt
  split
  · split <;> exact List.cons_ne_nil _ _
  · exact lowerForm_ne_nil c

/-! ## The forms of texts -/

/-- Whether it is a small ASCII letter that no character beyond ASCII has in its lower case form. -/
def isSole (w : Char) : Bool := w.isLower && w ≠ 'i' && w ≠ 'k'

/-- The characters are those of a word, each as it is or as a capital ASCII letter. -/
def Spells (word cs : List Char) : Prop := List.Forall₂ (fun w c => c = w ∨ c = w.toUpper) word cs

theorem isSole_iff (w : Char) : isSole w = true ↔ w.isLower = true ∧ w ≠ 'i' ∧ w ≠ 'k' := by
  simp [isSole, and_assoc]

theorem toNat_lt_of_isLower {w : Char} (h : w.isLower = true) : w.toNat < 127 := by
  unfold Char.isLower at h
  rw [Bool.and_eq_true, decide_eq_true_eq, decide_eq_true_eq] at h
  have hlast : w.toNat ≤ 122 := h.2
  omega

theorem toNat_toUpper_lt {w : Char} (h : w.toNat < 127) : w.toUpper.toNat < 127 :=
  Number.forall_ascii (P := fun w => w.toUpper.toNat < 127) (by decide +kernel) h

/-- A small letter is the small one of itself and of its capital. -/
theorem toLower_eq_iff {c w : Char} (hc : c.toNat < 127) (hw : w.isLower = true) :
    c.toLower = w ↔ c = w ∨ c = w.toUpper := by
  constructor
  · rintro rfl
    exact Number.forall_ascii (P := fun c => c = c.toLower ∨ c = c.toLower.toUpper) (by decide +kernel) hc
  · have hback := Number.forall_ascii
      (P := fun w => w.isLower = true → w.toLower = w ∧ w.toUpper.toLower = w) (by decide +kernel)
      (toNat_lt_of_isLower hw) hw
    rintro (rfl | rfl)
    · exact hback.1
    · exact hback.2

/-- A spelling of a small letter is an ASCII character. -/
theorem toNat_lt_of_spells {w c : Char} (hw : w.isLower = true) (h : c = w ∨ c = w.toUpper) : c.toNat < 127 := by
  have hascii := toNat_lt_of_isLower hw
  rcases h with rfl | rfl
  · exact hascii
  · exact toNat_toUpper_lt hascii

/-- A word of sole letters is the lower case form of its spellings alone, wherever they stand. -/
theorem lowerFrom_eq_iff {word : List Char} (hword : ∀ w ∈ word, isSole w = true) (before cs : List Char) :
    lowerFrom before cs = word ↔ Spells word cs := by
  induction cs generalizing before word with
  | nil =>
    rw [Spells, List.forall₂_nil_right_iff]
    exact eq_comm
  | cons c rest ih =>
    rw [lowerFrom]
    by_cases hc : c.toNat < 127
    · rw [lowerFormAt_of_ascii before rest hc, List.singleton_append]
      cases word with
      | nil => exact iff_of_false nofun nofun
      | cons w word =>
        obtain ⟨hw, hrest⟩ := List.forall_mem_cons.mp hword
        rw [List.cons.injEq, toLower_eq_iff hc ((isSole_iff w).mp hw).1, ih hrest, Spells, Spells, List.forall₂_cons]
    · refine iff_of_false (fun h => ?_) fun h => ?_
      · -- the first character of the form would be a letter of the word
        obtain ⟨x, form, hform⟩ := List.exists_cons_of_ne_nil (lowerFormAt_ne_nil before rest c)
        have hx : x ∈ word := by simp [← h, hform]
        obtain ⟨hlower, hi, hk⟩ := (isSole_iff x).mp (hword x hx)
        rcases mem_lowerFormAt_of_not_ascii hc (hform ▸ List.mem_cons_self) (toNat_lt_of_isLower hlower)
          with rfl | rfl
        · exact hi rfl
        · exact hk rfl
      · cases h with
        | @cons w _ word _ hspelled _ =>
          exact hc (toNat_lt_of_spells ((isSole_iff w).mp (hword w List.mem_cons_self)).1 hspelled)

/-- A word of sole letters is the lower case form of its spellings alone. -/
theorem lower_eq_iff {word : String} (hword : word.toList.all isSole = true) (s : String) :
    lower s = word ↔ Spells word.toList s.toList := by
  rw [lower, ← lowerFrom_eq_iff (List.all_eq_true.mp hword) [] s.toList, ← String.toList_inj, String.toList_ofList]

/-- The Kelvin sign, which is no spelling of the letter. -/
example : lower "\u212a" = "k" := by decide +kernel

end Text

open Text (Spells)

/-- A text is taken for a flag exactly if it spells `true` or `false` in small and capital letters of ASCII, and for the
one that it spells; any other text is of a wrong type. -/
theorem coerce_flagText (s : String) :
    (coerce (.text s) (.type .bool) = .ok (.bool true) ↔ Spells "true".toList s.toList) ∧
      (coerce (.text s) (.type .bool) = .ok (.bool false) ↔ Spells "false".toList s.toList) ∧
      ((∃ e, coerce (.text s) (.type .bool) = .error e ∧ e.raised = .fault (.of .argumentTypeMismatch
          ("Expected a boolean ('true' or 'false'), got " ++ Text.quoted s ++ "."))) ↔
        ¬ Spells "true".toList s.toList ∧ ¬ Spells "false".toList s.toList) := by
  have htrue : Text.lower s = "true" ↔ Spells "true".toList s.toList := Text.lower_eq_iff (by decide +kernel) s
  have hfalse : Text.lower s = "false" ↔ Spells "false".toList s.toList := Text.lower_eq_iff (by decide +kernel) s
  rw [← htrue, ← hfalse, coerce, Value.toFlag]
  by_cases hyes : Text.lower s = "true"
  · have hno : ¬ Text.lower s = "false" := by rw [hyes]; decide
    simp [Value.bare, hyes]
  · by_cases hno : Text.lower s = "false"
    · simp [Value.bare, hno]
    · simp [Value.bare, hyes, hno]
      rfl

end BuildScript
