import BuildScript.Proofs.Text.Visible

/-!
How long the lines of a wrapped text are, and how they begin. Where each indent leaves room for a character,
no line is longer than the width (`length_wrapChars_le`): a chunk goes onto a line only if it fits, and one
that fits no line is cut to what is left of it. Every line behind the first begins with the indent
(`indent_wrapChars`).

A text is cut again at its line feeds, so that the lines of several paragraphs can be counted together
(`splitAtChar_intercalate`).
-/

namespace BuildScript.Text

/-! ## One line -/

/-- The chunks that fit do not take more than the room. -/
theorem length_fit_le {room : Int} {used : Nat} (h : (used : Int) ≤ room) (chunks : List (List Char)) :
    ((used + (fit room used chunks).1.flatten.length : Nat) : Int) ≤ room := by
  induction chunks generalizing used with
  | nil => simpa [fit] using h
  | cons c rest ih =>
    rw [fit]
    split
    · rename_i hfits
      have hrest := ih hfits
      rw [List.flatten_cons, List.length_append, ← Nat.add_assoc]
      exact hrest
    · simpa using h

theorem length_withoutBlankEnd_le (line : List (List Char)) :
    (withoutBlankEnd line).flatten.length ≤ line.flatten.length := by
  obtain ⟨gap, -, hline⟩ := exists_gap_withoutBlankEnd line
  rw [hline, List.length_append]
  exact Nat.le_add_right _ _

/-- A line does not take more than its room. -/
theorem length_cutLine_le {room : Int} (hroom : 0 < room) (chunks : List (List Char)) :
    ((cutLine room chunks).1.flatten.length : Int) ≤ room := by
  have hfront : ((fit room 0 chunks).1.flatten.length : Int) ≤ room := by
    have hempty : ((0 : Nat) : Int) ≤ room := Int.le_of_lt hroom
    have hfits := length_fit_le hempty chunks
    rwa [Nat.zero_add] at hfits
  unfold cutLine
  dsimp only
  refine Int.le_trans (Int.ofNat_le.mpr (length_withoutBlankEnd_le _)) ?_
  generalize fit room 0 chunks = fitting at hfront
  obtain ⟨front, back⟩ := fitting
  cases back with
  | nil => exact hfront
  | cons c rest =>
    dsimp only
    split
    · -- what is cut off the long chunk is not more than what the others have left
      have hcut := cutPosition_le (roomLeft room front.flatten.length) c
      have hleft : roomLeft room front.flatten.length = (room - front.flatten.length).toNat :=
        if_neg (by omega)
      rw [List.flatten_append, List.flatten_singleton, List.length_append, List.length_take]
      dsimp only at hfront
      omega
    · exact hfront

/-! ## All lines -/

/-- The indents leave room for a character. -/
structure Margins.Roomy (m : Margins) : Prop where
  first : (m.firstIndent.length : Int) < m.width
  rest : (m.restIndent.length : Int) < m.width

theorem Margins.Roomy.length_indent_lt {m : Margins} (h : m.Roomy) (started : Bool) :
    ((m.indent started).length : Int) < m.width := by
  cases started with
  | false => exact h.first
  | true => exact h.rest

theorem Lays.length_le {m : Margins} (hm : m.Roomy) {started : Bool} {chunks ls : List (List Char)}
    (h : Lays m started chunks ls) : ∀ l ∈ ls, (l.length : Int) ≤ m.width := by
  induction h with
  | done => exact List.forall_mem_nil _
  | skip _ _ ih => exact ih
  | @line started chunks ls h ih =>
    refine List.forall_mem_cons.mpr ⟨?_, ih⟩
    have hindent := hm.length_indent_lt started
    have hline : ((nextCut m started chunks).1.flatten.length : Int) ≤
        m.width - (m.indent started).length := length_cutLine_le (by omega) _
    rw [List.length_append]
    omega

/-- Behind the first line every line is indented. -/
theorem Lays.indent {m : Margins} {chunks ls : List (List Char)} (h : Lays m true chunks ls) :
    ∀ l ∈ ls, m.restIndent <+: l := by
  generalize hstarted : true = started at h
  induction h with
  | done => exact List.forall_mem_nil _
  | skip _ _ ih => exact ih hstarted
  | line h ih =>
    subst hstarted
    exact List.forall_mem_cons.mpr ⟨List.prefix_append _ _, ih rfl⟩

theorem Lays.indent_tail {m : Margins} {started : Bool} {chunks ls : List (List Char)}
    (h : Lays m started chunks ls) : ∀ l ∈ ls.tail, m.restIndent <+: l := by
  induction h with
  | done => exact List.forall_mem_nil _
  | skip _ _ ih => exact ih
  | line h _ => exact h.indent

/-- No line of a wrapped text is longer than the width, if the indents leave room for a character. -/
theorem length_wrapChars_le {m : Margins} (hm : m.Roomy) {cs : List Char} {ls : List (List Char)}
    (h : wrapChars m cs = .ok ls) : ∀ l ∈ ls, (l.length : Int) ≤ m.width :=
  (lays_of_wrapChars h).length_le hm

/-- Every line of a wrapped text but the first one begins with the indent. -/
theorem indent_wrapChars {m : Margins} {cs : List Char} {ls : List (List Char)}
    (h : wrapChars m cs = .ok ls) : ∀ l ∈ ls.tail, m.restIndent <+: l :=
  (lays_of_wrapChars h).indent_tail

/-! ## Cutting at line feeds -/

section SplitAtChar

variable {sep : Char}

theorem splitAtChar_of_not_mem {cs : List Char} (h : sep ∉ cs) : splitAtChar sep cs = [cs] := by
  induction cs with
  | nil => rfl
  | cons c rest ih =>
    obtain ⟨hc, hrest⟩ := not_or.mp (mt List.mem_cons.mpr h)
    rw [splitAtChar, if_neg (Ne.symm hc), ih hrest]

/-- A text is cut at a separator into what stands in front of it and what stands behind. -/
theorem splitAtChar_append_cons (a b : List Char) :
    splitAtChar sep (a ++ sep :: b) = splitAtChar sep a ++ splitAtChar sep b := by
  induction a with
  | nil =>
    have hcut : splitAtChar sep (sep :: b) = [] :: splitAtChar sep b := if_pos rfl
    exact hcut
  | cons c rest ih =>
    rw [List.cons_append, splitAtChar, splitAtChar, ih]
    split
    · rfl
    · obtain ⟨p, ps, hpieces⟩ := List.exists_cons_of_ne_nil (splitAtChar_ne_nil sep rest)
      rw [hpieces]
      rfl

/-- Texts that are joined by the separator are cut one after the other. -/
theorem splitAtChar_intercalate {xs : List (List Char)} (hne : xs ≠ []) :
    splitAtChar sep ([sep].intercalate xs) = xs.flatMap (splitAtChar sep) := by
  induction xs with
  | nil => exact absurd rfl hne
  | cons x xs ih =>
    cases xs with
    | nil => rw [List.intercalate_singleton, List.flatMap_singleton]
    | cons y ys =>
      rw [List.intercalate_cons_cons, List.append_assoc, List.singleton_append, splitAtChar_append_cons,
        ih (List.cons_ne_nil y ys)]
      exact (List.flatMap_cons ..).symm

end SplitAtChar

end BuildScript.Text
