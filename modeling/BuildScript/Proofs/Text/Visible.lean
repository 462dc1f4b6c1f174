import BuildScript.Proofs.Text.Wrapping
import BuildScript.Text.Lines

/-!
What is to be seen of a wrapped text. Wrapping moves, drops and adds blanks only: the characters of the lines that
are not blank are those of the text, in their order (`visible_wrapChars`). Every line is an indent and characters of
the text with its spaces written plainly (`lines_wrapChars`).

Both are read off the relation `Lays`, which tells how a layout comes to its end.
-/

namespace BuildScript.Text

/-- The characters that are not blank. -/
def visible (cs : List Char) : List Char := cs.filter (!isBlank ·)

theorem visible_append (a b : List Char) : visible (a ++ b) = visible a ++ visible b :=
  List.filter_append ..

theorem visible_cons (c : Char) (cs : List Char) :
    visible (c :: cs) = if isBlank c then visible cs else c :: visible cs := by
  rw [visible, List.filter_cons]
  cases isBlank c <;> rfl

theorem visible_of_allBlank {cs : List Char} (h : allBlank cs = true) : visible cs = [] := by
  refine List.filter_eq_nil_iff.mpr fun c hc => ?_
  rw [List.all_eq_true.mp h c hc]
  decide

theorem allBlank_replicate_space (n : Nat) : allBlank (List.replicate n ' ') = true := by
  refine List.all_eq_true.mpr fun c hc => ?_
  rw [List.eq_of_mem_replicate hc, isBlank_space]

theorem allBlank_append {a b : List Char} (ha : allBlank a = true) (hb : allBlank b = true) :
    allBlank (a ++ b) = true := by
  rw [allBlank, List.all_append, Bool.and_eq_true]
  exact ⟨ha, hb⟩

theorem allBlank_of_visible {cs : List Char} (h : visible cs = []) : allBlank cs = true := by
  refine List.all_eq_true.mpr fun c hc => ?_
  simpa using List.filter_eq_nil_iff.mp h c hc

/-! ## One line -/

/-- What is dropped in front is blank. -/
theorem exists_gap_dropBlankChunk (chunks : List (List Char)) :
    ∃ gap, allBlank gap = true ∧ chunks.flatten = gap ++ (dropBlankChunk chunks).flatten := by
  cases chunks with
  | nil => exact ⟨[], rfl, rfl⟩
  | cons c rest =>
    rw [dropBlankChunk]
    split
    · rename_i hblank
      exact ⟨c, hblank, List.flatten_cons⟩
    · exact ⟨[], rfl, rfl⟩

theorem withoutBlankEnd_concat (front : List (List Char)) (c : List Char) :
    withoutBlankEnd (front ++ [c]) = if allBlank c then front else front ++ [c] := by
  rw [withoutBlankEnd, List.reverse_concat, dropBlankChunk]
  split <;> simp

/-- What is dropped at the end is blank. -/
theorem exists_gap_withoutBlankEnd (line : List (List Char)) :
    ∃ gap, allBlank gap = true ∧ line.flatten = (withoutBlankEnd line).flatten ++ gap := by
  rcases line.eq_nil_or_concat with rfl | ⟨front, c, rfl⟩
  · exact ⟨[], rfl, rfl⟩
  · rw [List.concat_eq_append, withoutBlankEnd_concat, List.flatten_append, List.flatten_singleton]
    split
    · rename_i hblank
      exact ⟨c, hblank, rfl⟩
    · refine ⟨[], rfl, ?_⟩
      rw [List.flatten_append, List.flatten_singleton, List.append_nil]

/-- A cut loses nothing but blanks between the line and what remains. -/
theorem exists_gap_cut {room : Int} {chunks : List (List Char)}
    {cut : List (List Char) × List (List Char)} (h : Cuts room chunks cut) :
    ∃ gap, allBlank gap = true ∧ chunks.flatten = cut.1.flatten ++ gap ++ cut.2.flatten := by
  cases h with
  | all =>
    obtain ⟨gap, hgap, hline⟩ := exists_gap_withoutBlankEnd chunks
    refine ⟨gap, hgap, ?_⟩
    rw [← hline]
    exact (List.append_nil _).symm
  | @between front c rest =>
    obtain ⟨gap, hgap, hline⟩ := exists_gap_withoutBlankEnd front
    refine ⟨gap, hgap, ?_⟩
    rw [← hline, List.flatten_append]
  | @inside front c rest hlong n hn =>
    obtain ⟨gap, hgap, hline⟩ := exists_gap_withoutBlankEnd (front ++ [c.take n])
    refine ⟨gap, hgap, ?_⟩
    rw [← hline]
    simp only [List.flatten_append, List.flatten_cons, List.flatten_nil, List.append_nil,
      List.append_assoc]
    rw [← List.append_assoc (c.take n), List.take_append_drop]

/-! ## All lines -/

/-- How a layout comes to its end: nothing is left, or nothing is left of a line, which is dropped, or there is
another line. -/
inductive Lays (m : Margins) : Bool → List (List Char) → List (List Char) → Prop where
  | done (started : Bool) : Lays m started [] []
  | skip {started : Bool} {chunks ls : List (List Char)} (hnone : (nextCut m started chunks).1 = [])
      (h : Lays m started (nextCut m started chunks).2 ls) : Lays m started chunks ls
  | line {started : Bool} {chunks ls : List (List Char)}
      (h : Lays m true (nextCut m started chunks).2 ls) :
      Lays m started chunks ((m.indent started ++ (nextCut m started chunks).1.flatten) :: ls)

theorem lays_of_layLines {m : Margins} {started : Bool} {chunks ls : List (List Char)}
    (h : layLines m started chunks = .ok ls) : Lays m started chunks ls := by
  induction hsize : remaining chunks using Nat.strongRecOn generalizing started chunks ls with
  | _ n ih =>
    subst hsize
    by_cases hne : chunks = []
    · subst hne
      rw [layLines_nil] at h
      obtain rfl := Except.ok.inj h
      exact .done started
    · by_cases hlt : remaining (nextCut m started chunks).2 < remaining chunks
      · rw [layLines_of_lt hlt] at h
        split at h
        · rename_i hnone
          exact .skip hnone (ih _ hlt h rfl)
        · cases hrest : layLines m true (nextCut m started chunks).2 with
          | error e =>
            rw [hrest] at h
            cases h
          | ok rest =>
            rw [hrest] at h
            obtain rfl := Except.ok.inj h
            exact .line (ih _ hlt hrest rfl)
      · rw [layLines_of_stuck hne (Nat.not_lt.mp hlt)] at h
        cases h

theorem exists_gap_nextCut (m : Margins) (started : Bool) (chunks : List (List Char)) :
    ∃ before gap, allBlank before = true ∧ allBlank gap = true ∧
      chunks.flatten =
        before ++ (nextCut m started chunks).1.flatten ++ gap ++ (nextCut m started chunks).2.flatten := by
  have hcut : Cuts (m.width - (m.indent started).length) (lineChunks started chunks)
      (nextCut m started chunks) := cuts_cutLine _ _
  obtain ⟨gap, hgap, hline⟩ := exists_gap_cut hcut
  cases started with
  | false => exact ⟨[], gap, rfl, hgap, hline⟩
  | true =>
    obtain ⟨before, hbefore, hchunks⟩ := exists_gap_dropBlankChunk chunks
    refine ⟨before, gap, hbefore, hgap, ?_⟩
    rw [hchunks, List.append_assoc, List.append_assoc, ← List.append_assoc _ gap]
    exact congrArg (before ++ ·) hline

theorem visible_nextCut (m : Margins) (started : Bool) (chunks : List (List Char)) :
    visible (nextCut m started chunks).1.flatten ++ visible (nextCut m started chunks).2.flatten =
      visible chunks.flatten := by
  obtain ⟨before, gap, hbefore, hgap, hchunks⟩ := exists_gap_nextCut m started chunks
  rw [hchunks, visible_append, visible_append, visible_append, visible_of_allBlank hbefore,
    visible_of_allBlank hgap, List.nil_append, List.append_nil]

/-- The indents are blank. -/
structure Margins.Blank (m : Margins) : Prop where
  first : allBlank m.firstIndent = true
  rest : allBlank m.restIndent = true

theorem Margins.Blank.visible_indent {m : Margins} (hm : m.Blank) (started : Bool) :
    visible (m.indent started) = [] := by
  cases started with
  | false => exact visible_of_allBlank hm.first
  | true => exact visible_of_allBlank hm.rest

theorem Lays.visible {m : Margins} (hm : m.Blank) {started : Bool} {chunks ls : List (List Char)}
    (h : Lays m started chunks ls) : visible ls.flatten = visible chunks.flatten := by
  induction h with
  | done => rfl
  | @skip started chunks ls hnone h ih =>
    rw [ih, ← visible_nextCut m started chunks, hnone]
    rfl
  | @line started chunks ls h ih =>
    rw [← visible_nextCut m started chunks, List.flatten_cons, visible_append, visible_append, ih,
      hm.visible_indent, List.nil_append]

theorem flatten_nextCut_subset (m : Margins) (started : Bool) (chunks : List (List Char)) :
    (nextCut m started chunks).1.flatten ⊆ chunks.flatten ∧
      (nextCut m started chunks).2.flatten ⊆ chunks.flatten := by
  obtain ⟨front, hfront⟩ := lineChunks_suffix started chunks
  have hline : (lineChunks started chunks).flatten ⊆ chunks.flatten := by
    have hwhole := congrArg List.flatten hfront
    rw [List.flatten_append] at hwhole
    rw [← hwhole]
    exact List.subset_append_right _ _
  have hcut : (nextCut m started chunks).1.flatten ⊆ (lineChunks started chunks).flatten ∧
      (nextCut m started chunks).2.flatten ⊆ (lineChunks started chunks).flatten :=
    flatten_cut_subset (cuts_cutLine _ _)
  exact ⟨List.Subset.trans hcut.1 hline, List.Subset.trans hcut.2 hline⟩

theorem Lays.lines {m : Margins} {started : Bool} {chunks ls : List (List Char)}
    (h : Lays m started chunks ls) :
    ∀ l ∈ ls, ∃ behind piece, l = m.indent behind ++ piece ∧ piece ⊆ chunks.flatten := by
  induction h with
  | done => exact nofun
  | @skip started chunks ls hnone h ih =>
    intro l hl
    obtain ⟨behind, piece, hline, hpiece⟩ := ih l hl
    exact ⟨behind, piece, hline, List.Subset.trans hpiece (flatten_nextCut_subset m started chunks).2⟩
  | @line started chunks ls h ih =>
    have hcut := flatten_nextCut_subset m started chunks
    refine List.forall_mem_cons.mpr ⟨⟨started, _, rfl, hcut.1⟩, fun l hl => ?_⟩
    obtain ⟨behind, piece, hline, hpiece⟩ := ih l hl
    exact ⟨behind, piece, hline, List.Subset.trans hpiece hcut.2⟩

/-! ## Texts -/

theorem visible_expandTabs (column : Nat) (cs : List Char) : visible (expandTabs column cs) = visible cs := by
  induction cs generalizing column with
  | nil => rfl
  | cons c rest ih =>
    rw [expandTabs]
    split
    · rename_i htab
      subst htab
      rw [visible_append, visible_of_allBlank (allBlank_replicate_space _), ih]
      rfl
    · rw [visible_cons, visible_cons, ih]

theorem visible_plainSpaces (cs : List Char) : visible (plainSpaces cs) = visible cs := by
  have hmap (ds : List Char) :
      visible (ds.map fun c => if isSpace c then ' ' else c) = visible ds := by
    induction ds with
    | nil => rfl
    | cons c rest ih =>
      rw [List.map_cons]
      split
      · rename_i hspace
        rw [visible_cons, visible_cons, if_pos isBlank_space, if_pos (isBlank_of_isSpace hspace), ih]
      · rw [visible_cons, visible_cons, ih]
  rw [plainSpaces, hmap, visible_expandTabs]

/-- Plain spaces are the only ones of their kind. -/
theorem not_isSpace_of_mem_plainSpaces {cs : List Char} {x : Char} (h : x ∈ plainSpaces cs)
    (hne : x ≠ ' ') : isSpace x = false := by
  obtain ⟨y, -, rfl⟩ := List.mem_map.mp h
  split at hne
  · exact absurd rfl hne
  · rename_i hspace
    rw [if_neg hspace]
    exact Bool.eq_false_iff.mpr hspace

theorem lays_of_wrapChars {m : Margins} {cs : List Char} {ls : List (List Char)}
    (h : wrapChars m cs = .ok ls) : Lays m false (chunks (plainSpaces cs)) ls := by
  rw [wrapChars] at h
  split at h
  · cases h
  · exact lays_of_layLines h

/-- Wrapping keeps what is to be seen of a text, in its order. -/
theorem visible_wrapChars {m : Margins} (hm : m.Blank) {cs : List Char} {ls : List (List Char)}
    (h : wrapChars m cs = .ok ls) : visible ls.flatten = visible cs := by
  rw [(lays_of_wrapChars h).visible hm, flatten_chunks, visible_plainSpaces]

/-- Each line is an indent and characters of the text, which has its spaces written plainly. -/
theorem lines_wrapChars {m : Margins} {cs : List Char} {ls : List (List Char)}
    (h : wrapChars m cs = .ok ls) :
    ∀ l ∈ ls, ∃ behind piece, l = m.indent behind ++ piece ∧ piece ⊆ plainSpaces cs := by
  have hlines := (lays_of_wrapChars h).lines
  rwa [flatten_chunks] at hlines

/-! ## Pieces of a text -/

/-- Cutting a text at blank characters loses nothing that is to be seen. -/
theorem visible_splitAtChar {sep : Char} (hsep : isBlank sep = true) (cs : List Char) :
    visible (splitAtChar sep cs).flatten = visible cs := by
  induction cs with
  | nil => rfl
  | cons c rest ih =>
    have hkeep : visible (c :: (splitAtChar sep rest).flatten) = visible (c :: rest) := by
      rw [visible_cons, visible_cons, ih]
    rw [splitAtChar]
    split
    · rename_i hc
      subst hc
      rw [List.flatten_cons, List.nil_append, ih, visible_cons, if_pos hsep]
    · split
      · rename_i hnil
        rw [hnil] at hkeep
        exact hkeep
      · rename_i hpieces
        rw [hpieces] at hkeep
        exact hkeep

/-- No piece holds what the text was cut at. -/
theorem not_mem_of_mem_splitAtChar {sep : Char} {cs p : List Char} (hp : p ∈ splitAtChar sep cs) :
    sep ∉ p := by
  induction cs generalizing p with
  | nil =>
    rw [splitAtChar, List.mem_singleton] at hp
    subst hp
    exact List.not_mem_nil
  | cons c rest ih =>
    rw [splitAtChar] at hp
    split at hp
    · rcases List.mem_cons.mp hp with rfl | hp
      · exact List.not_mem_nil
      · exact ih hp
    · rename_i hc
      split at hp
      · rename_i hnil
        exact absurd hnil (splitAtChar_ne_nil sep rest)
      · rename_i q qs hpieces
        rcases List.mem_cons.mp hp with rfl | hp
        · refine List.not_mem_cons_of_ne_of_not_mem (Ne.symm hc) (ih ?_)
          rw [hpieces]
          exact List.mem_cons_self
        · refine ih ?_
          rw [hpieces]
          exact List.mem_cons_of_mem q hp

end BuildScript.Text
