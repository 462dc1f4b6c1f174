import BuildScript.Proofs.Text.Visible

/-!
Texts that are not broken over lines. What a text of one line at most is wrapped to is the text without blanks around
it, its spaces written plainly (`between_of_wrapChars`). A text that has no other blanks than spaces inside is that line
itself (`Plain.eq_of_between`), and a description that is made of words is such a text (`plain_collapse`). No text is
broken over lines that are as long as it (`exists_wrapChars_of_le`).
-/

namespace BuildScript.Text

/-! ## One line at most -/

/-- The line is what stands between blanks in the text, which has its spaces written plainly. -/
def Between (cs l : List Char) : Prop :=
  ∃ before after, allBlank before = true ∧ allBlank after = true ∧
    plainSpaces cs = before ++ l ++ after

theorem Lays.between {m : Margins} (hm : m.Blank) (hfirst : m.firstIndent = [])
    {chunks ls : List (List Char)} (h : Lays m false chunks ls) (hone : ls.length ≤ 1) :
    ∃ before after, allBlank before = true ∧ allBlank after = true ∧
      chunks.flatten = before ++ ls.flatten ++ after := by
  generalize hstarted : false = started at h
  induction h with
  | done => exact ⟨[], [], rfl, rfl, rfl⟩
  | @skip started chunks ls hnone h ih =>
    obtain ⟨before, gap, hbefore, hgap, hchunks⟩ := exists_gap_nextCut m started chunks
    obtain ⟨front, after, hfront, hafter, hrest⟩ := ih hone hstarted
    refine ⟨before ++ gap ++ front, after, ?_, hafter, ?_⟩
    · exact allBlank_append (allBlank_append hbefore hgap) hfront
    · rw [hchunks, hnone, hrest]
      simp only [List.flatten_nil, List.append_nil, List.append_assoc]
  | @line started chunks ls h ih =>
    obtain ⟨before, gap, hbefore, hgap, hchunks⟩ := exists_gap_nextCut m started chunks
    -- behind the one line nothing is left that is to be seen
    have hnil : ls = [] := List.length_eq_zero_iff.mp (by rw [List.length_cons] at hone; omega)
    subst hnil
    have hrest := allBlank_of_visible (h.visible hm).symm
    refine ⟨before, gap ++ (nextCut m started chunks).2.flatten, hbefore,
      allBlank_append hgap hrest, ?_⟩
    have hindent : m.indent started = [] := by rw [← hstarted]; exact hfirst
    rw [List.flatten_singleton, hindent, List.nil_append, ← List.append_assoc]
    exact hchunks

/-- What takes one line at most is put on it without the blanks around it. -/
theorem between_of_wrapChars {m : Margins} (hm : m.Blank) (hfirst : m.firstIndent = []) {cs : List Char}
    {ls : List (List Char)} (h : wrapChars m cs = .ok ls) (hone : ls.length ≤ 1) :
    Between cs ls.flatten := by
  have hlays := (lays_of_wrapChars h).between hm hfirst hone
  rwa [flatten_chunks] at hlays

/-! ## Plain texts -/

/-- The blanks are all spaces. -/
def Spaced (cs : List Char) : Prop := ∀ c ∈ cs, isBlank c = true → c = ' '

-- decided along the list: there is also an instance that goes through all characters
instance : DecidablePred Spaced := List.decidableBAll fun c => isBlank c = true → c = ' '

theorem spaced_append {a b : List Char} (ha : Spaced a) (hb : Spaced b) : Spaced (a ++ b) := fun c hc =>
  (List.mem_append.mp hc).elim (ha c) (hb c)

theorem spaced_intercalate {sep : List Char} {xs : List (List Char)} (hsep : Spaced sep)
    (h : ∀ x ∈ xs, Spaced x) : Spaced (sep.intercalate xs) := by
  induction xs with
  | nil => exact List.forall_mem_nil _
  | cons x xs ih =>
    obtain ⟨hx, hxs⟩ := List.forall_mem_cons.mp h
    cases xs with
    | nil =>
      rw [List.intercalate_singleton]
      exact hx
    | cons y xs =>
      rw [List.intercalate_cons_cons]
      exact spaced_append (spaced_append hx hsep) (ih hxs)

/-- A text with no blanks but spaces inside. -/
structure Plain (cs : List Char) : Prop where
  ne_nil : cs ≠ []
  spaced : Spaced cs
  first : ∀ c ∈ cs.head?, isBlank c = false
  last : ∀ c ∈ cs.getLast?, isBlank c = false

theorem expandTabs_of_not_mem {cs : List Char} (h : '\t' ∉ cs) (column : Nat) :
    expandTabs column cs = cs := by
  induction cs generalizing column with
  | nil => rfl
  | cons c rest ih =>
    obtain ⟨hc, hrest⟩ := not_or.mp (mt List.mem_cons.mpr h)
    rw [expandTabs, if_neg (Ne.symm hc), ih hrest]

theorem plainSpaces_of_spaced {cs : List Char} (h : Spaced cs) : plainSpaces cs = cs := by
  have htab : '\t' ∉ cs := fun hmem => absurd (h '\t' hmem (by decide)) (by decide)
  rw [plainSpaces, expandTabs_of_not_mem htab]
  refine (List.map_congr_left fun c hc => ?_).trans (List.map_id cs)
  split
  · rename_i hspace
    exact (h c hc (isBlank_of_isSpace hspace)).symm
  · rfl

/-- Line breaks are blanks. -/
theorem isBlank_of_isLineBreak {c : Char} (h : isLineBreak c = true) : isBlank c = true := by
  obtain ⟨r, hr, hlow, hhigh⟩ := Ranges.contains_iff.mp h
  simp only [lineBreakRanges, List.mem_cons, List.not_mem_nil, or_false] at hr
  rcases hr with rfl | rfl | rfl | rfl
  · exact Ranges.contains_iff.mpr ⟨(9, 13), by decide, by omega, hhigh⟩
  · exact Ranges.contains_iff.mpr ⟨(28, 32), by decide, hlow, by omega⟩
  · exact Ranges.contains_iff.mpr ⟨(133, 133), by decide, hlow, hhigh⟩
  · exact Ranges.contains_iff.mpr ⟨(8232, 8233), by decide, hlow, hhigh⟩

/-- Nothing but a plain text stands between blanks in it. -/
theorem Plain.eq_of_between {cs l : List Char} (h : Plain cs) (hl : Between cs l) : l = cs := by
  obtain ⟨before, after, hbefore, hafter, hcs⟩ := hl
  rw [plainSpaces_of_spaced h.spaced] at hcs
  have hfront : before = [] := by
    cases before with
    | nil => rfl
    | cons c rest =>
      have hc := h.first c (by rw [hcs]; rfl)
      rw [List.all_eq_true.mp hbefore c List.mem_cons_self] at hc
      cases hc
  have hback : after = [] := by
    rcases after.eq_nil_or_concat with rfl | ⟨rest, c, rfl⟩
    · rfl
    · rw [List.concat_eq_append] at hcs hafter
      have hc := h.last c (by rw [hcs, ← List.append_assoc, List.getLast?_concat]; rfl)
      rw [List.all_eq_true.mp hafter c (by simp)] at hc
      cases hc
  rw [hcs, hfront, hback, List.nil_append, List.append_nil]

/-! ## Words -/

/-- A word is not empty and holds no blank. -/
def IsWord (w : List Char) : Prop := w ≠ [] ∧ ∀ c ∈ w, isBlank c = false

instance : DecidablePred IsWord := fun w => @instDecidableAnd _ _ _ (List.decidableBAll (isBlank · = false) w)

theorem isBlank_of_isGraphic {c : Char} (hfirst : '!' ≤ c) (hlast : c ≤ '~') : isBlank c = false := by
  have hlow : 33 ≤ c.toNat := hfirst
  have hhigh : c.toNat ≤ 126 := hlast
  rw [← Bool.not_eq_true]
  intro hblank
  obtain ⟨r, hr, hfrom, hto⟩ := Ranges.contains_iff.mp hblank
  simp only [blankRanges, List.mem_cons, List.not_mem_nil, or_false] at hr
  rcases hr with rfl | rfl | rfl | rfl | rfl | rfl | rfl | rfl | rfl | rfl <;> omega

theorem isWord_of_mem_words {cs : List Char} : ∀ w ∈ words cs, IsWord w := by
  fun_induction words cs with
  | case1 => exact List.forall_mem_nil _
  | case2 c rest hblank ih => exact ih
  | case3 c hblank =>
    refine List.forall_mem_cons.mpr ⟨⟨List.cons_ne_nil c [], ?_⟩, List.forall_mem_nil _⟩
    simpa using hblank
  | case4 c hblank d rest hnext ih =>
    refine List.forall_mem_cons.mpr ⟨⟨List.cons_ne_nil c [], ?_⟩, ih⟩
    simpa using hblank
  | case5 c hblank d rest hnext hnil ih =>
    rw [hnil]
    refine List.forall_mem_cons.mpr ⟨⟨List.cons_ne_nil c [], ?_⟩, List.forall_mem_nil _⟩
    simpa using hblank
  | case6 c hblank d rest hnext w ws hcons ih =>
    rw [hcons] at ih ⊢
    obtain ⟨⟨-, hw⟩, hws⟩ := List.forall_mem_cons.mp ih
    refine List.forall_mem_cons.mpr ⟨⟨List.cons_ne_nil c w, ?_⟩, hws⟩
    exact List.forall_mem_cons.mpr ⟨by simpa using hblank, hw⟩

theorem plain_of_isWord {w : List Char} (h : IsWord w) : Plain w where
  ne_nil := h.1
  spaced c hc hblank := by
    rw [h.2 c hc] at hblank
    cases hblank
  first c hc := h.2 c (List.mem_of_mem_head? hc)
  last c hc := h.2 c (List.mem_of_getLast? hc)

theorem IsWord.spaced {w : List Char} (h : IsWord w) : Spaced w := (plain_of_isWord h).spaced

/-- With spaces between them, plain texts make up a plain text. -/
theorem Plain.append {a between b : List Char} (ha : Plain a) (hbetween : Spaced between) (hb : Plain b) :
    Plain (a ++ between ++ b) where
  ne_nil h := ha.ne_nil (List.append_eq_nil_iff.mp (List.append_eq_nil_iff.mp h).1).1
  spaced := spaced_append (spaced_append ha.spaced hbetween) hb.spaced
  first c hc := by
    obtain ⟨x, rest, rfl⟩ := List.exists_cons_of_ne_nil ha.ne_nil
    exact ha.first c hc
  last c hc := by
    rw [List.getLast?_append, List.getLast?_eq_some_getLast hb.ne_nil, Option.some_or,
      ← List.getLast?_eq_some_getLast hb.ne_nil] at hc
    exact hb.last c hc

theorem plain_intercalate {ws : List (List Char)} (hne : ws ≠ []) (h : ∀ w ∈ ws, IsWord w) :
    Plain ([' '].intercalate ws) := by
  have hspace : Spaced [' '] := fun c hc _ => List.mem_singleton.mp hc
  induction ws with
  | nil => exact absurd rfl hne
  | cons w ws ih =>
    obtain ⟨hw, hws⟩ := List.forall_mem_cons.mp h
    cases ws with
    | nil =>
      rw [List.intercalate_singleton]
      exact plain_of_isWord hw
    | cons w' ws =>
      rw [List.intercalate_cons_cons]
      exact (plain_of_isWord hw).append hspace (ih (List.cons_ne_nil w' ws) hws)

/-- The words of a text with one space between them make up a plain text, if there are any. -/
theorem plain_collapse {s : String} (hne : collapse s ≠ "") : Plain (collapse s).toList := by
  have hlist : (collapse s).toList = [' '].intercalate (words s.toList) := by
    rw [collapse, String.toList_intercalate, List.map_map]
    congr 1
    exact (List.map_congr_left fun w _ => String.toList_ofList).trans (List.map_id _)
  rw [hlist]
  refine plain_intercalate (fun hnil => hne ?_) isWord_of_mem_words
  rw [collapse, hnil]
  rfl

/-! ## Long lines -/

theorem fit_of_le {room : Int} {used : Nat} {chunks : List (List Char)}
    (h : (used + chunks.flatten.length : Int) ≤ room) : fit room used chunks = (chunks, []) := by
  induction chunks generalizing used with
  | nil => rfl
  | cons c rest ih =>
    rw [List.flatten_cons, List.length_append] at h
    rw [fit, if_pos (by omega), ih (by omega)]

theorem nextCut_of_le {m : Margins} {chunks : List (List Char)} (hfirst : m.firstIndent = [])
    (h : (chunks.flatten.length : Int) ≤ m.width) :
    nextCut m false chunks = (withoutBlankEnd chunks, []) := by
  have hindent : m.indent false = [] := hfirst
  have hfit : fit (m.width - (m.indent false).length) 0 chunks = (chunks, []) :=
    fit_of_le (by rw [hindent, List.length_nil]; omega)
  unfold nextCut cutLine lineChunks
  rw [if_neg Bool.false_ne_true, hfit]
  rfl

/-- A text takes one line at most if the lines are as long as it. -/
theorem exists_wrapChars_of_le {m : Margins} (hwidth : 0 < m.width) (hfirst : m.firstIndent = [])
    {cs : List Char} (h : ((plainSpaces cs).length : Int) ≤ m.width) :
    ∃ ls, wrapChars m cs = .ok ls ∧ ls.length ≤ 1 := by
  rw [wrapChars, if_neg (Int.not_le.mpr hwidth)]
  by_cases hnil : chunks (plainSpaces cs) = []
  · rw [hnil, layLines_nil]
    exact ⟨[], rfl, Nat.zero_le 1⟩
  · have hcut : nextCut m false (chunks (plainSpaces cs)) = (withoutBlankEnd (chunks (plainSpaces cs)), []) :=
      nextCut_of_le hfirst (by rwa [flatten_chunks])
    have hlt : remaining (nextCut m false (chunks (plainSpaces cs))).2 <
        remaining (chunks (plainSpaces cs)) := by
      rw [hcut]
      exact remaining_pos hnil
    rw [layLines_of_lt hlt, hcut]
    dsimp only
    rw [layLines_nil, layLines_nil]
    split
    · exact ⟨[], rfl, Nat.zero_le 1⟩
    · exact ⟨_, rfl, Nat.le_refl 1⟩

end BuildScript.Text
