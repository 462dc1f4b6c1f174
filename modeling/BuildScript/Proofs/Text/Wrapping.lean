import BuildScript.Text.Paragraph

/-!
Wrapping in lines of a positive width. It fails in one case only (`wrapChars_eq_error_iff`): the indent of the
first line leaves less than no room, and the text opens with a blank word, which is taken off letter by letter
until nothing but an empty chunk is left, which no line takes. Where the first line is not indented, no
line is empty, and each character of a line is one of the text or its indent (`exists_wrapChars`).

The cut of one line is told by `Cuts`; each fact about it is a case analysis, and `exists_layLines` carries
such facts over all lines.
-/

namespace BuildScript.Text

/-! ## One line -/

/-- A line's chunks without a blank one at the end. -/
def withoutBlankEnd (line : List (List Char)) : List (List Char) := (dropBlankChunk line.reverse).reverse

/-- The cut of a line: all chunks go onto it, or those in front of a chunk that has a line to itself, or
those in front of a chunk too long for any line with some of its characters. -/
inductive Cuts (room : Int) : List (List Char) → List (List Char) × List (List Char) → Prop where
  | all (chunks : List (List Char)) : Cuts room chunks (withoutBlankEnd chunks, [])
  | between {front : List (List Char)} {c : List Char} {rest : List (List Char)} (hne : front ≠ [])
      (hfit : (c.length : Int) ≤ room) :
      Cuts room (front ++ c :: rest) (withoutBlankEnd front, c :: rest)
  | inside {front : List (List Char)} {c : List Char} {rest : List (List Char)}
      (hlong : room < c.length) (n : Nat) (hn : n = cutPosition (roomLeft room front.flatten.length) c) :
      Cuts room (front ++ c :: rest) (withoutBlankEnd (front ++ [c.take n]), c.drop n :: rest)

theorem fit_append (room : Int) (used : Nat) (chunks : List (List Char)) :
    (fit room used chunks).1 ++ (fit room used chunks).2 = chunks := by
  induction chunks generalizing used with
  | nil => rfl
  | cons c rest ih =>
    rw [fit]
    split
    · exact congrArg (c :: ·) (ih _)
    · rfl

/-- A chunk that could stand on an empty line is taken by it. -/
theorem fit_ne_nil {room : Int} {c : List Char} (h : (c.length : Int) ≤ room)
    (rest : List (List Char)) : (fit room 0 (c :: rest)).1 ≠ [] := by
  rw [fit, if_pos (by omega)]
  exact List.cons_ne_nil _ _

theorem cuts_cutLine (room : Int) (chunks : List (List Char)) :
    Cuts room chunks (cutLine room chunks) := by
  have happend := fit_append room 0 chunks
  unfold cutLine
  generalize hfit : fit room 0 chunks = fitting at happend
  obtain ⟨front, back⟩ := fitting
  cases back with
  | nil =>
    rw [List.append_nil] at happend
    subst happend
    exact .all front
  | cons c rest =>
    subst happend
    dsimp only
    split
    · rename_i hlong
      exact .inside hlong _ rfl
    · rename_i hlong
      refine .between (fun hnil => ?_) (Int.not_lt.mp hlong)
      subst hnil
      exact fit_ne_nil (Int.not_lt.mp hlong) rest (congrArg Prod.fst hfit)

theorem remaining_append (a b : List (List Char)) :
    remaining (a ++ b) = remaining a + remaining b := by
  induction a with
  | nil => simp [remaining]
  | cons c a ih => simp only [List.cons_append, remaining, ih]; omega

theorem remaining_pos {chunks : List (List Char)} (h : chunks ≠ []) : 0 < remaining chunks := by
  obtain ⟨c, rest, rfl⟩ := List.exists_cons_of_ne_nil h
  rw [remaining]
  omega

theorem roomLeft_pos (room : Int) : 0 < roomLeft room 0 := by
  unfold roomLeft
  split <;> omega

/-- A chunk that is cut where there is room is cut behind a character. -/
theorem cutPosition_pos {left : Nat} (h : 0 < left) (chunk : List Char) :
    0 < cutPosition left chunk := by
  unfold cutPosition
  split
  · dsimp only
    split
    · rename_i hany
      -- a hyphen with something in front of it is no first character
      refine List.length_pos_iff.mpr fun hnil => ?_
      rw [hnil] at hany
      cases hany
    · exact h
  · exact h

theorem cutPosition_le (left : Nat) (chunk : List Char) : cutPosition left chunk ≤ left := by
  unfold cutPosition
  split
  · dsimp only
    split
    · have hdrop := (List.dropWhile_sublist (l := (chunk.take left).reverse) (· ≠ '-')).length_le
      have htake := List.length_take_le left chunk
      rw [List.length_reverse] at hdrop
      omega
    · exact Nat.le_refl _
  · exact Nat.le_refl _

/-- A line takes something off what is left, if the room is not less than none or no chunk is empty. -/
theorem remaining_cutLine_lt {room : Int} {chunks : List (List Char)} (hne : chunks ≠ [])
    (h : 0 ≤ room ∨ ∀ c ∈ chunks, c ≠ []) :
    remaining (cutLine room chunks).2 < remaining chunks := by
  have hcuts := cuts_cutLine room chunks
  generalize cutLine room chunks = cut at hcuts
  cases hcuts with
  | all => exact remaining_pos hne
  | between hfront =>
    have hpos := remaining_pos hfront
    rw [remaining_append]
    dsimp only
    omega
  | @inside front c rest hlong n hn =>
    simp only [remaining_append, remaining, List.length_drop]
    by_cases hfront : front = []
    · subst hfront
      have hpos : 0 < n := hn ▸ cutPosition_pos (roomLeft_pos room) c
      have hc : 0 < c.length := by
        rcases h with h | h
        · omega
        · exact List.length_pos_iff.mpr (h c (by simp))
      omega
    · have hpos := remaining_pos hfront
      omega

theorem dropBlankChunk_suffix (chunks : List (List Char)) : dropBlankChunk chunks <:+ chunks := by
  cases chunks with
  | nil => exact List.suffix_rfl
  | cons c rest =>
    rw [dropBlankChunk]
    split
    · exact List.suffix_cons c rest
    · exact List.suffix_rfl

theorem prefix_withoutBlankEnd (line : List (List Char)) : withoutBlankEnd line <+: line := by
  have hreverse := List.reverse_prefix.mpr (dropBlankChunk_suffix line.reverse)
  rwa [List.reverse_reverse] at hreverse

theorem mem_withoutBlankEnd {line : List (List Char)} {c : List Char}
    (h : c ∈ withoutBlankEnd line) : c ∈ line :=
  (prefix_withoutBlankEnd line).subset h

/-- A piece of nothing at the end of a line is dropped. -/
theorem withoutBlankEnd_concat_nil (front : List (List Char)) :
    withoutBlankEnd (front ++ [[]]) = front := by
  simp [withoutBlankEnd, dropBlankChunk, allBlank]

/-- A cut makes up no characters. -/
theorem flatten_cut_subset {room : Int} {chunks : List (List Char)}
    {cut : List (List Char) × List (List Char)} (h : Cuts room chunks cut) :
    cut.1.flatten ⊆ chunks.flatten ∧ cut.2.flatten ⊆ chunks.flatten := by
  have hend (line : List (List Char)) : (withoutBlankEnd line).flatten ⊆ line.flatten := by
    intro x hx
    obtain ⟨c, hc, hxc⟩ := List.mem_flatten.mp hx
    exact List.mem_flatten_of_mem (mem_withoutBlankEnd hc) hxc
  cases h with
  | all => exact ⟨hend chunks, List.nil_subset _⟩
  | between =>
    rw [List.flatten_append]
    exact ⟨List.Subset.trans (hend _) (List.subset_append_left _ _), List.subset_append_right _ _⟩
  | @inside front c rest hlong n hn =>
    refine ⟨List.Subset.trans (hend _) ?_, ?_⟩
    · intro x hx
      simp only [List.flatten_append, List.flatten_cons, List.mem_append] at hx ⊢
      rcases hx with hx | hx | hx
      · exact .inl hx
      · exact .inr (.inl (List.mem_of_mem_take hx))
      · cases hx
    · intro x hx
      simp only [List.flatten_append, List.flatten_cons, List.mem_append] at hx ⊢
      exact .inr (hx.imp List.mem_of_mem_drop id)

/-- No piece of a line is empty if no chunk is. -/
theorem ne_nil_of_mem_cut {room : Int} {chunks : List (List Char)}
    {cut : List (List Char) × List (List Char)} (h : Cuts room chunks cut)
    (hne : ∀ c ∈ chunks, c ≠ []) : ∀ piece ∈ cut.1, piece ≠ [] := by
  intro piece hpiece
  cases h with
  | all => exact hne piece (mem_withoutBlankEnd hpiece)
  | between => exact hne piece (List.mem_append_left _ (mem_withoutBlankEnd hpiece))
  | @inside front c rest hlong n hn =>
    have hfront : ∀ d ∈ front, d ≠ [] := fun d hd => hne d (List.mem_append_left _ hd)
    by_cases htake : c.take n = []
    · rw [htake, withoutBlankEnd_concat_nil] at hpiece
      exact hfront piece hpiece
    · rcases List.mem_append.mp (mem_withoutBlankEnd hpiece) with hmem | hmem
      · exact hfront piece hmem
      · rwa [List.mem_singleton.mp hmem]

/-- Of the chunks that remain only the first can be empty. -/
theorem ne_nil_of_mem_tail_cut {room : Int} {chunks : List (List Char)}
    {cut : List (List Char) × List (List Char)} (h : Cuts room chunks cut)
    (hne : ∀ c ∈ chunks.tail, c ≠ []) : ∀ c ∈ cut.2.tail, c ≠ [] := by
  have hback {front : List (List Char)} {c : List Char} {rest : List (List Char)} :
      (∀ d ∈ (front ++ c :: rest).tail, d ≠ []) → ∀ d ∈ rest, d ≠ [] := by
    intro hall d hd
    refine hall d ?_
    cases front with
    | nil => exact hd
    | cons _ front => simp [hd]
  cases h with
  | all => exact nofun
  | between => exact hback hne
  | inside => exact hback hne

/-- Where there is room, not even the first is. -/
theorem ne_nil_of_mem_back_cut {room : Int} (hroom : 0 < room) {chunks : List (List Char)}
    {cut : List (List Char) × List (List Char)} (h : Cuts room chunks cut)
    (hne : ∀ c ∈ chunks, c ≠ []) : ∀ c ∈ cut.2, c ≠ [] := by
  cases h with
  | all => exact nofun
  | between => exact fun c hc => hne c (List.mem_append_right _ hc)
  | @inside front c rest hlong n hn =>
    have hleft : roomLeft room front.flatten.length < c.length := by
      unfold roomLeft
      rw [if_neg (by omega)]
      omega
    have hle := cutPosition_le (roomLeft room front.flatten.length) c
    refine List.forall_mem_cons.mpr ⟨List.ne_nil_of_length_pos ?_, fun d hd => hne d (by simp [hd])⟩
    rw [List.length_drop]
    omega

/-! ## All lines -/

/-- The indent of a line. -/
def Margins.indent (m : Margins) (started : Bool) : List Char :=
  if started then m.restIndent else m.firstIndent

/-- The chunks that a line starts from. -/
def lineChunks (started : Bool) (chunks : List (List Char)) : List (List Char) :=
  if started then dropBlankChunk chunks else chunks

/-- The cut of the next line. -/
def nextCut (m : Margins) (started : Bool) (chunks : List (List Char)) :
    List (List Char) × List (List Char) :=
  cutLine (m.width - (m.indent started).length) (lineChunks started chunks)

theorem layLines_nil (m : Margins) (started : Bool) : layLines m started [] = .ok [] := by
  rw [layLines]
  rfl

theorem layLines_of_stuck {m : Margins} {started : Bool} {chunks : List (List Char)}
    (hne : chunks ≠ []) (h : remaining chunks ≤ remaining (nextCut m started chunks).2) :
    layLines m started chunks = .error .unending := by
  rw [layLines, if_neg (by simpa using hne)]
  exact dif_neg (Nat.not_lt.mpr h)

theorem layLines_of_lt {m : Margins} {started : Bool} {chunks : List (List Char)}
    (h : remaining (nextCut m started chunks).2 < remaining chunks) :
    layLines m started chunks =
      if (nextCut m started chunks).1 = [] then layLines m started (nextCut m started chunks).2
      else (layLines m true (nextCut m started chunks).2).map
        ((m.indent started ++ (nextCut m started chunks).1.flatten) :: ·) := by
  have hne : chunks ≠ [] := by
    rintro rfl
    exact Nat.not_lt_zero _ h
  rw [layLines, if_neg (by simpa using hne)]
  refine (dif_pos h).trans ?_
  simp only [List.isEmpty_iff]
  rfl

/-- What the cut of each line keeps up holds until all is laid out, if each cut takes something off. -/
theorem exists_layLines {m : Margins} {Keeps : Bool → List (List Char) → Prop}
    {Good : List Char → Prop}
    (hstep : ∀ started chunks, chunks ≠ [] → Keeps started chunks →
      remaining (nextCut m started chunks).2 < remaining chunks ∧
      ((nextCut m started chunks).1 = [] → Keeps started (nextCut m started chunks).2) ∧
      ((nextCut m started chunks).1 ≠ [] → Keeps true (nextCut m started chunks).2 ∧
        Good (m.indent started ++ (nextCut m started chunks).1.flatten)))
    {started : Bool} {chunks : List (List Char)} (h : Keeps started chunks) :
    ∃ ls, layLines m started chunks = .ok ls ∧ ∀ l ∈ ls, Good l := by
  induction hsize : remaining chunks using Nat.strongRecOn generalizing started chunks with
  | _ n ih =>
    subst hsize
    by_cases hne : chunks = []
    · subst hne
      exact ⟨[], layLines_nil m started, nofun⟩
    · obtain ⟨hlt, hempty, hline⟩ := hstep started chunks hne h
      rw [layLines_of_lt hlt]
      split
      · rename_i hnil
        exact ih _ hlt (hempty hnil) rfl
      · rename_i hnil
        obtain ⟨hkeeps, hgood⟩ := hline hnil
        obtain ⟨ls, hls, hall⟩ := ih _ hlt hkeeps rfl
        rw [hls]
        exact ⟨_, rfl, List.forall_mem_cons.mpr ⟨hgood, hall⟩⟩

theorem ne_nil_of_mem_lineChunks {chunks : List (List Char)} (hne : ∀ c ∈ chunks.tail, c ≠ []) :
    ∀ c ∈ lineChunks true chunks, c ≠ [] := by
  cases chunks with
  | nil => exact nofun
  | cons c rest =>
    rw [lineChunks, if_pos rfl, dropBlankChunk]
    split
    · exact hne
    · rename_i hblank
      refine List.forall_mem_cons.mpr ⟨?_, hne⟩
      rintro rfl
      exact hblank rfl

theorem lineChunks_suffix (started : Bool) (chunks : List (List Char)) :
    lineChunks started chunks <:+ chunks := by
  unfold lineChunks
  split
  · exact dropBlankChunk_suffix chunks
  · exact List.suffix_rfl

/-- Each line takes something off what is left: a line behind the first starts from a chunk that is not
empty, and the first line needs such a chunk only where its indent leaves less than no room. -/
theorem remaining_nextCut_lt {m : Margins} {started : Bool} {chunks : List (List Char)}
    (hne : chunks ≠ []) (htail : ∀ c ∈ chunks.tail, c ≠ [])
    (hroom : started = false → (m.firstIndent.length : Int) ≤ m.width) :
    remaining (nextCut m started chunks).2 < remaining chunks := by
  cases started with
  | false =>
    have hle := hroom rfl
    refine remaining_cutLine_lt hne (.inl ?_)
    rw [Margins.indent, if_neg Bool.false_ne_true]
    omega
  | true =>
    by_cases hnil : lineChunks true chunks = []
    · rw [nextCut, hnil]
      exact remaining_pos hne
    · exact Nat.lt_of_lt_of_le (remaining_cutLine_lt hnil (.inr (ne_nil_of_mem_lineChunks htail)))
        (remaining_dropBlankChunk_le chunks)

theorem ne_nil_of_mem_tail_nextCut (m : Margins) (started : Bool) {chunks : List (List Char)}
    (htail : ∀ c ∈ chunks.tail, c ≠ []) : ∀ c ∈ (nextCut m started chunks).2.tail, c ≠ [] := by
  refine ne_nil_of_mem_tail_cut (cuts_cutLine _ _) fun c hc => htail c ?_
  obtain ⟨front, hfront⟩ := lineChunks_suffix started chunks
  rw [← hfront]
  cases front with
  | nil => exact hc
  | cons _ front => exact List.mem_append_right front (List.mem_of_mem_tail hc)

/-- What holds before each line if it does before the first: only the first chunk may be empty, and there is
room for nothing on the first line. -/
structure HasRoom (m : Margins) (started : Bool) (chunks : List (List Char)) : Prop where
  tail : ∀ c ∈ chunks.tail, c ≠ []
  room : started = false → (m.firstIndent.length : Int) ≤ m.width

/-- Where there is room there is a layout. Behind the first line there always is. -/
theorem exists_layLines_of_room {m : Margins} {started : Bool} {chunks : List (List Char)}
    (h : HasRoom m started chunks) : ∃ ls, layLines m started chunks = .ok ls := by
  have hlaid : ∃ ls, layLines m started chunks = .ok ls ∧ ∀ l ∈ ls, True := by
    refine exists_layLines (fun started chunks hne hroom => ?_) h
    have hback := ne_nil_of_mem_tail_nextCut m started hroom.tail
    exact ⟨remaining_nextCut_lt hne hroom.tail hroom.room, fun _ => ⟨hback, hroom.room⟩,
      fun _ => ⟨⟨hback, nofun⟩, trivial⟩⟩
  exact hlaid.imp fun _ hls => hls.1

/-! ## A first line without room -/

/-- With less than no room a line takes one character of the first chunk. -/
theorem cutLine_of_neg {room : Int} (hroom : room < 0) (c : List Char) (rest : List (List Char)) :
    cutLine room (c :: rest) = (withoutBlankEnd [c.take 1], c.drop 1 :: rest) := by
  have hlong : ¬ ((0 + c.length : Nat) : Int) ≤ room := by omega
  have hfit : fit room 0 (c :: rest) = ([], c :: rest) := by
    rw [fit, if_neg (by omega)]
  have hone : cutPosition (roomLeft room 0) c = 1 := by
    have hleft : roomLeft room 0 = 1 := if_pos (by omega)
    have hpos := cutPosition_pos (roomLeft_pos room) c
    have hle := cutPosition_le (roomLeft room 0) c
    omega
  unfold cutLine
  rw [hfit]
  dsimp only
  rw [if_pos (by omega), List.flatten_nil, List.length_nil, hone]
  rfl

/-- The first line takes one blank after the other off the first chunk. It is finished at a character that is
not blank, and never if there is none. -/
theorem layLines_of_narrow {m : Margins} (hroom : m.width < m.firstIndent.length) (c : List Char)
    {rest : List (List Char)} (hrest : ∀ d ∈ rest, d ≠ []) :
    if allBlank c then layLines m false (c :: rest) = .error .unending
    else ∃ ls, layLines m false (c :: rest) = .ok ls := by
  have hcut (c : List Char) :
      nextCut m false (c :: rest) = (withoutBlankEnd [c.take 1], c.drop 1 :: rest) :=
    cutLine_of_neg (by simp only [Margins.indent]; simp; omega) c rest
  induction c with
  | nil => exact layLines_of_stuck (List.cons_ne_nil _ _) (by rw [hcut]; exact Nat.le_refl _)
  | cons x xs ih =>
    have hlt : remaining (nextCut m false ((x :: xs) :: rest)).2 < remaining ((x :: xs) :: rest) := by
      rw [hcut]
      simp [remaining]
    rw [layLines_of_lt hlt, hcut]
    cases hx : isBlank x with
    | true =>
      have hnil : withoutBlankEnd [[x]] = [] := by
        simp [withoutBlankEnd, dropBlankChunk, allBlank, hx]
      have hall : allBlank (x :: xs) = allBlank xs := by
        simp [allBlank, hx]
      simp only [List.take_succ_cons, List.take_zero, List.drop_succ_cons, List.drop_zero, hnil,
        if_true, hall]
      exact ih
    | false =>
      have hline : withoutBlankEnd [[x]] = [[x]] := by
        simp [withoutBlankEnd, dropBlankChunk, allBlank, hx]
      have hbehind : HasRoom m true (xs :: rest) := ⟨hrest, fun h => absurd h (by decide)⟩
      obtain ⟨ls, hls⟩ := exists_layLines_of_room hbehind
      simp [hline, allBlank, hx, hls, Except.map]

/-! ## The first chunk -/

/-- A text that is not empty, with nothing but blanks in front of its first space. -/
def OpensBlank (cs : List Char) : Prop :=
  cs ≠ [] ∧ ∀ c ∈ cs.takeWhile (!isSpace ·), isBlank c = true

instance (cs : List Char) : Decidable (OpensBlank cs) :=
  inferInstanceAs (Decidable (_ ∧ _))

theorem isBlank_of_isSpace {c : Char} (h : isSpace c = true) : isBlank c = true := by
  simp only [isSpace, Bool.or_eq_true, decide_eq_true_eq] at h
  rcases h with ((((rfl | rfl) | rfl) | rfl) | rfl) | rfl <;> decide

/-- No blank ends a word. -/
theorem endsWord_of_isBlank {c : Char} (h : isBlank c = true) : endsWord c = false := by
  have hall : ∀ n ∈ blankRanges.flatMap fun r => List.range' r.1 (r.2 + 1 - r.1),
      endsWord (Char.ofNat n) = false := by
    decide +kernel
  obtain ⟨r, hr, hlow, hhigh⟩ := Ranges.contains_iff.mp h
  rw [← Char.ofNat_toNat c]
  refine hall _ (List.mem_flatMap.mpr ⟨r, hr, List.mem_range'_1.mpr ⟨hlow, ?_⟩⟩)
  omega

/-- A dash begins with a hyphen, which is no blank. -/
theorem not_isBlank_of_startsDash {c : Char} {rest : List Char} (h : startsDash (c :: rest) = true) :
    isSpace c = false ∧ isBlank c = false := by
  by_cases hc : c = '-'
  · subst hc
    exact ⟨by decide, by decide⟩
  · simp [startsDash, hc] at h

/-- A word is blank only where all is blank in front of the next space: a hyphen at which it may end is
no blank, nor is the character before a dash. -/
theorem allBlank_cutWord_iff (before : List Char) {c : Char} (hc : isSpace c = false)
    (rest : List Char) :
    allBlank (cutWord before (c :: rest)).1 = true ↔
      ∀ x ∈ (c :: rest).takeWhile (!isSpace ·), isBlank x = true := by
  induction rest generalizing before c with
  | nil => simp [cutWord, startsCompoundHyphen, wordEnds, allBlank, hc]
  | cons d rest ih =>
    have htake : (c :: d :: rest).takeWhile (!isSpace ·) = c :: (d :: rest).takeWhile (!isSpace ·) := by
      simp [hc]
    rw [htake, List.forall_mem_cons, cutWord]
    split
    · rename_i hcompound
      obtain rfl : d = '-' := by
        simp only [startsCompoundHyphen, Bool.and_eq_true, decide_eq_true_eq] at hcompound
        exact hcompound.1.1
      have hhyphen : isBlank '-' = false ∧ isSpace '-' = false := by decide
      simp [allBlank, hhyphen]
    · split
      · rename_i hends
        simp only [wordEnds, Bool.or_eq_true, Bool.and_eq_true, List.head?_cons, Option.any_some] at hends
        rcases hends with hspace | ⟨hword, hdash⟩
        · simp [allBlank, hspace]
        · have hd := not_isBlank_of_startsDash hdash
          have hc' : isBlank c = false := Bool.eq_false_iff.mpr fun hblank => by
            rw [endsWord_of_isBlank hblank] at hword
            cases hword
          simp [allBlank, hc']
      · rename_i hends
        have hd : isSpace d = false :=
          Bool.eq_false_iff.mpr fun hspace => hends (by simp [wordEnds, hspace])
        rw [← ih (c :: before) hd]
        simp [allBlank]

theorem chunks_cons (c : Char) (rest : List Char) :
    ∃ more, chunks (c :: rest) = (cutChunk [] (c :: rest)).1 :: more := by
  rw [chunks, chunksFrom]
  exact ⟨_, rfl⟩

theorem allBlank_firstChunk_iff (c : Char) (rest : List Char) :
    allBlank (cutChunk [] (c :: rest)).1 = true ↔ OpensBlank (c :: rest) := by
  rw [OpensBlank, cutChunk]
  split
  · rename_i hspace
    have hrun : allBlank (rest.takeWhile isSpace) = true := by
      refine List.all_eq_true.mpr fun x hx => isBlank_of_isSpace ?_
      exact List.all_eq_true.mp List.all_takeWhile x hx
    have hblank := isBlank_of_isSpace hspace
    rw [allBlank] at hrun
    simp [allBlank, hspace, hblank, hrun]
  · rename_i hspace
    rw [if_neg (by simp), allBlank_cutWord_iff [] (by simpa using hspace)]
    simp

/-- Writing spaces plainly leaves what is in front of the first one. -/
theorem takeWhile_plainSpaces (cs : List Char) :
    (plainSpaces cs).takeWhile (!isSpace ·) = cs.takeWhile (!isSpace ·) := by
  have hplain : isSpace ' ' = true := by decide
  have htab : isSpace '\t' = true := by decide
  have hcolumn (column : Nat) :
      ((expandTabs column cs).map fun c => if isSpace c then ' ' else c).takeWhile (!isSpace ·) =
        cs.takeWhile (!isSpace ·) := by
    induction cs generalizing column with
    | nil => rfl
    | cons c rest ih =>
      rw [expandTabs]
      split
      · rename_i h
        subst h
        obtain ⟨n, hn⟩ : ∃ n, 8 - column % 8 = n + 1 := ⟨7 - column % 8, by omega⟩
        rw [hn, List.replicate_succ]
        simp [hplain, htab]
      · cases hspace : isSpace c with
        | true => simp [hplain, hspace]
        | false =>
          simp only [List.map_cons, hspace, List.takeWhile_cons, Bool.not_false, if_true,
            Bool.false_eq_true, if_false, ih]
  exact hcolumn 0

theorem plainSpaces_eq_nil_iff {cs : List Char} : plainSpaces cs = [] ↔ cs = [] := by
  cases cs with
  | nil => simp [plainSpaces, expandTabs]
  | cons c rest =>
    rw [plainSpaces, expandTabs]
    split
    · have hlt := Nat.mod_lt 0 (show 0 < 8 by decide)
      simp
    · simp

theorem opensBlank_plainSpaces {cs : List Char} : OpensBlank (plainSpaces cs) ↔ OpensBlank cs := by
  rw [OpensBlank, OpensBlank, takeWhile_plainSpaces, ne_eq, ne_eq, plainSpaces_eq_nil_iff]

theorem mem_expandTabs {column : Nat} {cs : List Char} {x : Char} (h : x ∈ expandTabs column cs) :
    x = ' ' ∨ x ∈ cs := by
  induction cs generalizing column with
  | nil => cases h
  | cons c rest ih =>
    rw [expandTabs] at h
    split at h
    · rcases List.mem_append.mp h with h | h
      · exact .inl (List.eq_of_mem_replicate h)
      · exact (ih h).imp id (List.mem_cons_of_mem c)
    · rcases List.mem_cons.mp h with rfl | h
      · exact .inr List.mem_cons_self
      · exact (ih h).imp id (List.mem_cons_of_mem c)

/-- What is written with plain spaces has no other characters but those. -/
theorem mem_plainSpaces {cs : List Char} {x : Char} (h : x ∈ plainSpaces cs) : x = ' ' ∨ x ∈ cs := by
  obtain ⟨y, hy, rfl⟩ := List.mem_map.mp h
  split
  · exact .inl rfl
  · exact mem_expandTabs hy

/-! ## Texts -/

theorem ne_nil_of_mem_tail_chunks (cs : List Char) : ∀ c ∈ (chunks cs).tail, c ≠ [] :=
  fun c hc => ne_nil_of_mem_chunksFrom c (List.mem_of_mem_tail hc)

/-- A text has no layout in lines of a positive width where the indent of the first one leaves less than no
room and the text opens with blanks alone. Then no line is ever finished. -/
theorem wrapChars_eq_error_iff {m : Margins} (hwidth : 0 < m.width) (cs : List Char) (e : WrapError) :
    wrapChars m cs = .error e ↔
      e = .unending ∧ m.width < m.firstIndent.length ∧ OpensBlank cs := by
  rw [wrapChars, if_neg (Int.not_le.mpr hwidth), ← opensBlank_plainSpaces]
  have htail := ne_nil_of_mem_tail_chunks (plainSpaces cs)
  generalize plainSpaces cs = text at htail
  have hok {ls : List (List Char)} (h : layLines m false (chunks text) = .ok ls)
      (hnot : ¬(m.width < m.firstIndent.length ∧ OpensBlank text)) :
      layLines m false (chunks text) = .error e ↔
        e = .unending ∧ m.width < m.firstIndent.length ∧ OpensBlank text := by
    rw [h]
    exact iff_of_false nofun fun hall => hnot hall.2
  by_cases hroom : m.width < m.firstIndent.length
  · cases text with
    | nil =>
      have hnil : chunks [] = [] := by rw [chunks, chunksFrom]
      exact hok (hnil ▸ layLines_nil m false) fun hall => hall.2.1 rfl
    | cons c rest =>
      obtain ⟨more, hmore⟩ := chunks_cons c rest
      have hmoreTail : ∀ d ∈ more, d ≠ [] := by rwa [hmore] at htail
      have hlay := layLines_of_narrow hroom (cutChunk [] (c :: rest)).1 hmoreTail
      rw [← hmore] at hlay
      by_cases hblank : OpensBlank (c :: rest)
      · rw [if_pos ((allBlank_firstChunk_iff c rest).mpr hblank)] at hlay
        rw [hlay, Except.error.injEq]
        exact ⟨fun he => ⟨he.symm, hroom, hblank⟩, fun he => he.1.symm⟩
      · rw [if_neg (mt (allBlank_firstChunk_iff c rest).mp hblank)] at hlay
        obtain ⟨ls, hls⟩ := hlay
        exact hok hls fun hall => hblank hall.2
  · have hstart : HasRoom m false (chunks text) := ⟨htail, fun _ => Int.not_lt.mp hroom⟩
    obtain ⟨ls, hls⟩ := exists_layLines_of_room hstart
    exact hok hls fun hall => hroom hall.1

/-- What holds before each line of a text whose first line is not indented: only the first chunk may be empty,
not even that one before the first line, and all characters are of the text, or spaces. -/
structure Remains (cs : List Char) (started : Bool) (chunks : List (List Char)) : Prop where
  tail : ∀ c ∈ chunks.tail, c ≠ []
  fresh : started = false → ∀ c ∈ chunks, c ≠ []
  chars : chunks.flatten ⊆ plainSpaces cs

theorem remains_chunks (cs : List Char) : Remains cs false (chunks (plainSpaces cs)) where
  tail := ne_nil_of_mem_tail_chunks _
  fresh _ := ne_nil_of_mem_chunksFrom
  chars := by
    rw [flatten_chunks]
    exact List.Subset.refl _

namespace Remains

variable {m : Margins} {cs : List Char} {started : Bool} {chunks : List (List Char)}
  (h : Remains cs started chunks)

include h

theorem lineChunks_ne_nil : ∀ c ∈ lineChunks started chunks, c ≠ [] := by
  cases started with
  | false => exact h.fresh rfl
  | true => exact ne_nil_of_mem_lineChunks h.tail

theorem flatten_lineChunks_subset : (lineChunks started chunks).flatten ⊆ plainSpaces cs := by
  obtain ⟨front, hfront⟩ := lineChunks_suffix started chunks
  have hchars := h.chars
  rw [← hfront, List.flatten_append] at hchars
  exact (List.append_subset.mp hchars).2

theorem next (hwidth : 0 < m.width) (hfirst : m.firstIndent = []) :
    Remains cs started (nextCut m started chunks).2 where
  tail := ne_nil_of_mem_tail_nextCut m started h.tail
  fresh hstarted := by
    have hroom : 0 < m.width - ((m.indent started).length : Int) := by
      simpa [hstarted, Margins.indent, hfirst] using hwidth
    exact ne_nil_of_mem_back_cut hroom (cuts_cutLine _ _) h.lineChunks_ne_nil
  chars :=
    List.Subset.trans (flatten_cut_subset (cuts_cutLine _ _)).2 h.flatten_lineChunks_subset

/-- A line that is finished is not empty, and its characters are those of the text, spaces, and those of
the indent. -/
theorem line (hfirst : m.firstIndent = []) (hne : (nextCut m started chunks).1 ≠ []) :
    m.indent started ++ (nextCut m started chunks).1.flatten ≠ [] ∧
      ∀ x ∈ m.indent started ++ (nextCut m started chunks).1.flatten,
        x = ' ' ∨ x ∈ cs ∨ x ∈ m.restIndent := by
  have hcuts : Cuts _ (lineChunks started chunks) (nextCut m started chunks) := cuts_cutLine _ _
  constructor
  · obtain ⟨piece, more, hpiece⟩ := List.exists_cons_of_ne_nil hne
    have hpieceNe := ne_nil_of_mem_cut hcuts h.lineChunks_ne_nil piece (by simp [hpiece])
    rw [hpiece]
    simp [hpieceNe]
  · intro x hx
    rcases List.mem_append.mp hx with hx | hx
    · cases started with
      | false => simp [Margins.indent, hfirst] at hx
      | true => exact .inr (.inr hx)
    · have htext := h.flatten_lineChunks_subset ((flatten_cut_subset hcuts).1 hx)
      exact (mem_plainSpaces htext).imp id .inl

end Remains

/-- Where the first line is not indented there is a layout. No line of it is empty, and its characters are
those of the text, spaces, and those of the indent. -/
theorem exists_wrapChars {m : Margins} (hwidth : 0 < m.width) (hfirst : m.firstIndent = [])
    (cs : List Char) :
    ∃ ls, wrapChars m cs = .ok ls ∧
      ∀ l ∈ ls, l ≠ [] ∧ ∀ x ∈ l, x = ' ' ∨ x ∈ cs ∨ x ∈ m.restIndent := by
  have hroom : (m.firstIndent.length : Int) ≤ m.width := by
    rw [hfirst]
    exact Int.le_of_lt hwidth
  rw [wrapChars, if_neg (Int.not_le.mpr hwidth)]
  refine exists_layLines (fun started chunks hne h => ?_) (remains_chunks cs)
  have hnext := h.next hwidth hfirst
  exact ⟨remaining_nextCut_lt hne h.tail fun _ => hroom, fun _ => hnext,
    fun hline => ⟨⟨hnext.tail, nofun, hnext.chars⟩, h.line hfirst hline⟩⟩

end BuildScript.Text
