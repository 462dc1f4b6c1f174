import BuildScript.Proofs.Output.Entries
import BuildScript.Proofs.Text.Bounded

/-!
Printing without a bullet loses nothing but blanks. Each line of what is printed becomes a paragraph of its
own (`IsParagraph`): lines of at most the width, indented behind the first one, on which all that is to be
seen of the line is kept in its order. Below each other the paragraphs make up the body
(`lossless_of_paragraphs`), so that each line break but one at the end stays where it was. Main statement:
`print_lossless`, for all arguments and every width that the indent leaves room in.
-/

namespace BuildScript

open Text (Line Margins allBlank isLineBreak lines splitAtChar visible)

/-! ## What is to be seen of lines and pages -/

theorem intercalate_append {α : Type} (sep : List α) {xs ys : List (List α)} (hxs : xs ≠ []) (hys : ys ≠ []) :
    sep.intercalate (xs ++ ys) = sep.intercalate xs ++ sep ++ sep.intercalate ys := by
  induction xs with
  | nil => exact absurd rfl hxs
  | cons x xs ih =>
    cases xs with
    | nil =>
      rw [List.singleton_append, List.intercalate_cons_of_ne_nil hys, List.intercalate_singleton]
    | cons x' xs =>
      rw [List.cons_append, List.cons_append, List.intercalate_cons_cons, ← List.cons_append,
        ih (List.cons_ne_nil x' xs), List.intercalate_cons_cons]
      simp only [List.append_assoc]

namespace Text

theorem visible_flatten (xs : List (List Char)) : visible xs.flatten = (xs.map visible).flatten :=
  List.filter_flatten

/-- Line feeds between texts are not to be seen. -/
theorem visible_intercalate_lineFeed (xs : List (List Char)) :
    visible (['\n'].intercalate xs) = visible xs.flatten := by
  induction xs with
  | nil => rfl
  | cons x xs ih =>
    cases xs with
    | nil => rw [List.intercalate_singleton, List.flatten_singleton]
    | cons y ys =>
      have hfeed : visible ['\n'] = [] := by decide
      rw [List.intercalate_cons_cons, visible_append, visible_append, ih, hfeed, List.append_nil,
        ← visible_append, ← List.flatten_cons]

/-- What ends a line is blank. -/
theorem allBlank_ending {cs : List Char} : ∀ l ∈ lines cs, allBlank l.ending = true := by
  fun_induction lines cs with
  | case1 => exact List.forall_mem_nil _
  | case2 rest ih => exact List.forall_mem_cons.mpr ⟨by decide, ih⟩
  | case3 c rest _ hbreak ih =>
    refine List.forall_mem_cons.mpr ⟨?_, ih⟩
    rw [allBlank, List.all_cons, isBlank_of_isLineBreak hbreak]
    rfl
  | case4 c rest _ hbreak hnil ih => exact List.forall_mem_cons.mpr ⟨rfl, List.forall_mem_nil _⟩
  | case5 c rest _ hbreak l ls hcons ih =>
    rw [hcons] at ih
    obtain ⟨hl, hls⟩ := List.forall_mem_cons.mp ih
    exact List.forall_mem_cons.mpr ⟨hl, hls⟩

/-- Nothing that is to be seen of a line is in its break. -/
theorem visible_chars {cs : List Char} {l : Line} (hl : l ∈ lines cs) : visible l.chars = visible l.body := by
  rw [Line.chars, visible_append, visible_of_allBlank (allBlank_ending l hl), List.append_nil]

end Text

theorem visible_page (ls : List (List Char)) : visible (page ls) = visible ls.flatten :=
  Text.visible_intercalate_lineFeed ls

/-! ## Paragraphs -/

/-- The paragraph of a line: what is to be seen of the line, on lines of at most the width, which are indented behind
the first one. -/
structure IsParagraph (width : Int) (indent : Nat) (l : Line) (ls : List (List Char)) : Prop where
  visible_eq : visible ls.flatten = visible l.chars
  unbroken : ∀ x ∈ ls, '\n' ∉ x
  length_le : ∀ x ∈ ls, (x.length : Int) ≤ width
  indented : ∀ x ∈ ls.tail, List.replicate indent ' ' <+: x

/-- The body is the text on lines of at most the width, and nothing of it is lost. -/
structure Lossless (width : Int) (indent : Nat) (text body : List Char) : Prop where
  /-- The same characters are to be seen, in the same order. -/
  visible_eq : visible body = visible text
  length_le : ∀ l ∈ splitAtChar '\n' body, (l.length : Int) ≤ width
  /-- The body is the paragraphs of the lines of the text, below each other. -/
  paragraphs : ∃ paragraphs, List.Forall₂ (IsParagraph width indent) (lines text) paragraphs ∧
    body = ['\n'].intercalate (paragraphs.map page)
  /-- Each line break, but one at the end, is still a line break between the same characters. -/
  breaks : ∀ front back, lines text = front ++ back → front ≠ [] → back ≠ [] →
    ∃ a b, body = a ++ '\n' :: b ∧ visible a = visible (front.flatMap Line.chars) ∧
      visible b = visible (back.flatMap Line.chars)

section Paragraphs

variable {width : Int} {indent : Nat} {ls : List Line} {paragraphs : List (List (List Char))}

theorem visible_paragraphs (h : List.Forall₂ (IsParagraph width indent) ls paragraphs) :
    visible (['\n'].intercalate (paragraphs.map page)) = visible (ls.flatMap Line.chars) := by
  rw [Text.visible_intercalate_lineFeed, Text.visible_flatten, List.flatMap_def, Text.visible_flatten]
  congr 1
  induction h with
  | nil => rfl
  | cons hl _ ih =>
    rw [List.map_cons, List.map_cons, List.map_cons, List.map_cons, ih, visible_page, hl.visible_eq]

/-- The lines of a paragraph are its own, and there is an empty one for a paragraph without any. -/
theorem splitAtChar_page {x : List (List Char)} (h : ∀ l ∈ x, '\n' ∉ l) :
    splitAtChar '\n' (page x) = if x = [] then [[]] else x := by
  split
  · rename_i hnil
    rw [hnil]
    rfl
  · rename_i hne
    rw [page, Text.splitAtChar_intercalate hne]
    have hcut : x.flatMap (splitAtChar '\n') = x.flatMap fun l => [l] :=
      List.flatMap_congr fun l hl => Text.splitAtChar_of_not_mem (h l hl)
    rw [hcut, List.flatMap_singleton']

/-- All lines of paragraphs below each other are lines of one of them, or empty. -/
theorem mem_splitAtChar_pages (h : ∀ x ∈ paragraphs, ∀ l ∈ x, '\n' ∉ l) {l : List Char}
    (hl : l ∈ splitAtChar '\n' (['\n'].intercalate (paragraphs.map page))) :
    l = [] ∨ ∃ x ∈ paragraphs, l ∈ x := by
  by_cases hnil : paragraphs = []
  · subst hnil
    exact .inl (List.mem_singleton.mp hl)
  · rw [Text.splitAtChar_intercalate (by simpa using hnil), List.flatMap_map] at hl
    obtain ⟨x, hx, hlx⟩ := List.mem_flatMap.mp hl
    rw [splitAtChar_page (h x hx)] at hlx
    split at hlx
    · exact .inl (List.mem_singleton.mp hlx)
    · exact .inr ⟨x, hx, hlx⟩

/-- A break between two lines is one between their paragraphs. -/
theorem exists_break {front back : List Line}
    (h : List.Forall₂ (IsParagraph width indent) (front ++ back) paragraphs) (hfront : front ≠ [])
    (hback : back ≠ []) :
    ∃ a b, ['\n'].intercalate (paragraphs.map page) = a ++ '\n' :: b ∧
      visible a = visible (front.flatMap Line.chars) ∧ visible b = visible (back.flatMap Line.chars) := by
  have hbefore := List.forall₂_take front.length h
  have hbehind := List.forall₂_drop front.length h
  rw [List.take_left] at hbefore
  rw [List.drop_left] at hbehind
  have hne {xs : List Line} {ys : List (List (List Char))} (hxs : xs ≠ [])
      (hall : List.Forall₂ (IsParagraph width indent) xs ys) : ys.map page ≠ [] := by
    intro hnil
    rw [List.map_eq_nil_iff] at hnil
    subst hnil
    exact hxs (List.forall₂_nil_right_iff.mp hall)
  refine ⟨_, _, ?_, visible_paragraphs hbefore, visible_paragraphs hbehind⟩
  have hsplit := intercalate_append ['\n'] (hne hfront hbefore) (hne hback hbehind)
  rw [← List.map_append, List.take_append_drop, List.append_assoc] at hsplit
  exact hsplit

/-- The paragraphs of the lines of a text, below each other, lose nothing of it. -/
theorem lossless_of_paragraphs {text : List Char} (hwidth : 0 ≤ width)
    (h : List.Forall₂ (IsParagraph width indent) (lines text) paragraphs) :
    Lossless width indent text (['\n'].intercalate (paragraphs.map page)) where
  visible_eq := by
    rw [visible_paragraphs h, List.flatMap_def, Text.flatten_lines]
  length_le l hl := by
    have hall : ∀ x ∈ paragraphs, ∃ line, IsParagraph width indent line x := by
      intro x hx
      obtain ⟨line, -, hline⟩ := exists_mem_of_forall₂ h.flip hx
      exact ⟨line, hline⟩
    have hunbroken : ∀ x ∈ paragraphs, ∀ y ∈ x, '\n' ∉ y := fun x hx =>
      (hall x hx).elim fun _ hline => hline.unbroken
    rcases mem_splitAtChar_pages hunbroken hl with rfl | ⟨x, hx, hlx⟩
    · exact hwidth
    · obtain ⟨line, hline⟩ := hall x hx
      exact hline.length_le l hlx
  paragraphs := ⟨paragraphs, h, rfl⟩
  breaks front back hlines hfront hback := by
    rw [hlines] at h
    exact exists_break h hfront hback

end Paragraphs

/-! ## Printing -/

/-- A line is wrapped to its paragraph, if the indent leaves room for a character. -/
theorem isParagraph_of_wrapChars {style : PrintStyle} {width : Int} (hpos : 0 < width)
    (hroom : style.wrapIndent < width)
    {text : List Char} {l : Line} (hl : l ∈ lines text) {ls : List (List Char)}
    (h : Text.wrapChars (style.margins width) l.body = .ok ls) :
    IsParagraph width style.wrapIndent.toNat l ls := by
  have hroomy : (style.margins width).Roomy := by
    refine ⟨hpos, ?_⟩
    show ((List.replicate style.wrapIndent.toNat ' ').length : Int) < width
    rw [List.length_replicate]
    omega
  obtain ⟨ls', hls', hall⟩ := exists_wrapped style hpos (Text.unbroken_body l hl)
  obtain rfl : ls' = ls := Except.ok.inj (hls'.symm.trans h)
  exact
    { visible_eq := by rw [Text.visible_wrapChars (blank_margins style width) h, Text.visible_chars hl]
      unbroken := fun x hx => not_mem_of_unbroken (hall x hx).2
      length_le := Text.length_wrapChars_le hroomy h
      indented := Text.indent_wrapChars h }

/-- Without a bullet, and with an indent that is less than the width, the arguments with the separator between them are
printed on lines of at most the width, and nothing of them is lost but blanks. -/
theorem print_lossless (columns : Int) {style : PrintStyle} {width : Int} (hwidth : style.width = some width)
    (hpos : 1 ≤ width) (hroom : style.wrapIndent < width) (hbullet : style.bullet = "") (args : List String) :
    ∃ body, print columns style args = ⟨style.opening ++ body ++ style.closing, none⟩ ∧
      Lossless width style.wrapIndent.toNat (style.separator.intercalate args).toList body.toList := by
  have hwide : 0 < width := hpos
  obtain ⟨paragraphs, hwrapped, hbody⟩ := exists_layText style hwide (style.separator.intercalate args)
  simp only [hbullet, if_true, List.map_id'] at hbody
  refine ⟨pages paragraphs, print_of_layText hbody ?_, ?_⟩
  · rw [hwidth, Option.map_some, if_neg (by omega)]
  · rw [pages, String.toList_ofList]
    refine lossless_of_paragraphs (Int.le_of_lt hwide) ?_
    have hlines := (List.forall₂_and_left (lines _) paragraphs).mpr ⟨fun l hl => hl, hwrapped⟩
    exact hlines.imp fun l ls h => isParagraph_of_wrapChars hwide hroom h.1 h.2

/-- Lines of nine letters, indented by four behind the first one of a paragraph. -/
def hanging : PrintStyle := { width := some 9, wrapIndent := 4 }

theorem print_lossless_hanging :
    hanging.width = some 9 ∧ (1 : Int) ≤ 9 ∧ hanging.wrapIndent < 9 ∧ hanging.bullet = "" ∧
      ∃ body, print 80 hanging ["one two\n\nthree", "four"] =
          ⟨hanging.opening ++ body ++ hanging.closing, none⟩ ∧
        Lossless 9 hanging.wrapIndent.toNat (hanging.separator.intercalate ["one two\n\nthree", "four"]).toList
          body.toList :=
  ⟨rfl, by decide, by decide, rfl, print_lossless 80 rfl (by decide) (by decide) rfl ["one two\n\nthree", "four"]⟩

example : print 80 hanging ["one two\n\nthree", "four"] = ⟨"one two\n\nthree\n    four\n", none⟩ := by
  decide +kernel

end BuildScript
