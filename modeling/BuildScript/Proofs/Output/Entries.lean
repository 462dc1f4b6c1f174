import BuildScript.Proofs.Output.Printing
import BuildScript.Proofs.Text.Whole

/-!
Printing texts that are not broken over lines. Each line of such a text is printed with the bullet in front of it,
without the blanks around it (`exists_laid`), and a plain text as it stands (`print_plain`). What is printed one after
the other stands one behind the other (`Prints`).
-/

namespace BuildScript

open Text (Line Margins Plain Spaced Between lines wrapChars plainSpaces)

/-- No line of the text is broken. -/
def Whole (m : Margins) (text : String) : Prop :=
  ∀ l ∈ lines text.toList, ∃ ls, wrapChars m l.body = .ok ls ∧ ls.length ≤ 1

/-- No text is broken in lines that are as long as its own. -/
theorem whole_of_le {m : Margins} (hwidth : 0 < m.width) (hfirst : m.firstIndent = []) {text : String}
    (h : ∀ l ∈ lines text.toList, ((plainSpaces l.body).length : Int) ≤ m.width) : Whole m text :=
  fun l hl => Text.exists_wrapChars_of_le hwidth hfirst (h l hl)

/-- A line with its bullet, if anything is on it. -/
def bulletLine (bullet l : List Char) : List Char := if l = [] then [] else bullet ++ l

/-- The lines of the text, each without the blanks around it and with a bullet in front. -/
def Laid (bullet text body : String) : Prop :=
  ∃ ls, List.Forall₂ (fun l x => Between l.body x) (lines text.toList) ls ∧
    body = String.ofList (['\n'].intercalate (ls.map (bulletLine bullet.toList)))

theorem blank_margins (style : PrintStyle) (width : Int) : (style.margins width).Blank :=
  ⟨rfl, Text.allBlank_replicate_space _⟩

theorem width_pos_of_wrapChars {m : Margins} {cs : List Char} {ls : List (List Char)}
    (h : wrapChars m cs = .ok ls) : 0 < m.width := by
  by_contra hnot
  rw [wrapChars, if_pos (Int.not_lt.mp hnot)] at h
  cases h

theorem page_of_length_le_one {bullet : String} {ls : List (List Char)} (hone : ls.length ≤ 1)
    (hne : ∀ l ∈ ls, l ≠ []) :
    page (if bullet = "" then ls else bulleted bullet.toList ls) = bulletLine bullet.toList ls.flatten := by
  cases ls with
  | nil =>
    have hnone : (if bullet = "" then [] else bulleted bullet.toList []) = [] := by split <;> rfl
    rw [hnone]
    rfl
  | cons l more =>
    have hnil : more = [] := List.length_eq_zero_iff.mp (by rw [List.length_cons] at hone; omega)
    subst hnil
    have hl : l ≠ [] := hne l List.mem_cons_self
    rw [List.flatten_singleton, bulletLine, if_neg hl]
    split
    · rename_i hbullet
      rw [hbullet]
      exact List.intercalate_singleton
    · exact List.intercalate_singleton

/-- A line that is not broken is put down with its bullet. -/
theorem paragraph_of_whole {style : PrintStyle} {width : Int} {cs : List Char} (hcs : Unbroken cs)
    {ls : List (List Char)} (h : wrapChars (style.margins width) cs = .ok ls) (hone : ls.length ≤ 1) :
    paragraph style width cs = .ok (bulletLine style.bullet.toList ls.flatten) := by
  obtain ⟨ls', hls', hall⟩ := exists_wrapped style (width_pos_of_wrapChars h) hcs
  obtain rfl : ls' = ls := Except.ok.inj (hls'.symm.trans h)
  rw [paragraph_eq h hall, page_of_length_le_one hone fun l hl => (hall l hl).1]

/-- A text that is not broken is laid out line by line. -/
theorem exists_laid {style : PrintStyle} {width : Int} {text : String}
    (h : Whole (style.margins width) text) :
    ∃ body, Laid style.bullet text body ∧ layText style (some width) text = .ok body := by
  have hline : ∀ l ∈ lines text.toList, ∃ x, Between l.body x ∧
      paragraph style width l.body = .ok (bulletLine style.bullet.toList x) := by
    intro l hl
    obtain ⟨ls, hls, hone⟩ := h l hl
    exact ⟨ls.flatten, Text.between_of_wrapChars (blank_margins style width) rfl hls hone,
      paragraph_of_whole (Text.unbroken_body l hl) hls hone⟩
  obtain ⟨xs, hxs⟩ := exists_forall₂ hline
  refine ⟨_, ⟨xs, hxs.imp fun _ _ hx => hx.1, rfl⟩, ?_⟩
  have hparagraphs : (lines text.toList).mapM (fun l => paragraph style width l.body) =
      .ok (xs.map (bulletLine style.bullet.toList)) :=
    (mapM_eq_ok_iff ..).mpr (List.forall₂_map_right_iff.mpr (hxs.imp fun _ _ hx => hx.2))
  unfold layText
  dsimp only
  rw [hparagraphs]
  rfl

/-- A plain text has no line break. -/
theorem unbroken_of_spaced {cs : List Char} (h : Spaced cs) : Unbroken cs := by
  intro c hc
  by_contra hbreak
  rw [Bool.not_eq_false] at hbreak
  rw [h c hc (Text.isBlank_of_isLineBreak hbreak)] at hbreak
  exact absurd hbreak (by decide)

/-- A plain text is laid out as it stands, behind its bullet. -/
theorem Laid.eq_of_plain {bullet text body : String} (h : Laid bullet text body) (hplain : Plain text.toList) :
    body = bullet ++ text := by
  obtain ⟨ls, hls, rfl⟩ := h
  rw [Text.lines_of_unbroken hplain.ne_nil (unbroken_of_spaced hplain.spaced)] at hls
  obtain ⟨l, rest, hl, hrest, rfl⟩ := List.forall₂_cons_left_iff.mp hls
  obtain rfl := List.forall₂_nil_left_iff.mp hrest
  obtain rfl := hplain.eq_of_between hl
  rw [List.map_singleton, List.intercalate_singleton, bulletLine, if_neg hplain.ne_nil,
    ← String.toList_append, String.ofList_toList]

/-! ## Printing -/

/-- The width of the lines when a width is asked for: that of the terminal for zero. -/
def lineWidth (columns width : Int) : Int := if width = 0 then terminalWidth columns else width

section Print

variable {columns width : Int} {style : PrintStyle} {text : String}

/-- A text that is not broken is printed line by line. -/
theorem print_whole (hwidth : style.width = some width)
    (h : Whole (style.margins (lineWidth columns width)) text) :
    ∃ body, Laid style.bullet text body ∧
      print columns style [text] = ⟨style.opening ++ body ++ style.closing, none⟩ := by
  obtain ⟨body, hlaid, hbody⟩ := exists_laid h
  have hjoined : layText style (some (lineWidth columns width)) (style.separator.intercalate [text]) = .ok body := by
    rw [String.intercalate_singleton]
    exact hbody
  refine ⟨body, hlaid, print_of_layText hjoined ?_⟩
  rw [hwidth]
  rfl

/-- A plain text that is not broken is printed as it stands, behind its bullet. -/
theorem print_plain (hwidth : style.width = some width)
    (h : Whole (style.margins (lineWidth columns width)) text) (hplain : Plain text.toList) :
    print columns style [text] = ⟨style.opening ++ (style.bullet ++ text) ++ style.closing, none⟩ := by
  obtain ⟨body, hlaid, hprint⟩ := print_whole hwidth h
  rw [hprint, hlaid.eq_of_plain hplain]

/-- A plain text that is not broken is printed on a line of its own. -/
theorem print_line {bullet : String} {indent : Int}
    (h : Whole { width := lineWidth columns width, restIndent := List.replicate indent.toNat ' ' } text)
    (hplain : Plain text.toList) :
    print columns { bullet, wrapIndent := indent, width := some width } [text] =
      ⟨bullet ++ text ++ "\n", none⟩ := by
  let style : PrintStyle := { bullet, wrapIndent := indent, width := some width }
  have hprint : print columns style [text] = ⟨style.opening ++ (bullet ++ text) ++ style.closing, none⟩ :=
    print_plain rfl h hplain
  have hopening : style.opening = "" := rfl
  have hclosing : style.closing = "\n" := rfl
  rwa [hopening, hclosing, String.empty_append] at hprint

end Print

/-- What is printed one after the other comes to a text. -/
def Prints (columns : Int) (items : List (PrintStyle × List String)) (text : String) : Prop :=
  printAll columns items = ⟨text, none⟩

namespace Prints

variable {columns : Int} {items items' : List (PrintStyle × List String)} {text text' : String}

theorem nil (columns : Int) : Prints columns [] "" := rfl

theorem cons {style : PrintStyle} {args : List String} (h : print columns style args = ⟨text, none⟩)
    (h' : Prints columns items text') : Prints columns ((style, args) :: items) (text ++ text') := by
  unfold Prints at h' ⊢
  rw [printAll, h]
  dsimp only
  rw [h']

theorem append (h : Prints columns items text) (h' : Prints columns items' text') :
    Prints columns (items ++ items') (text ++ text') := by
  induction items generalizing text with
  | nil =>
    obtain rfl : "" = text := congrArg Printed.text h
    rw [String.empty_append]
    exact h'
  | cons item items ih =>
    obtain ⟨style, args⟩ := item
    unfold Prints at h
    rw [printAll] at h
    dsimp only at h
    split at h
    · cases h
    · rename_i hnone
      obtain ⟨rfl, herror⟩ := (Printed.mk.injEq ..).mp h
      have hrest : Prints columns items (printAll columns items).text :=
        congrArg (Printed.mk (printAll columns items).text) herror
      have hprint : print columns style args = ⟨(print columns style args).text, none⟩ :=
        congrArg (Printed.mk (print columns style args).text) hnone
      rw [String.append_assoc]
      exact cons hprint (ih hrest)

/-- What is printed for each of some things comes to the texts of them one behind the other. -/
theorem flatMap {α : Type} {f : α → List (PrintStyle × List String)} {xs : List α} {texts : List String}
    (h : List.Forall₂ (fun x text => Prints columns (f x) text) xs texts) :
    Prints columns (xs.flatMap f) (String.join texts) := by
  induction h with
  | nil => exact nil columns
  | cons hx _ ih =>
    rw [List.flatMap_cons, String.join_cons]
    exact hx.append ih

end Prints

end BuildScript
