import BuildScript.Proofs.Output.Printing
import BuildScript.Proofs.Text.Bounded

/-!
What a terminal shows of what is printed: its lines, without the codes that switch colours. The codes take no room, and
none of them goes over a line feed, so lines that are printed one after the other are shown one after the other
(`shownLines_append_lineFeed`). Main statement: `shownLines_printed`, that of a text that is printed in a colour of the
library its paragraphs are shown, and nothing else.
-/

namespace BuildScript

open Text (splitAtChar)

/-! ## Codes for colours -/

/-- What stands behind the code that a text begins with, if it begins with one: an escape, a bracket, digits and the
letter m. -/
def behindCode? : List Char → Option (List Char)
  | '\x1b' :: '[' :: rest =>
    match rest.dropWhile Char.isDigit with
    | 'm' :: behind => some behind
    | _ => none
  | _ => none

theorem suffix_of_behindCode? {cs behind : List Char} (h : behindCode? cs = some behind) :
    ∃ c front, cs = c :: front ++ behind := by
  unfold behindCode? at h
  split at h
  · rename_i rest
    split at h
    · rename_i behind' hdrop
      obtain rfl := Option.some.inj h
      refine ⟨'\x1b', '[' :: rest.takeWhile Char.isDigit ++ ['m'], ?_⟩
      have hrest := List.takeWhile_append_dropWhile (p := Char.isDigit) (l := rest)
      rw [hdrop] at hrest
      simp [hrest]
    · cases h
  · cases h

theorem length_behindCode?_lt {cs behind : List Char} (h : behindCode? cs = some behind) :
    behind.length < cs.length := by
  obtain ⟨c, front, rfl⟩ := suffix_of_behindCode? h
  simp only [List.cons_append, List.length_cons, List.length_append]
  omega

/-- The text without the codes for colours. -/
def withoutColors : List Char → List Char
  | [] => []
  | c :: rest =>
    match _h : behindCode? (c :: rest) with
    | some behind => withoutColors behind
    | none => c :: withoutColors rest
termination_by cs => cs.length
decreasing_by
  · exact length_behindCode?_lt _h
  · simp

theorem withoutColors_nil : withoutColors [] = [] := by rw [withoutColors]

theorem withoutColors_of_code {cs behind : List Char} (h : behindCode? cs = some behind) :
    withoutColors cs = withoutColors behind := by
  cases cs with
  | nil => cases h
  | cons c rest =>
    rw [withoutColors]
    split
    · rename_i found hfound
      rw [Option.some.inj (hfound.symm.trans h)]
    · rename_i hnone
      cases hnone.symm.trans h

theorem withoutColors_cons_of_none {c : Char} {rest : List Char} (h : behindCode? (c :: rest) = none) :
    withoutColors (c :: rest) = c :: withoutColors rest := by
  rw [withoutColors]
  split
  · rename_i hfound
    cases hfound.symm.trans h
  · rfl

/-- A code begins with an escape. -/
theorem withoutColors_cons {c : Char} (h : c ≠ '\x1b') (rest : List Char) :
    withoutColors (c :: rest) = c :: withoutColors rest := by
  refine withoutColors_cons_of_none ?_
  unfold behindCode?
  split
  · rename_i heq
    exact absurd (List.cons.inj heq).1 h
  · rfl

theorem withoutColors_append_of_not_mem {a : List Char} (h : '\x1b' ∉ a) (b : List Char) :
    withoutColors (a ++ b) = a ++ withoutColors b := by
  induction a with
  | nil => rfl
  | cons c rest ih =>
    obtain ⟨hc, hrest⟩ := not_or.mp (mt List.mem_cons.mpr h)
    rw [List.cons_append, withoutColors_cons (Ne.symm hc), ih hrest, List.cons_append]

theorem withoutColors_sublist (cs : List Char) : (withoutColors cs).Sublist cs := by
  fun_induction withoutColors cs with
  | case1 => exact .slnil
  | case2 c rest behind hcode ih =>
    obtain ⟨c', front, hfront⟩ := suffix_of_behindCode? hcode
    rw [hfront]
    exact ih.trans (List.sublist_append_right _ _)
  | case3 c rest hnone ih => exact ih.cons_cons c

/-- The characters that no code goes over: those that stand in none, and the escape that begins the next one. -/
def EndsCode (c : Char) : Prop := c ≠ '[' ∧ c ≠ 'm' ∧ c.isDigit = false

theorem behindCode?_append {c : Char} (hc : EndsCode c) {a : List Char} (ha : a ≠ []) (b : List Char) :
    behindCode? (a ++ c :: b) = (behindCode? a).map (· ++ c :: b) := by
  obtain ⟨hbracket, hletter, hdigit⟩ := hc
  match a, ha with
  | [x], _ => simp [behindCode?, hbracket]
  | x :: y :: rest, _ =>
    by_cases hstart : x = '\x1b' ∧ y = '['
    · obtain ⟨rfl, rfl⟩ := hstart
      simp only [behindCode?, List.cons_append, List.dropWhile_append]
      cases hdrop : rest.dropWhile Char.isDigit with
      | nil => simp [hdigit, hletter]
      | cons d ds =>
        by_cases hd : d = 'm'
        · subst hd
          simp
        · simp [hd]
    · have hnone (more : List Char) : behindCode? (x :: y :: more) = none := by
        unfold behindCode?
        split
        · rename_i heq
          obtain ⟨hx, hrest⟩ := List.cons.inj heq
          exact absurd ⟨hx, (List.cons.inj hrest).1⟩ hstart
        · rfl
      rw [List.cons_append, List.cons_append, hnone, hnone]
      rfl

/-- Codes are taken out in front of such a character and from it on. -/
theorem withoutColors_append_cons {c : Char} (hc : EndsCode c) (a b : List Char) :
    withoutColors (a ++ c :: b) = withoutColors a ++ withoutColors (c :: b) := by
  fun_induction withoutColors a with
  | case1 => rfl
  | case2 x rest behind hcode ih =>
    have happend := behindCode?_append hc (List.cons_ne_nil x rest) b
    rw [hcode] at happend
    rw [withoutColors_of_code happend]
    exact ih
  | case3 x rest hnone ih =>
    have happend := behindCode?_append hc (List.cons_ne_nil x rest) b
    rw [hnone] at happend
    refine (withoutColors_cons_of_none happend).trans ?_
    exact congrArg (x :: ·) ih

/-! ## Lines -/

/-- The lines that are shown of a text. -/
def shownLines (text : List Char) : List (List Char) := splitAtChar '\n' (withoutColors text)

theorem endsCode_lineFeed : EndsCode '\n' := ⟨by decide, by decide, by decide⟩

theorem endsCode_escape : EndsCode '\x1b' := ⟨by decide, by decide, by decide⟩

theorem shownLines_append_lineFeed (a b : List Char) :
    shownLines (a ++ '\n' :: b) = shownLines a ++ shownLines b := by
  unfold shownLines
  rw [withoutColors_append_cons endsCode_lineFeed, withoutColors_cons (by decide), Text.splitAtChar_append_cons]

theorem shownLines_of_not_mem {l : List Char} (h : '\n' ∉ l) : shownLines l = [withoutColors l] :=
  Text.splitAtChar_of_not_mem fun hmem => h ((withoutColors_sublist l).subset hmem)

theorem shownLines_nil : shownLines [] = [[]] := by
  rw [shownLines, withoutColors_nil]
  rfl

theorem shownLines_intercalate {xs : List (List Char)} (hne : xs ≠ []) :
    shownLines (['\n'].intercalate xs) = xs.flatMap shownLines := by
  induction xs with
  | nil => exact absurd rfl hne
  | cons x xs ih =>
    cases xs with
    | nil => rw [List.intercalate_singleton, List.flatMap_singleton]
    | cons y ys =>
      rw [List.intercalate_cons_cons, List.append_assoc, List.singleton_append, shownLines_append_lineFeed,
        ih (List.cons_ne_nil y ys)]
      exact (List.flatMap_cons ..).symm

/-- The lines that are shown of a paragraph: an empty one if it has none. -/
def paragraphLines (ls : List (List Char)) : List (List Char) :=
  if ls = [] then [[]] else ls.map withoutColors

theorem shownLines_page {ls : List (List Char)} (h : ∀ l ∈ ls, '\n' ∉ l) :
    shownLines (page ls) = paragraphLines ls := by
  unfold paragraphLines
  split
  · rename_i hnil
    subst hnil
    exact shownLines_nil
  · rename_i hne
    rw [page, shownLines_intercalate hne, List.map_eq_flatMap]
    exact List.flatMap_congr fun l hl => shownLines_of_not_mem (h l hl)

/-- The lines that are shown of paragraphs below each other: an empty one if there are none. -/
def pagesLines (paragraphs : List (List (List Char))) : List (List Char) :=
  if paragraphs = [] then [[]] else paragraphs.flatMap paragraphLines

theorem shownLines_pages {paragraphs : List (List (List Char))} (h : ∀ ls ∈ paragraphs, ∀ l ∈ ls, '\n' ∉ l) :
    shownLines (pages paragraphs).toList = pagesLines paragraphs := by
  unfold pagesLines
  rw [pages, String.toList_ofList]
  split
  · rename_i hnil
    subst hnil
    exact shownLines_nil
  · rename_i hne
    rw [shownLines_intercalate (by simpa using hne), List.flatMap_map]
    exact List.flatMap_congr fun ls hls => shownLines_page (h ls hls)

/-! ## Printing -/

/-- The style has no colour, or one of the library's. -/
def PrintStyle.Known (style : PrintStyle) : Prop := ∀ n ∈ style.color, ∃ c : Color, n = c.code

theorem known_of_none {style : PrintStyle} (h : style.color = none) : style.Known := by
  intro n hn
  rw [h] at hn
  cases hn

theorem behindCode?_colorOn (c : Color) (rest : List Char) :
    behindCode? ((colorOn c.code).toList ++ rest) = some rest := by
  have hall : (Number.intText c.code).toList.all Char.isDigit = true := by
    cases c <;> decide +kernel
  have hdigits : ∀ d ∈ (Number.intText c.code).toList, d.isDigit = true := List.all_eq_true.mp hall
  have hcode : (colorOn c.code).toList ++ rest =
      '\x1b' :: '[' :: ((Number.intText c.code).toList ++ 'm' :: rest) := by
    simp [colorOn]
  rw [hcode]
  simp only [behindCode?, List.dropWhile_append_of_pos hdigits]
  rfl

theorem withoutColors_opening {style : PrintStyle} (h : style.Known) (rest : List Char) :
    withoutColors (style.opening.toList ++ rest) = withoutColors rest := by
  unfold PrintStyle.opening
  unfold PrintStyle.Known at h
  cases hcolor : style.color with
  | none => rfl
  | some n =>
    obtain ⟨c, rfl⟩ := h n hcolor
    exact withoutColors_of_code (behindCode?_colorOn c rest)

/-- Of a text that is printed on lines of its own the text is shown, and then what is printed behind it. -/
theorem shownLines_printed {style : PrintStyle} (hstyle : style.Known) (hending : style.ending = "\n") (body : String)
    (rest : List Char) :
    shownLines ((style.opening ++ body ++ style.closing).toList ++ rest) =
      shownLines body.toList ++ shownLines rest := by
  have hopened : shownLines ((style.opening ++ body ++ style.closing).toList ++ rest) =
      shownLines (body.toList ++ (style.closing.toList ++ rest)) := by
    unfold shownLines
    rw [String.toList_append, String.toList_append, List.append_assoc, List.append_assoc,
      withoutColors_opening hstyle]
  rw [hopened, ← shownLines_append_lineFeed]
  unfold PrintStyle.closing
  rw [hending]
  split
  · -- the code behind the text is taken out up to the line feed
    unfold shownLines
    have hoff : withoutColors ((colorOff ++ "\n").toList ++ rest) = withoutColors ('\n' :: rest) :=
      withoutColors_of_code rfl
    have hcode : ∃ more, (colorOff ++ "\n").toList ++ rest = '\x1b' :: more := ⟨_, rfl⟩
    obtain ⟨more, hmore⟩ := hcode
    rw [hmore] at hoff ⊢
    rw [withoutColors_append_cons endsCode_escape, hoff, ← withoutColors_append_cons endsCode_lineFeed]
  · rfl

end BuildScript
