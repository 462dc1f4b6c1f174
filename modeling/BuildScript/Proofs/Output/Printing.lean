import BuildScript.Output
import BuildScript.Proofs.Text.Wrapping
import BuildScript.Proofs.Traversal

/-!
Printing in lines of a positive width. It never comes to an error, whatever the bullet and the indent
(`print_bulleted`, `print_ok`). Each paragraph bears its bullet in front of its first line, and in front of
each later line that is taken for the first: one that equals it, and the last line if the first begins with
it. So the bullets stand at the first lines alone exactly if no paragraph has such a line (`Repeats`).
-/

namespace BuildScript

open Text (Line Margins isLineBreak lines wrapChars)

/-! ## Lines that hold no line break -/

/-- No character of the text ends a line. -/
def Unbroken (cs : List Char) : Prop := ∀ c ∈ cs, isLineBreak c = false

namespace Text

theorem lines_cons {c : Char} (hc : isLineBreak c = false) (rest : List Char) :
    lines (c :: rest) = match lines rest with
      | [] => [⟨[c], []⟩]
      | l :: ls => l.cons c :: ls := by
  have hreturn : c ≠ '\x0d' := by
    rintro rfl
    revert hc
    decide
  rw [lines]
  · rw [hc]
    rfl
  · rintro rest' rfl
    exact absurd rfl hreturn

theorem lines_of_unbroken {cs : List Char} (hne : cs ≠ []) (h : Unbroken cs) : lines cs = [⟨cs, []⟩] := by
  induction cs with
  | nil => exact absurd rfl hne
  | cons c rest ih =>
    obtain ⟨hc, hrest⟩ := List.forall_mem_cons.mp h
    rw [lines_cons hc]
    cases rest with
    | nil => rfl
    | cons d rest =>
      rw [ih (List.cons_ne_nil d rest) hrest]
      rfl

theorem lines_append_lineFeed {cs : List Char} (h : Unbroken cs) (rest : List Char) :
    lines (cs ++ '\n' :: rest) = ⟨cs, ['\n']⟩ :: lines rest := by
  induction cs with
  | nil => rfl
  | cons c cs ih =>
    obtain ⟨hc, hcs⟩ := List.forall_mem_cons.mp h
    rw [List.cons_append, lines_cons hc, ih hcs]
    rfl

/-- No line of a text holds a line break. -/
theorem unbroken_body {cs : List Char} : ∀ l ∈ lines cs, Unbroken l.body := by
  fun_induction lines cs with
  | case1 => exact List.forall_mem_nil _
  | case2 rest ih => exact List.forall_mem_cons.mpr ⟨List.forall_mem_nil _, ih⟩
  | case3 c rest _ hbreak ih => exact List.forall_mem_cons.mpr ⟨List.forall_mem_nil _, ih⟩
  | case4 c rest _ hbreak hnil ih =>
    refine List.forall_mem_cons.mpr ⟨?_, List.forall_mem_nil _⟩
    exact List.forall_mem_cons.mpr ⟨by simpa using hbreak, List.forall_mem_nil _⟩
  | case5 c rest _ hbreak l ls hcons ih =>
    rw [hcons] at ih
    obtain ⟨hl, hls⟩ := List.forall_mem_cons.mp ih
    refine List.forall_mem_cons.mpr ⟨?_, hls⟩
    exact List.forall_mem_cons.mpr ⟨by simpa using hbreak, hl⟩

end Text

theorem not_mem_of_unbroken {cs : List Char} (h : Unbroken cs) : '\n' ∉ cs := by
  intro hmem
  have := h '\n' hmem
  revert this
  decide

/-- A text without the separator begins another one if it begins what is in front of the separator. -/
theorem prefix_append_cons_iff {α : Type} {a : α} {l front back : List α} (hl : a ∉ l) :
    l <+: front ++ a :: back ↔ l <+: front := by
  induction front generalizing l with
  | nil =>
    cases l with
    | nil => simp
    | cons b l =>
      have hne : b ≠ a := fun hab => hl (by simp [hab])
      simp [List.cons_prefix_cons, hne]
  | cons c front ih =>
    cases l with
    | nil => simp
    | cons b l =>
      rw [List.cons_append, List.cons_prefix_cons, List.cons_prefix_cons,
        ih fun hal => hl (List.mem_cons_of_mem b hal)]

/-- With the separator behind it, it has to be all that is in front. -/
theorem concat_prefix_append_cons_iff {α : Type} {a : α} {l front back : List α} (hl : a ∉ l)
    (hfront : a ∉ front) : l ++ [a] <+: front ++ a :: back ↔ l = front := by
  induction front generalizing l with
  | nil =>
    cases l with
    | nil => simp
    | cons b l =>
      have hne : b ≠ a := fun hab => hl (by simp [hab])
      simp [List.cons_prefix_cons, hne]
  | cons c front ih =>
    cases l with
    | nil =>
      have hne : a ≠ c := fun hac => hfront (by simp [hac])
      simp [List.cons_prefix_cons, hne]
    | cons b l =>
      rw [List.cons_append, List.cons_append, List.cons_prefix_cons, List.cons.injEq,
        ih (fun hal => hl (List.mem_cons_of_mem b hal))
          fun haf => hfront (List.mem_cons_of_mem c haf)]

/-! ## A paragraph -/

/-- The lines behind the first one, with the bullet in front of each that equals it, and of the last if the
first one begins with it. -/
def marked (bullet first : List Char) : List (List Char) → List (List Char)
  | [] => []
  | [l] => [if l <+: first then bullet ++ l else l]
  | l :: more => (if l = first then bullet ++ l else l) :: marked bullet first more

/-- The lines of a paragraph with their bullets. -/
def bulleted (bullet : List Char) : List (List Char) → List (List Char)
  | [] => []
  | first :: later => (bullet ++ first) :: marked bullet first later

/-- The lines of a paragraph with a bullet in front of the first one alone. -/
def bulletedOnce (bullet : List Char) : List (List Char) → List (List Char)
  | [] => []
  | first :: later => (bullet ++ first) :: later

/-- A later line of the paragraph is taken for the first: it equals it, or it is the last one and the first
begins with it. -/
def Repeats : List (List Char) → Prop
  | [] => False
  | first :: later => first ∈ later ∨ ∃ l, later.getLast? = some l ∧ l <+: first

theorem marked_cons_of_ne_nil {bullet first l : List Char} {more : List (List Char)} (h : more ≠ []) :
    marked bullet first (l :: more) =
      (if l = first then bullet ++ l else l) :: marked bullet first more := by
  obtain ⟨l', more, rfl⟩ := List.exists_cons_of_ne_nil h
  rfl

theorem marked_ne_nil {bullet first : List Char} {later : List (List Char)} (h : later ≠ []) :
    marked bullet first later ≠ [] := by
  obtain ⟨l, more, rfl⟩ := List.exists_cons_of_ne_nil h
  cases more <;> exact List.cons_ne_nil _ _

/-- The lines of a paragraph as they stand below each other. -/
def page (ls : List (List Char)) : List Char := ['\n'].intercalate ls

theorem page_cons_of_ne_nil (l : List Char) {more : List (List Char)} (h : more ≠ []) :
    page (l :: more) = l ++ '\n' :: page more := by
  rw [page, List.intercalate_cons_of_ne_nil h, List.append_assoc]
  rfl

/-- The line with the bullet if the text starts with it. -/
def markLine (bullet whole l : List Char) : List Char :=
  if l <+: whole then bullet ++ l else l

theorem markLines_eq (bullet : String) (whole : List Char) :
    markLines bullet whole = (lines whole).flatMap fun l => markLine bullet.toList whole l.chars := by
  simp only [markLines, List.flatMap_map, List.isPrefixOf_iff_prefix]
  rfl

/-- The marks behind the first line: a line with a break behind it starts the text only if it is the first
one, and the last line has no break. -/
theorem flatMap_markLine {bullet first whole : List Char}
    (hlast : ∀ l, Unbroken l → (l <+: whole ↔ l <+: first))
    (hinner : ∀ l, Unbroken l → (l ++ ['\n'] <+: whole ↔ l = first))
    {later : List (List Char)} (h : ∀ l ∈ later, l ≠ [] ∧ Unbroken l) :
    (lines (page later)).flatMap (fun l => markLine bullet whole l.chars) =
      page (marked bullet first later) := by
  induction later with
  | nil => rfl
  | cons l more ih =>
    obtain ⟨⟨hne, hl⟩, hmore⟩ := List.forall_mem_cons.mp h
    by_cases hnil : more = []
    · subst hnil
      have hsingle : page [l] = l := List.intercalate_singleton
      rw [hsingle, Text.lines_of_unbroken hne hl, List.flatMap_singleton, marked, page,
        List.intercalate_singleton]
      simp only [markLine, Line.chars, List.append_nil, hlast l hl]
    · rw [page_cons_of_ne_nil l hnil, Text.lines_append_lineFeed hl, List.flatMap_cons, ih hmore,
        marked_cons_of_ne_nil hnil, page_cons_of_ne_nil _ (marked_ne_nil hnil)]
      simp only [markLine, Line.chars, hinner l hl]
      split <;> simp

/-- The bullets of a paragraph stand at its first line and at those that are taken for it. -/
theorem markLines_page (bullet : String) {ls : List (List Char)}
    (h : ∀ l ∈ ls, l ≠ [] ∧ Unbroken l) :
    markLines bullet (page ls) = page (bulleted bullet.toList ls) := by
  rw [markLines_eq]
  cases ls with
  | nil => rfl
  | cons first later =>
    obtain ⟨⟨hne, hfirst⟩, hlater⟩ := List.forall_mem_cons.mp h
    by_cases hnil : later = []
    · subst hnil
      have hsingle : page [first] = first := List.intercalate_singleton
      rw [hsingle, Text.lines_of_unbroken hne hfirst, List.flatMap_singleton, bulleted, marked, page,
        List.intercalate_singleton]
      simp [markLine, Line.chars]
    · have hwhole := page_cons_of_ne_nil first hnil
      have hfirstBreak := not_mem_of_unbroken hfirst
      have hlast (l : List Char) (hl : Unbroken l) : l <+: page (first :: later) ↔ l <+: first := by
        rw [hwhole]
        exact prefix_append_cons_iff (not_mem_of_unbroken hl)
      have hinner (l : List Char) (hl : Unbroken l) :
          l ++ ['\n'] <+: page (first :: later) ↔ l = first := by
        rw [hwhole]
        exact concat_prefix_append_cons_iff (not_mem_of_unbroken hl) hfirstBreak
      rw [hwhole, Text.lines_append_lineFeed hfirst, List.flatMap_cons, ← hwhole,
        flatMap_markLine hlast hinner hlater, bulleted, page_cons_of_ne_nil _ (marked_ne_nil hnil)]
      have hstart : first ++ ['\n'] <+: first ++ '\n' :: page later :=
        (concat_prefix_append_cons_iff hfirstBreak hfirstBreak).mpr rfl
      simp [markLine, Line.chars, hwhole, hstart]

theorem marked_eq_self_iff {bullet first : List Char} (hbullet : bullet ≠ [])
    (later : List (List Char)) :
    marked bullet first later = later ↔ ¬Repeats (first :: later) := by
  have hmark (l : List Char) : bullet ++ l ≠ l := by
    simpa using hbullet
  induction later with
  | nil => simp [marked, Repeats]
  | cons l more ih =>
    cases more with
    | nil =>
      rw [marked]
      by_cases hl : l <+: first
      · simp [Repeats, hl, hmark]
      · have hne : first ≠ l := by
          rintro rfl
          exact hl List.prefix_rfl
        simp [Repeats, hl, hne]
    | cons l' more =>
      rw [marked_cons_of_ne_nil (List.cons_ne_nil l' more), List.cons.injEq]
      refine (and_congr_right' ih).trans ?_
      by_cases hl : l = first
      · subst hl
        simp [Repeats, hmark]
      · have hmem : first ∈ l :: l' :: more ↔ first ∈ l' :: more :=
          List.mem_cons.trans (or_iff_right fun h => hl h.symm)
        simp only [Repeats, hl, if_false, true_and, hmem, List.getLast?_cons_cons]

/-- Each bullet stands at the first line exactly if no other line is taken for it. -/
theorem bulleted_eq_iff {bullet : List Char} (hbullet : bullet ≠ []) (ls : List (List Char)) :
    bulleted bullet ls = bulletedOnce bullet ls ↔ ¬Repeats ls := by
  cases ls with
  | nil => simp [bulleted, bulletedOnce, Repeats]
  | cons first later =>
    rw [bulleted, bulletedOnce, List.cons.injEq, marked_eq_self_iff hbullet]
    exact and_iff_right rfl

/-! ## Texts of pieces that are not shorter -/

theorem length_intercalate_le {sep : List Char} {xs ys : List (List Char)}
    (h : List.Forall₂ (fun x y => x.length ≤ y.length) xs ys) :
    (sep.intercalate xs).length ≤ (sep.intercalate ys).length := by
  induction h with
  | nil => exact Nat.le_refl _
  | cons hlength hrest ih =>
    cases hrest with
    | nil => simpa using hlength
    | cons =>
      simp only [List.intercalate_cons_cons, List.length_append] at ih ⊢
      omega

/-- Pieces that are not shorter make up the same text only if they are the same. -/
theorem eq_of_intercalate_eq {sep : List Char} {xs ys : List (List Char)}
    (h : List.Forall₂ (fun x y => x.length ≤ y.length) xs ys)
    (heq : sep.intercalate xs = sep.intercalate ys) : xs = ys := by
  induction h with
  | nil => rfl
  | @cons x y xs ys hlength hrest ih =>
    have hle : (sep.intercalate xs).length ≤ (sep.intercalate ys).length := length_intercalate_le hrest
    cases hrest with
    | nil => simpa using heq
    | cons =>
      rw [List.intercalate_cons_cons, List.intercalate_cons_cons, List.append_assoc,
        List.append_assoc] at heq
      have hlengths := congrArg List.length heq
      simp only [List.length_append] at hlengths
      obtain ⟨rfl, htail⟩ := List.append_inj heq (by omega)
      rw [ih (List.append_cancel_left htail)]

theorem length_le_marked (bullet first : List Char) (later : List (List Char)) :
    List.Forall₂ (fun x y => x.length ≤ y.length) later (marked bullet first later) := by
  induction later with
  | nil => exact .nil
  | cons l more ih =>
    cases more with
    | nil =>
      refine .cons ?_ .nil
      split <;> simp
    | cons l' more =>
      refine .cons ?_ ih
      split <;> simp

theorem length_le_bulleted (bullet : List Char) (ls : List (List Char)) :
    List.Forall₂ (fun x y => x.length ≤ y.length) (bulletedOnce bullet ls) (bulleted bullet ls) := by
  cases ls with
  | nil => exact .nil
  | cons first later => exact .cons (Nat.le_refl _) (length_le_marked bullet first later)

/-! ## Printing -/

namespace PrintStyle

/-- What is printed before the text. -/
def opening (style : PrintStyle) : String := (style.color.map colorOn).getD ""

/-- What is printed behind the text. -/
def closing (style : PrintStyle) : String := (if style.color.isSome then colorOff else "") ++ style.ending

/-- The margins of the paragraphs. -/
def margins (style : PrintStyle) (width : Int) : Margins :=
  { width, restIndent := List.replicate style.wrapIndent.toNat ' ' }

end PrintStyle

/-- The text of paragraphs below each other. -/
def pages (paragraphs : List (List (List Char))) : String :=
  String.ofList (['\n'].intercalate (paragraphs.map page))

/-- The bullets stand at the first lines alone exactly if no paragraph repeats its first line. -/
theorem pages_bulleted_eq_iff {bullet : List Char} (hbullet : bullet ≠ [])
    (paragraphs : List (List (List Char))) :
    pages (paragraphs.map (bulleted bullet)) = pages (paragraphs.map (bulletedOnce bullet)) ↔
      ∀ ls ∈ paragraphs, ¬Repeats ls := by
  constructor
  · intro heq ls hls
    -- a bullet too many makes a paragraph longer, and none is shorter for it
    have hlength : List.Forall₂ (fun x y => x.length ≤ y.length)
        ((paragraphs.map (bulletedOnce bullet)).map page)
        ((paragraphs.map (bulleted bullet)).map page) := by
      simp only [List.forall₂_map_left_iff, List.forall₂_map_right_iff, List.forall₂_same]
      exact fun ls _ => length_intercalate_le (length_le_bulleted bullet ls)
    have hpages := eq_of_intercalate_eq hlength (String.ofList_injective heq.symm)
    rw [List.map_map, List.map_map] at hpages
    have hpage : page (bulletedOnce bullet ls) = page (bulleted bullet ls) :=
      List.map_inj_left.mp hpages ls hls
    exact (bulleted_eq_iff hbullet ls).mp
      (eq_of_intercalate_eq (length_le_bulleted bullet ls) hpage).symm
  · intro hall
    rw [List.map_congr_left fun ls hls => (bulleted_eq_iff hbullet ls).mpr (hall ls hls)]

/-- Each line of an unbroken text, wrapped, is unbroken and not empty. -/
theorem exists_wrapped (style : PrintStyle) {width : Int} (hwidth : 0 < width) {cs : List Char}
    (h : Unbroken cs) :
    ∃ ls, wrapChars (style.margins width) cs = .ok ls ∧ ∀ l ∈ ls, l ≠ [] ∧ Unbroken l := by
  have hspace : isLineBreak ' ' = false := by decide
  obtain ⟨ls, hls, hall⟩ := Text.exists_wrapChars (m := style.margins width) hwidth rfl cs
  refine ⟨ls, hls, fun l hl => ⟨(hall l hl).1, fun x hx => ?_⟩⟩
  rcases (hall l hl).2 x hx with rfl | hmem | hindent
  · exact hspace
  · exact h x hmem
  · rwa [List.eq_of_mem_replicate hindent]

theorem paragraph_eq {style : PrintStyle} {width : Int} {cs : List Char} {ls : List (List Char)}
    (hls : wrapChars (style.margins width) cs = .ok ls) (hall : ∀ l ∈ ls, l ≠ [] ∧ Unbroken l) :
    paragraph style width cs =
      .ok (page (if style.bullet = "" then ls else bulleted style.bullet.toList ls)) := by
  have hwrap : paragraph style width cs =
      .ok (if style.bullet = "" then page ls else markLines style.bullet (page ls)) := by
    unfold PrintStyle.margins at hls
    unfold paragraph
    dsimp only
    rw [hls]
    rfl
  rw [hwrap, markLines_page style.bullet hall]
  split <;> rfl

/-- A text is laid out in its paragraphs, whatever is to stand in front of their lines. -/
theorem exists_layText (style : PrintStyle) {width : Int} (hwidth : 0 < width) (joined : String) :
    ∃ paragraphs,
      List.Forall₂ (fun l ls => wrapChars (style.margins width) l.body = .ok ls) (lines joined.toList)
        paragraphs ∧
      layText style (some width) joined = .ok (pages (paragraphs.map fun ls =>
        if style.bullet = "" then ls else bulleted style.bullet.toList ls)) := by
  have hwrapped : ∀ l ∈ lines joined.toList, ∃ ls, wrapChars (style.margins width) l.body = .ok ls ∧
      ∀ l' ∈ ls, l' ≠ [] ∧ Unbroken l' :=
    fun l hl => exists_wrapped style hwidth (Text.unbroken_body l hl)
  obtain ⟨paragraphs, hall⟩ := exists_forall₂ hwrapped
  refine ⟨paragraphs, hall.imp fun _ _ h => h.1, ?_⟩
  have hparagraphs : (lines joined.toList).mapM (fun l => paragraph style width l.body) =
      .ok (paragraphs.map fun ls =>
        page (if style.bullet = "" then ls else bulleted style.bullet.toList ls)) :=
    (mapM_eq_ok_iff _ _ _).mpr
      (List.forall₂_map_right_iff.mpr (hall.imp fun _ _ h => paragraph_eq h.1 h.2))
  unfold layText
  dsimp only
  rw [hparagraphs, pages, List.map_map]
  rfl

theorem print_of_layText {columns : Int} {style : PrintStyle} {args : List String} {width : Option Int}
    {body : String} (hbody : layText style width (style.separator.intercalate args) = .ok body)
    (hwidth : (style.width.map fun w => if w = 0 then terminalWidth columns else w) = width) :
    print columns style args = ⟨style.opening ++ body ++ style.closing, none⟩ := by
  unfold print
  rw [hwidth]
  simp only [hbody, PrintStyle.opening, PrintStyle.closing, String.append_assoc]

theorem terminalWidth_pos (columns : Int) : 0 < terminalWidth columns := by
  unfold terminalWidth
  split
  · assumption
  · decide

/-- Printing in the width of a terminal is never an error. -/
theorem print_ok (columns : Int) {style : PrintStyle} (hwidth : style.width = some 0)
    (args : List String) : (print columns style args).error = none := by
  obtain ⟨paragraphs, -, hbody⟩ := exists_layText style (terminalWidth_pos columns)
    (style.separator.intercalate args)
  rw [print_of_layText hbody (by simp [hwidth])]

/-- Printing with a bullet in a positive width prints each paragraph with the bullet in front of its first
line, and of each that is taken for it. This is the text with a bullet in front of the first line of each
paragraph alone exactly if no paragraph repeats its first line. -/
theorem print_bulleted (columns : Int) {style : PrintStyle} {width : Int}
    (hwidth : style.width = some width) (hpos : 0 < width) (hbullet : style.bullet ≠ "")
    (args : List String) :
    ∃ paragraphs,
      List.Forall₂ (fun l ls => wrapChars (style.margins width) l.body = .ok ls)
        (lines (style.separator.intercalate args).toList) paragraphs ∧
      print columns style args =
        ⟨style.opening ++ pages (paragraphs.map (bulleted style.bullet.toList)) ++ style.closing,
          none⟩ ∧
      (pages (paragraphs.map (bulleted style.bullet.toList)) =
          pages (paragraphs.map (bulletedOnce style.bullet.toList)) ↔
        ∀ ls ∈ paragraphs, ¬Repeats ls) := by
  obtain ⟨paragraphs, hall, hbody⟩ := exists_layText style hpos (style.separator.intercalate args)
  simp only [hbullet, if_false] at hbody
  refine ⟨paragraphs, hall, ?_, ?_⟩
  · refine print_of_layText hbody ?_
    rw [hwidth, Option.map_some, if_neg (by omega)]
  · exact pages_bulleted_eq_iff (by simpa using hbullet) paragraphs

/-- A star in front of each paragraph, in lines of one letter. -/
def starred : PrintStyle := { bullet := "*", width := some 1 }

theorem print_bulleted_letters :
    starred.width = some 1 ∧ (0 : Int) < 1 ∧ starred.bullet ≠ "" ∧
      ∃ paragraphs,
        List.Forall₂ (fun l ls => wrapChars (starred.margins 1) l.body = .ok ls)
          (lines (starred.separator.intercalate ["a b a"]).toList) paragraphs ∧
        print 80 starred ["a b a"] =
          ⟨starred.opening ++ pages (paragraphs.map (bulleted starred.bullet.toList)) ++
            starred.closing, none⟩ ∧
        (pages (paragraphs.map (bulleted starred.bullet.toList)) =
            pages (paragraphs.map (bulletedOnce starred.bullet.toList)) ↔
          ∀ ls ∈ paragraphs, ¬Repeats ls) :=
  ⟨rfl, by decide, by decide, print_bulleted 80 rfl (by decide) (by decide) ["a b a"]⟩

/-- The third line of this paragraph bears a bullet, as it equals the first. -/
theorem print_bullet_repeated :
    wrapChars (starred.margins 1) "a b a".toList = .ok [['a'], ['b'], ['a']] ∧
      print 80 starred ["a b a"] = ⟨"*a\nb\n*a\n", none⟩ := by
  decide +kernel

end BuildScript
