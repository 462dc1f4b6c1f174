import BuildScript.Help
import BuildScript.Proofs.Output.Entries
import BuildScript.Proofs.Output.Shown
import BuildScript.Proofs.Registry.Catalogue

/-!
How wide the help on a registry is. A paragraph is cut to the width first, and its bullet is put in front of
it afterwards, so its lines fit exactly if those that bear the bullet leave room for it
(`paragraph_fits_iff`). What is printed one after the other fits if each of it does (`Fitting`). Main
statement: `help_fits_iff`, that the help on every registry is printed on lines that are no longer than the
width and a bullet, and on lines of at most the width exactly if each text leaves room for its bullet. A
description as long as the width does not (`help_exceeds`).
-/

namespace BuildScript

open Text (lines wrapChars)

/-! ## The lines that bear a bullet -/

/-- A line of a paragraph bears its bullet: the first one does, and the last one if the first begins with it. -/
def BearsBullet (ls : List (List Char)) (x : List Char) : Prop :=
  ls.head? = some x ∨ ls.getLast? = some x ∧ ∃ first, ls.head? = some first ∧ x <+: first

section Bullet

variable {bullet first x : List Char} {later ls : List (List Char)}

theorem bulleted_nil (ls : List (List Char)) : bulleted [] ls = ls := by
  have hmarked (first : List Char) (later : List (List Char)) : marked [] first later = later := by
    fun_induction marked [] first later with
    | case1 => rfl
    | case2 l => simp
    | case3 l more hne ih => simp [ih]
  cases ls with
  | nil => rfl
  | cons first later => rw [bulleted, hmarked, List.nil_append]

theorem mem_of_mem_marked (h : x ∈ marked bullet first later) :
    (∃ l, (l = first ∨ later.getLast? = some l ∧ l <+: first) ∧ x = bullet ++ l) ∨ x ∈ later := by
  induction later with
  | nil => cases h
  | cons l more ih =>
    by_cases hnil : more = []
    · subst hnil
      rw [marked, List.mem_singleton] at h
      split at h
      · rename_i hstart
        exact .inl ⟨l, .inr ⟨rfl, hstart⟩, h⟩
      · exact .inr (List.mem_singleton.mpr h)
    · -- a line that others follow is marked only if it is the first one again
      rw [marked_cons_of_ne_nil hnil] at h
      rcases List.mem_cons.mp h with h | h
      · split at h
        · rename_i hfirst
          exact .inl ⟨l, .inl hfirst, h⟩
        · exact .inr (h ▸ List.mem_cons_self)
      · rcases ih h with ⟨l', hl', hx⟩ | hmem
        · have hlast : (l :: more).getLast? = more.getLast? := List.getLast?_cons_of_ne_nil hnil
          rw [← hlast] at hl'
          exact .inl ⟨l', hl', hx⟩
        · exact .inr (List.mem_cons_of_mem l hmem)

theorem mem_marked_of_last (hlast : later.getLast? = some x) (hstart : x <+: first) :
    bullet ++ x ∈ marked bullet first later := by
  induction later with
  | nil => cases hlast
  | cons l more ih =>
    by_cases hnil : more = []
    · subst hnil
      obtain rfl : l = x := Option.some.inj hlast
      rw [marked, if_pos hstart]
      exact List.mem_singleton_self _
    · rw [marked_cons_of_ne_nil hnil]
      rw [List.getLast?_cons_of_ne_nil hnil] at hlast
      exact List.mem_cons_of_mem _ (ih hlast)

theorem mem_bulleted (h : BearsBullet ls x) : bullet ++ x ∈ bulleted bullet ls := by
  cases ls with
  | nil => exact absurd h (by simp [BearsBullet])
  | cons first later =>
    rw [bulleted]
    rcases h with hfirst | ⟨hlast, first', hfirst, hstart⟩
    · obtain rfl : first = x := Option.some.inj hfirst
      exact List.mem_cons_self
    · obtain rfl : first = first' := Option.some.inj hfirst
      by_cases hnil : later = []
      · subst hnil
        obtain rfl : first = x := Option.some.inj hlast
        exact List.mem_cons_self
      · rw [List.getLast?_cons_of_ne_nil hnil] at hlast
        exact List.mem_cons_of_mem _ (mem_marked_of_last hlast hstart)

/-- Every line with a bullet is one that bears it, and the others are as they were. -/
theorem bearsBullet_or_mem (h : x ∈ bulleted bullet ls) :
    (∃ l, BearsBullet ls l ∧ x = bullet ++ l) ∨ x ∈ ls := by
  cases ls with
  | nil => cases h
  | cons first later =>
    rw [bulleted] at h
    rcases List.mem_cons.mp h with rfl | h
    · exact .inl ⟨first, .inl rfl, rfl⟩
    · rcases mem_of_mem_marked h with ⟨l, rfl | ⟨hlast, hstart⟩, rfl⟩ | hmem
      · exact .inl ⟨l, .inl rfl, rfl⟩
      · refine .inl ⟨l, .inr ⟨?_, first, rfl, hstart⟩, rfl⟩
        rw [List.getLast?_cons, hlast]
        rfl
      · exact .inr (List.mem_cons_of_mem first hmem)

theorem mem_of_bearsBullet (h : BearsBullet ls x) : x ∈ ls := by
  rcases h with hfirst | ⟨hlast, -⟩
  · exact List.mem_of_mem_head? hfirst
  · exact List.mem_of_getLast? hlast

end Bullet

/-! ## Paragraphs -/

theorem forall_paragraphLines_iff {P : List Char → Prop} (hnil : P []) (ls : List (List Char)) :
    (∀ l ∈ paragraphLines ls, P l) ↔ ∀ l ∈ ls, P (withoutColors l) := by
  unfold paragraphLines
  split
  · rename_i h
    simp [h, hnil]
  · exact List.forall_mem_map

theorem forall_pagesLines_iff {P : List Char → Prop} (hnil : P []) (paragraphs : List (List (List Char))) :
    (∀ l ∈ pagesLines paragraphs, P l) ↔ ∀ ls ∈ paragraphs, ∀ l ∈ ls, P (withoutColors l) := by
  unfold pagesLines
  split
  · rename_i h
    simp [h, hnil]
  · simp only [List.forall_mem_flatMap, forall_paragraphLines_iff hnil]

section Paragraph

variable {bullet : List Char} {width : Int} {ls : List (List Char)}

theorem length_withoutColors_le {l : List Char} (h : (l.length : Int) ≤ width) :
    ((withoutColors l).length : Int) ≤ width := by
  have hle := (withoutColors_sublist l).length_le
  omega

/-- A line with a bullet is not longer than the width and the bullet. -/
theorem length_bulleted_le (hescape : '\x1b' ∉ bullet) (hls : ∀ l ∈ ls, (l.length : Int) ≤ width) :
    ∀ l ∈ bulleted bullet ls, ((withoutColors l).length : Int) ≤ width + bullet.length := by
  intro l hl
  rcases bearsBullet_or_mem hl with ⟨x, hx, rfl⟩ | hmem
  · have hle := length_withoutColors_le (hls x (mem_of_bearsBullet hx))
    rw [withoutColors_append_of_not_mem hescape, List.length_append]
    omega
  · have hle := length_withoutColors_le (hls l hmem)
    omega

/-- The lines of a paragraph with a bullet fit exactly if those that bear it leave room for it. -/
theorem paragraph_fits_iff (hescape : '\x1b' ∉ bullet) (hls : ∀ l ∈ ls, (l.length : Int) ≤ width) :
    (∀ l ∈ bulleted bullet ls, ((withoutColors l).length : Int) ≤ width) ↔
      ∀ x, BearsBullet ls x → (bullet.length + (withoutColors x).length : Int) ≤ width := by
  have hlength (x : List Char) :
      ((withoutColors (bullet ++ x)).length : Int) = bullet.length + (withoutColors x).length := by
    rw [withoutColors_append_of_not_mem hescape, List.length_append, Int.natCast_add]
  constructor
  · intro hfits x hx
    rw [← hlength]
    exact hfits _ (mem_bulleted hx)
  · intro hroom l hl
    rcases bearsBullet_or_mem hl with ⟨x, hx, rfl⟩ | hmem
    · rw [hlength]
      exact hroom x hx
    · exact length_withoutColors_le (hls l hmem)

end Paragraph

/-- Each line of the text, when it is wrapped, leaves room for the bullet on those lines that bear it. -/
def BulletFits (bullet : String) (indent : Nat) (width : Int) (text : String) : Prop :=
  ∀ l ∈ lines text.toList, ∀ ls, wrapChars { width, restIndent := List.replicate indent ' ' } l.body = .ok ls →
    ∀ x, BearsBullet ls x → (bullet.length + (withoutColors x).length : Int) ≤ width

/-! ## What is printed one after the other -/

/-- What is printed comes to a text whose lines are no longer than the width and a bullet of six letters, and no longer
than the width exactly if the condition holds. -/
def Fitting (columns width : Int) (items : List (PrintStyle × List String)) (condition : Prop) : Prop :=
  ∃ text ls, Prints columns items text ∧ (∀ rest, shownLines (text.toList ++ rest) = ls ++ shownLines rest) ∧
    (∀ l ∈ ls, (l.length : Int) ≤ width + 6) ∧ ((∀ l ∈ ls, (l.length : Int) ≤ width) ↔ condition)

namespace Fitting

variable {columns width : Int} {items items' : List (PrintStyle × List String)} {condition condition' : Prop}

theorem nil : Fitting columns width [] True :=
  ⟨"", [], .nil columns, fun _ => rfl, List.forall_mem_nil _, iff_of_true (List.forall_mem_nil _) trivial⟩

theorem congr (h : Fitting columns width items condition) (hiff : condition ↔ condition') :
    Fitting columns width items condition' := by
  obtain ⟨text, ls, hprints, hshown, hlength, hfits⟩ := h
  exact ⟨text, ls, hprints, hshown, hlength, hfits.trans hiff⟩

theorem append (h : Fitting columns width items condition) (h' : Fitting columns width items' condition') :
    Fitting columns width (items ++ items') (condition ∧ condition') := by
  obtain ⟨text, ls, hprints, hshown, hlength, hfits⟩ := h
  obtain ⟨text', ls', hprints', hshown', hlength', hfits'⟩ := h'
  refine ⟨text ++ text', ls ++ ls', hprints.append hprints', fun rest => ?_, ?_, ?_⟩
  · rw [String.toList_append, List.append_assoc, hshown, hshown', List.append_assoc]
  · exact List.forall_mem_append.mpr ⟨hlength, hlength'⟩
  · rw [List.forall_mem_append, hfits, hfits']

theorem flatMap {α : Type} {f : α → List (PrintStyle × List String)} {fits : α → Prop} {xs : List α}
    (h : ∀ x ∈ xs, Fitting columns width (f x) (fits x)) :
    Fitting columns width (xs.flatMap f) (∀ x ∈ xs, fits x) := by
  induction xs with
  | nil => exact nil.congr (iff_of_true trivial (List.forall_mem_nil _))
  | cons x xs ih =>
    obtain ⟨hx, hxs⟩ := List.forall_mem_cons.mp h
    rw [List.flatMap_cons]
    exact (hx.append (ih hxs)).congr List.forall_mem_cons.symm

end Fitting

/-- A bullet of at most six letters, which are no line feeds and begin no code for a colour. -/
structure IsBullet (bullet : String) : Prop where
  lineFeed : '\n' ∉ bullet.toList
  escape : '\x1b' ∉ bullet.toList
  length_le : bullet.length ≤ 6

theorem isBullet_none : IsBullet "" := ⟨by decide, by decide, by decide⟩

theorem isBullet_set : IsBullet "  " := ⟨by decide, by decide, by decide⟩

theorem isBullet_signature : IsBullet "  - " := ⟨by decide, by decide, by decide⟩

theorem isBullet_about : IsBullet "      " := ⟨by decide, by decide, by decide⟩

section Item

variable {columns width : Int} {style : PrintStyle}

theorem shown_print (hwidth : style.width = some width) (hpos : 0 < lineWidth columns width) (hstyle : style.Known)
    (hending : style.ending = "\n") (hfeed : '\n' ∉ style.bullet.toList) (args : List String) :
    ∃ paragraphs, List.Forall₂ (fun l ls => wrapChars (style.margins (lineWidth columns width)) l.body = .ok ls)
        (lines (style.separator.intercalate args).toList) paragraphs ∧
      ∃ text, print columns style args = ⟨text, none⟩ ∧ ∀ rest, shownLines (text.toList ++ rest) =
        pagesLines (paragraphs.map (bulleted style.bullet.toList)) ++ shownLines rest := by
  obtain ⟨paragraphs, hwrapped, hbody⟩ := exists_layText style hpos (style.separator.intercalate args)
  have hbulleted (ls : List (List Char)) :
      (if style.bullet = "" then ls else bulleted style.bullet.toList ls) = bulleted style.bullet.toList ls := by
    split
    · rename_i hnone
      rw [hnone]
      exact (bulleted_nil ls).symm
    · rfl
  simp only [hbulleted] at hbody
  refine ⟨paragraphs, hwrapped, _, print_of_layText hbody (by rw [hwidth]; rfl), fun rest => ?_⟩
  rw [shownLines_printed hstyle hending, shownLines_pages]
  intro x hx l hl hmem
  obtain ⟨ls, hls, rfl⟩ := List.mem_map.mp hx
  obtain ⟨line, hline, hwrap⟩ := exists_mem_of_forall₂ hwrapped.flip hls
  obtain ⟨ls', hls', hall⟩ := exists_wrapped style hpos (Text.unbroken_body line hline)
  obtain rfl : ls' = ls := Except.ok.inj (hls'.symm.trans hwrap)
  rcases bearsBullet_or_mem hl with ⟨y, hy, rfl⟩ | hmem'
  · rcases List.mem_append.mp hmem with hmem | hmem
    · exact hfeed hmem
    · exact not_mem_of_unbroken (hall y (mem_of_bearsBullet hy)).2 hmem
  · exact not_mem_of_unbroken (hall l hmem').2 hmem

/-- A text that is printed with a bullet fits exactly if it leaves room for it. -/
theorem fitting_print (style : PrintStyle) (hwidth : style.width = some width) (hpos : 0 < lineWidth columns width)
    (hroom : style.wrapIndent < lineWidth columns width) (hstyle : style.Known) (hending : style.ending = "\n")
    (hbullet : IsBullet style.bullet) (args : List String) :
    Fitting columns (lineWidth columns width) [(style, args)]
      (BulletFits style.bullet style.wrapIndent.toNat (lineWidth columns width)
        (style.separator.intercalate args)) := by
  obtain ⟨paragraphs, hwrapped, text, hprint, hshown⟩ :=
    shown_print hwidth hpos hstyle hending hbullet.lineFeed args
  have hroomy : (style.margins (lineWidth columns width)).Roomy := by
    refine ⟨hpos, ?_⟩
    show ((List.replicate style.wrapIndent.toNat ' ').length : Int) < lineWidth columns width
    rw [List.length_replicate]
    omega
  have hlength : ∀ ls ∈ paragraphs, ∀ l ∈ ls, (l.length : Int) ≤ lineWidth columns width := by
    intro ls hls
    obtain ⟨line, -, hwrap⟩ := exists_mem_of_forall₂ hwrapped.flip hls
    exact Text.length_wrapChars_le hroomy hwrap
  have hprints : Prints columns [(style, args)] (text ++ "") := .cons hprint (.nil columns)
  rw [String.append_empty] at hprints
  refine ⟨text, _, hprints, hshown, ?_, ?_⟩
  · -- what wrapping lays fits, and a bullet adds at most its own letters
    rw [forall_pagesLines_iff (show (([] : List Char).length : Int) ≤ lineWidth columns width + 6 by
      rw [List.length_nil]; omega), List.forall_mem_map]
    intro ls hls l hl
    have hle := length_bulleted_le hbullet.escape (hlength ls hls) l hl
    have hsix := hbullet.length_le
    rw [String.length_toList] at hle
    omega
  · rw [forall_pagesLines_iff (show (([] : List Char).length : Int) ≤ lineWidth columns width by
      rw [List.length_nil]; omega), List.forall_mem_map]
    constructor
    · intro hfits l hl ls hls
      obtain ⟨ls', hmem, hls'⟩ := exists_mem_of_forall₂ hwrapped hl
      obtain rfl : ls' = ls := Except.ok.inj (hls'.symm.trans hls)
      exact (paragraph_fits_iff hbullet.escape (hlength ls' hmem)).mp (hfits ls' hmem)
    · intro hroom ls hls
      obtain ⟨line, hline, hwrap⟩ := exists_mem_of_forall₂ hwrapped.flip hls
      exact (paragraph_fits_iff hbullet.escape (hlength ls hls)).mpr (hroom line hline ls hwrap)

end Item

/-! ## The help -/

/-- All that the help says of a set leaves room for its bullets. -/
structure Registry.LeavesRoom (r : Registry) (width : Int) (p : Plugin) : Prop where
  description : BulletFits "  " 0 width p.description
  signature : ∀ d ∈ r.listed (some p.space), BulletFits "  - " 4 width (helpSignature p d)
  about : ∀ d ∈ r.listed (some p.space), BulletFits "      " 0 width d.description

theorem bulletFits_none {width : Int} (hpos : 0 < width) (text : String) : BulletFits "" 0 width text := by
  intro l _ ls hls x hx
  have hroomy : Text.Margins.Roomy { width, restIndent := List.replicate 0 ' ' } := ⟨hpos, hpos⟩
  have hle : (x.length : Int) ≤ width := Text.length_wrapChars_le hroomy hls x (mem_of_bearsBullet hx)
  have hshown := length_withoutColors_le hle
  have hempty : "".length = 0 := rfl
  omega

theorem bulletFits_empty (bullet : String) (indent : Nat) (width : Int) : BulletFits bullet indent width "" := by
  intro l hl
  cases hl

section Help

variable {columns width : Int} (hwidth : 4 < lineWidth columns width)

include hwidth

theorem fitting_functionHelp (p : Plugin) (d : Descriptor) :
    Fitting columns (lineWidth columns width) (functionHelp width p d)
      (BulletFits "  - " 4 (lineWidth columns width) (helpSignature p d) ∧
        BulletFits "      " 0 (lineWidth columns width) d.description) := by
  have hpos : 0 < lineWidth columns width := by omega
  have hplain {bullet : String} {indent : Int} : ({ bullet, wrapIndent := indent, width := some width } :
      PrintStyle).Known := known_of_none rfl
  have hsignature := fitting_print { bullet := "  - ", wrapIndent := 4, width := some width } rfl hpos hwidth hplain rfl
    isBullet_signature [helpSignature p d]
  have habout : Fitting columns (lineWidth columns width)
      (if d.description = "" then [] else [({ bullet := "      ", width := some width }, [d.description])])
      (BulletFits "      " 0 (lineWidth columns width) d.description) := by
    split
    · rename_i hnone
      rw [hnone]
      exact Fitting.nil.congr (iff_of_true trivial (bulletFits_empty _ _ _))
    · exact fitting_print { bullet := "      ", width := some width } rfl hpos hpos hplain rfl isBullet_about
        [d.description]
  exact hsignature.append habout

theorem fitting_setHelp (r : Registry) (p : Plugin) :
    Fitting columns (lineWidth columns width) (setHelp r width p)
      (r.LeavesRoom (lineWidth columns width) p) := by
  have hpos : 0 < lineWidth columns width := by omega
  have hbold : ({ color := some Color.bold.code, width := some width } : PrintStyle).Known :=
    fun n hn => ⟨.bold, (Option.mem_some.mp hn).symm⟩
  have hname := fitting_print { color := some Color.bold.code, width := some width } rfl hpos hpos hbold rfl
    isBullet_none [p.space]
  have hdescription := fitting_print { bullet := "  ", width := some width } rfl hpos hpos (known_of_none rfl) rfl
    isBullet_set [p.description]
  have hend := fitting_print { width := some width } rfl hpos hpos (known_of_none rfl) rfl isBullet_none []
  have hfunctions := Fitting.flatMap fun d (_ : d ∈ r.listed (some p.space)) => fitting_functionHelp hwidth p d
  refine (((hname.append hdescription).append hfunctions).append hend).congr ⟨?_, ?_⟩
  · rintro ⟨⟨⟨-, habout⟩, hall⟩, -⟩
    exact ⟨habout, fun d hd => (hall d hd).1, fun d hd => (hall d hd).2⟩
  · rintro ⟨habout, hsignature, hfunction⟩
    exact ⟨⟨⟨bulletFits_none hpos _, habout⟩, fun d hd => ⟨hsignature d hd, hfunction d hd⟩⟩,
      bulletFits_none hpos _⟩

/-- The help on a registry, for lines that are longer than the indent of signatures, is printed without an
error, and no line of it is longer than the width and its bullet. No line is longer than the width exactly if
each text leaves room for its bullet on the lines that bear it. -/
theorem help_fits_iff (r : Registry) (space : Option String) :
    (r.help columns space width).error = none ∧
      (∀ l ∈ shownLines (r.help columns space width).text.toList,
        (l.length : Int) ≤ lineWidth columns width + 6) ∧
      ((∀ l ∈ shownLines (r.help columns space width).text.toList, (l.length : Int) ≤ lineWidth columns width) ↔
        ∀ p ∈ r.sortedSets space, r.LeavesRoom (lineWidth columns width) p) := by
  obtain ⟨text, ls, hprints, hshown, hlength, hfits⟩ :=
    Fitting.flatMap fun p (_ : p ∈ r.sortedSets space) => fitting_setHelp hwidth r p
  have hhelp : r.help columns space width = ⟨text, none⟩ := hprints
  have hlines : shownLines text.toList = ls ++ [[]] := by
    have hend := hshown []
    rwa [List.append_nil, shownLines_nil] at hend
  have hlast (n : Int) (hn : 0 ≤ n) : ∀ l ∈ ([[]] : List (List Char)), (l.length : Int) ≤ n :=
    List.forall_mem_singleton.mpr hn
  rw [hhelp, hlines]
  refine ⟨rfl, List.forall_mem_append.mpr ⟨hlength, hlast _ (by omega)⟩, ?_⟩
  rw [List.forall_mem_append, hfits]
  exact and_iff_left (hlast _ (by omega))

end Help

/-- A class without functions, with a description of twenty letters. -/
def keeperClass : SetClass :=
  { id := 1, name := "Keeper", file := .ok "", space := .text "keeper"
    doc := some "Keeps some counters.", entries := []
    attributes := .empty, construct := fun _ => .ok .empty }

/-- The plugin of the class. -/
def keeperPlugin : CheckedPlugin :=
  ⟨{ id := 1, space := "keeper", cls := keeperClass, description := "Keeps some counters.", descriptors := [] },
    1, none, .set keeperClass, by rfl⟩

/-- So it is with this set alone, on lines of twenty characters. -/
theorem help_fits_iff_keeper :
    let r := Registry.ofChanges [.register keeperPlugin]
    4 < lineWidth 0 20 ∧ (r.help 0 none 20).error = none ∧
      (∀ l ∈ shownLines (r.help 0 none 20).text.toList, (l.length : Int) ≤ lineWidth 0 20 + 6) ∧
      ((∀ l ∈ shownLines (r.help 0 none 20).text.toList, (l.length : Int) ≤ lineWidth 0 20) ↔
        ∀ p ∈ r.sortedSets none, r.LeavesRoom (lineWidth 0 20) p) :=
  ⟨by decide, help_fits_iff (by decide) (Registry.ofChanges [.register keeperPlugin]) none⟩

/-- A description of twenty letters does not leave room for its bullet on lines of twenty characters. -/
theorem help_exceeds :
    let r := Registry.ofChanges [.register keeperPlugin]
    lineWidth 0 20 = 20 ∧ ∃ l ∈ shownLines (r.help 0 none 20).text.toList, 20 < l.length := by
  intro r
  have hhelp : (r.help 0 none 20).text.toList =
      "\x1b[1mkeeper\x1b[0m".toList ++ '\n' :: ("  Keeps some counters.".toList ++ '\n' :: "\n".toList) := by
    decide +kernel
  refine ⟨rfl, "  Keeps some counters.".toList, ?_, by decide⟩
  have hplain : withoutColors "  Keeps some counters.".toList = "  Keeps some counters.".toList := by
    have hempty := withoutColors_append_of_not_mem (a := "  Keeps some counters.".toList) (by decide) []
    rwa [withoutColors_nil, List.append_nil] at hempty
  have hline : shownLines "  Keeps some counters.".toList = ["  Keeps some counters.".toList] := by
    rw [shownLines_of_not_mem (by decide), hplain]
  rw [hhelp, shownLines_append_lineFeed, shownLines_append_lineFeed, hline]
  exact List.mem_append_right _ (List.mem_append_left _ (List.mem_singleton_self _))

end BuildScript
