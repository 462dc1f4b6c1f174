import BuildScript.Proofs.Number.Numerals
import BuildScript.Proofs.Output.Printing
import BuildScript.Proofs.Text.Joining

/-!
Colours that printing switches on and off again. A colour is on from its code to the code that switches all colours off
(`SwitchesOff`). No other code gets into what is printed of texts without an escape character, so what is printed to its
end leaves no colour on. But the colour is switched on before the width is looked at, and a negative width stops the
printing there. Main statement: `written_switchesOff_iff`, that this is the only way in which a colour is left on.
-/

namespace BuildScript

open Text (Line lines)

/-! ## Codes of colours in a text -/

/-- Behind the code of each colour that the text switches on, all colours are switched off. The code zero is
the one that switches them off. -/
def SwitchesOff (text : List Char) : Prop :=
  ∀ (code : Int) (before after : List Char), code ≠ 0 → text = before ++ (colorOn code).toList ++ after →
    colorOff.toList <:+: after

/-- What stands in a code behind the escape character. -/
def codeChars (code : Int) : List Char := '[' :: (Number.intChars code ++ ['m'])

theorem toList_colorOn (code : Int) : (colorOn code).toList = '\x1b' :: codeChars code := by
  have hnumber : (Number.intText code).toList = Number.intChars code := String.toList_ofList
  rw [colorOn, String.toList_append, String.toList_append, hnumber, List.append_assoc]
  rfl

theorem colorOn_zero : colorOn 0 = colorOff := by decide +kernel

theorem not_mem_intChars {c : Char} (hminus : c ≠ '-') (hdigit : Number.isDigitOrLine c = false) (i : Int) :
    c ∉ Number.intChars i := by
  unfold Number.intChars
  split
  · rw [List.mem_cons, not_or]
    exact ⟨hminus, Number.not_mem_natChars _ hdigit⟩
  · exact Number.not_mem_natChars _ hdigit

theorem escape_not_mem_codeChars (code : Int) : '\x1b' ∉ codeChars code := by
  have hnumber := not_mem_intChars (c := '\x1b') (by decide) (by decide +kernel) code
  simp [codeChars, hnumber]

/-- Zero is written as no other integer is. -/
theorem intChars_eq_zero_iff (i : Int) : Number.intChars i = ['0'] ↔ i = 0 := by
  constructor
  · intro h
    unfold Number.intChars at h
    split at h
    · exact absurd (List.cons.inj h).1 (by decide)
    · have hlength := congrArg List.length h
      have hlt : i.natAbs < 10 ^ 1 :=
        (Number.length_natChars_le_iff (by decide) i.natAbs).mp (Nat.le_of_eq hlength)
      rw [Number.natChars_of_lt hlt, List.cons.injEq] at h
      have hdigit : ∀ n < 10, Nat.digitChar n = '0' → n = 0 := by decide
      exact Int.natAbs_eq_zero.mp (hdigit _ hlt h.1)
  · rintro rfl
    decide +kernel

/-- In front of two texts codes are the same only if they have the same number, and then the texts are the same. -/
theorem codeChars_append_inj {code code' : Int} {t t' : List Char} (h : codeChars code ++ t = codeChars code' ++ t') :
    (code = 0 ↔ code' = 0) ∧ t = t' := by
  have hend : ∀ i, 'm' ∉ Number.intChars i := not_mem_intChars (by decide) (by decide +kernel)
  rw [codeChars, codeChars, List.cons_append, List.cons_append, List.append_assoc, List.append_assoc] at h
  obtain ⟨hnumber, htail⟩ := append_cons_inj (hend code) (hend code') (List.cons.inj h).2
  refine ⟨?_, htail⟩
  rw [← intChars_eq_zero_iff, hnumber, intChars_eq_zero_iff]

/-! ## Which texts switch all colours off -/

/-- What has no escape character switches nothing. -/
theorem switchesOff_append_iff {u : List Char} (hu : '\x1b' ∉ u) (t : List Char) :
    SwitchesOff (u ++ t) ↔ SwitchesOff t := by
  constructor
  · intro h code before after hcode ht
    refine h code (u ++ before) after hcode ?_
    rw [ht]
    simp only [List.append_assoc]
  · intro h code before after hcode htext
    rw [List.append_assoc] at htext
    rcases List.append_eq_append_iff.mp htext with ⟨front, rfl, ht⟩ | ⟨front, rfl, ht⟩
    · exact h code front after hcode (by rw [ht, List.append_assoc])
    · cases front with
      | nil => exact h code [] after hcode ht.symm
      | cons c front =>
        -- the code would begin in the text without an escape character
        rw [toList_colorOn, List.cons_append, List.cons_append] at ht
        exact absurd (List.mem_append_right before ((List.cons.inj ht).1 ▸ List.mem_cons_self)) hu

theorem switchesOff_of_escape_not_mem {u : List Char} (hu : '\x1b' ∉ u) : SwitchesOff u := by
  intro code before after _ h
  rw [h, toList_colorOn] at hu
  simp at hu

/-- Behind a code that switches a colour on, all colours have to be switched off. -/
theorem switchesOff_colorOn_append_iff (code : Int) (t : List Char) :
    SwitchesOff ((colorOn code).toList ++ t) ↔ (code ≠ 0 → colorOff.toList <:+: t) ∧ SwitchesOff t := by
  constructor
  · intro h
    refine ⟨fun hcode => h code [] t hcode rfl, fun code' before after hcode' ht => ?_⟩
    refine h code' ((colorOn code).toList ++ before) after hcode' ?_
    rw [ht]
    simp only [List.append_assoc]
  · rintro ⟨hoff, ht⟩ code' before after hcode' h
    rw [toList_colorOn, toList_colorOn] at h
    cases before with
    | nil =>
      obtain ⟨hzero, rfl⟩ := codeChars_append_inj (List.cons.inj h).2
      exact hoff (mt hzero.mp hcode')
    | cons c before =>
      refine (switchesOff_append_iff (escape_not_mem_codeChars code) t).mpr ht code' before after hcode' ?_
      rw [toList_colorOn]
      exact (List.cons.inj h).2

/-! ## Characters of what is printed -/

theorem not_mem_marked {c : Char} {bullet first : List Char} (hbullet : c ∉ bullet) {later : List (List Char)}
    (h : ∀ l ∈ later, c ∉ l) : ∀ l ∈ marked bullet first later, c ∉ l := by
  have hmark : ∀ l, c ∉ l → c ∉ bullet ++ l := fun l hl => List.not_mem_append hbullet hl
  induction later with
  | nil => exact List.forall_mem_nil _
  | cons l more ih =>
    obtain ⟨hl, hmore⟩ := List.forall_mem_cons.mp h
    cases more with
    | nil =>
      refine List.forall_mem_singleton.mpr ?_
      split
      · exact hmark l hl
      · exact hl
    | cons l' more =>
      refine List.forall_mem_cons.mpr ⟨?_, ih hmore⟩
      split
      · exact hmark l hl
      · exact hl

theorem not_mem_bulleted {c : Char} {bullet : List Char} (hbullet : c ∉ bullet) {ls : List (List Char)}
    (h : ∀ l ∈ ls, c ∉ l) : ∀ l ∈ bulleted bullet ls, c ∉ l := by
  cases ls with
  | nil => exact List.forall_mem_nil _
  | cons first later =>
    obtain ⟨hfirst, hlater⟩ := List.forall_mem_cons.mp h
    exact List.forall_mem_cons.mpr ⟨List.not_mem_append hbullet hfirst, not_mem_marked hbullet hlater⟩

theorem not_mem_pages {c : Char} (hfeed : c ≠ '\n') {paragraphs : List (List (List Char))}
    (h : ∀ ls ∈ paragraphs, ∀ l ∈ ls, c ∉ l) : c ∉ (pages paragraphs).toList := by
  have hsep : c ∉ ['\n'] := by simpa using hfeed
  rw [pages, String.toList_ofList]
  refine not_mem_intercalate hsep fun text htext => ?_
  obtain ⟨ls, hls, rfl⟩ := List.mem_map.mp htext
  exact not_mem_intercalate hsep (h ls hls)

theorem not_mem_body {c : Char} {cs : List Char} (h : c ∉ cs) {l : Line} (hl : l ∈ lines cs) : c ∉ l.body := by
  intro hmem
  rw [← Text.flatten_lines cs] at h
  exact h (List.mem_flatten.mpr ⟨l.chars, List.mem_map_of_mem hl, List.mem_append_left l.ending hmem⟩)

/-- In a positive width nothing is printed but blanks, line feeds, the bullet and the text. -/
theorem exists_layText_not_mem {c : Char} (hspace : c ≠ ' ') (hfeed : c ≠ '\n') {style : PrintStyle}
    (hbullet : c ∉ style.bullet.toList) {width : Int} (hwidth : 0 < width) {joined : String}
    (hjoined : c ∉ joined.toList) :
    ∃ body, layText style (some width) joined = .ok body ∧ c ∉ body.toList := by
  obtain ⟨paragraphs, hwrapped, hbody⟩ := exists_layText style hwidth joined
  refine ⟨_, hbody, not_mem_pages hfeed fun ls hls => ?_⟩
  obtain ⟨ls, hmem, rfl⟩ := List.mem_map.mp hls
  obtain ⟨line, hline, hwrap⟩ := exists_mem_of_forall₂ hwrapped.flip hmem
  have hplain : ∀ l ∈ ls, c ∉ l := by
    obtain ⟨ls', hls', hall⟩ := Text.exists_wrapChars (m := style.margins width) hwidth rfl line.body
    obtain rfl : ls' = ls := Except.ok.inj (hls'.symm.trans hwrap)
    intro l hl hc
    rcases (hall l hl).2 c hc with h | h | h
    · exact hspace h
    · exact not_mem_body hjoined hline h
    · exact hspace (List.eq_of_mem_replicate h)
  split
  · exact hplain
  · exact not_mem_bulleted hbullet hplain

/-! ## Printing -/

namespace PrintStyle

/-- Nothing that is printed beside the arguments has an escape character. -/
structure EscapeFree (style : PrintStyle) : Prop where
  bullet : '\x1b' ∉ style.bullet.toList
  separator : '\x1b' ∉ style.separator.toList
  ending : '\x1b' ∉ style.ending.toList

/-- There is something to be wrapped, and the width is negative. -/
def Refuses (style : PrintStyle) (width : Int) (texts : List String) : Prop :=
  style.width = some width ∧ width < 0 ∧ style.separator.intercalate texts ≠ ""

end PrintStyle

section Printing

variable {columns : Int} {style : PrintStyle} {texts : List String} {width : Int}

theorem layText_of_nonpos (hwidth : width ≤ 0) {joined : String} (hne : joined ≠ "") :
    layText style (some width) joined = .error (.invalidWidth width) := by
  have hlines : lines joined.toList ≠ [] := by
    intro hnil
    have htext := Text.flatten_lines joined.toList
    rw [hnil, List.map_nil, List.flatten_nil] at htext
    exact hne (String.toList_eq_nil_iff.mp htext.symm)
  obtain ⟨l, ls, hcons⟩ := List.exists_cons_of_ne_nil hlines
  have hparagraph : paragraph style width l.body = .error (.invalidWidth width) := by
    unfold paragraph Text.wrapChars
    dsimp only
    rw [if_pos hwidth]
    rfl
  unfold layText
  dsimp only
  rw [hcons, List.mapM_cons, hparagraph]
  rfl

/-- A negative width stops the printing behind the colour. -/
theorem print_of_refuses (h : style.Refuses width texts) :
    print columns style texts = ⟨style.opening, some (.invalidWidth width)⟩ := by
  obtain ⟨hwidth, hneg, hne⟩ := h
  have hzero : ¬ width = 0 := Int.ne_of_lt hneg
  unfold print
  rw [hwidth, Option.map_some, if_neg hzero]
  simp only [layText_of_nonpos (Int.le_of_lt hneg) hne, PrintStyle.opening]

/-- In any other width all is printed, and no escape character but those of the colour. -/
theorem exists_print_of_not_refuses (columns : Int) (hstyle : style.EscapeFree)
    (htexts : ∀ t ∈ texts, '\x1b' ∉ t.toList)
    (hnot : ∀ width, ¬ style.Refuses width texts) :
    ∃ body, '\x1b' ∉ body.toList ∧
      print columns style texts = ⟨style.opening ++ body ++ style.closing, none⟩ := by
  have hjoined : '\x1b' ∉ (style.separator.intercalate texts).toList := by
    rw [String.toList_intercalate]
    refine not_mem_intercalate hstyle.separator fun cs hcs => ?_
    obtain ⟨t, ht, rfl⟩ := List.mem_map.mp hcs
    exact htexts t ht
  have hwrapped : ∀ {w : Int}, 0 < w →
      (style.width.map fun w => if w = 0 then terminalWidth columns else w) = some w →
      ∃ body, '\x1b' ∉ body.toList ∧
        print columns style texts = ⟨style.opening ++ body ++ style.closing, none⟩ := by
    intro w hpos hwidth
    obtain ⟨body, hbody, hfree⟩ := exists_layText_not_mem (by decide) (by decide) hstyle.bullet hpos hjoined
    exact ⟨body, hfree, print_of_layText hbody hwidth⟩
  cases hwidth : style.width with
  | none =>
    have hbody : layText style none (style.separator.intercalate texts) = .ok (style.separator.intercalate texts) :=
      rfl
    refine ⟨_, hjoined, print_of_layText hbody ?_⟩
    rw [hwidth]
    rfl
  | some w =>
    rcases Int.lt_trichotomy w 0 with hneg | rfl | hpos
    · have hempty : style.separator.intercalate texts = "" :=
        not_not.mp fun hne => hnot w ⟨hwidth, hneg, hne⟩
      have hbody : layText style (some w) (style.separator.intercalate texts) = .ok "" := by
        rw [hempty]
        rfl
      refine ⟨"", List.not_mem_nil, print_of_layText hbody ?_⟩
      rw [hwidth, Option.map_some, if_neg (Int.ne_of_lt hneg)]
    · refine hwrapped (terminalWidth_pos columns) ?_
      rw [hwidth, Option.map_some, if_pos rfl]
    · refine hwrapped hpos ?_
      rw [hwidth, Option.map_some, if_neg (by omega)]

/-- What is printed to its end leaves no colour on. -/
theorem switchesOff_of_body (hstyle : style.EscapeFree) {body : String} (hbody : '\x1b' ∉ body.toList) :
    SwitchesOff (style.opening ++ body ++ style.closing).toList := by
  unfold PrintStyle.opening PrintStyle.closing
  cases style.color with
  | none =>
    refine switchesOff_of_escape_not_mem ?_
    simpa using ⟨hbody, hstyle.ending⟩
  | some code =>
    have hoff : SwitchesOff (colorOff ++ style.ending).toList := by
      rw [← colorOn_zero, String.toList_append, switchesOff_colorOn_append_iff]
      exact ⟨fun h => absurd rfl h, switchesOff_of_escape_not_mem hstyle.ending⟩
    have htext : (((some code).map colorOn).getD "" ++ body ++
        ((if (some code).isSome then colorOff else "") ++ style.ending)).toList =
          (colorOn code).toList ++ (body.toList ++ (colorOff ++ style.ending).toList) := by
      simp [String.toList_append]
    rw [htext, switchesOff_colorOn_append_iff, switchesOff_append_iff hbody]
    refine ⟨fun _ => ?_, hoff⟩
    rw [String.toList_append]
    exact ⟨body.toList, style.ending.toList, List.append_assoc _ _ _⟩

/-- A colour that is switched on alone is left on. -/
theorem switchesOff_opening_iff :
    SwitchesOff style.opening.toList ↔ ∀ code, style.color = some code → code = 0 := by
  unfold PrintStyle.opening
  cases style.color with
  | none => exact iff_of_true (switchesOff_of_escape_not_mem List.not_mem_nil) nofun
  | some code =>
    have hopening : (((some code).map colorOn).getD "").toList = (colorOn code).toList ++ [] :=
      (List.append_nil _).symm
    have hoff : ¬ colorOff.toList <:+: [] := by
      rw [List.infix_nil]
      decide +kernel
    rw [hopening, switchesOff_colorOn_append_iff]
    constructor
    · rintro ⟨h, -⟩ code' hcode
      obtain rfl := Option.some.inj hcode
      exact not_not.mp fun hne => hoff (h hne)
    · intro h
      exact ⟨fun hne => absurd (h code rfl) hne, switchesOff_of_escape_not_mem List.not_mem_nil⟩

/-- Printing leaves a colour on exactly if it is stopped with one. -/
theorem switchesOff_print_iff (hstyle : style.EscapeFree) (htexts : ∀ t ∈ texts, '\x1b' ∉ t.toList) :
    SwitchesOff (print columns style texts).text.toList ↔
      ∀ width, style.Refuses width texts → ∀ code, style.color = some code → code = 0 := by
  by_cases hrefuses : ∃ width, style.Refuses width texts
  · obtain ⟨width, hwidth⟩ := hrefuses
    rw [print_of_refuses hwidth, switchesOff_opening_iff]
    exact ⟨fun h _ _ => h, fun h => h width hwidth⟩
  · obtain ⟨body, hbody, hprint⟩ := exists_print_of_not_refuses columns hstyle htexts
      (not_exists.mp hrefuses)
    rw [hprint]
    exact iff_of_true (switchesOff_of_body hstyle hbody) fun width hwidth => absurd ⟨width, hwidth⟩ hrefuses

end Printing

/-- What is on the terminal when values were printed, to the end or until an error: nothing, if one of them cannot be
shown or the number of the colour cannot be written. -/
def written (columns : Int) (style : PrintStyle) (vs : List Value) : String :=
  match printValues columns style vs with
  | .ok printed => printed.text
  | .error _ => ""

theorem written_of_error {columns : Int} {style : PrintStyle} {vs : List Value} {o : Obstacle}
    (h : vs.mapM Value.displayPlain = .error o) : written columns style vs = "" := by
  unfold written printValues
  rw [h]
  rfl

theorem written_of_texts {columns : Int} {style : PrintStyle} {vs : List Value} {texts : List String}
    (h : vs.mapM Value.displayPlain = .ok texts) :
    written columns style vs =
      if style.color.any Number.isTooLong then "" else (print columns style texts).text := by
  unfold written printValues
  rw [h]
  by_cases hlong : style.color.any Number.isTooLong = true
  · rw [if_pos hlong]
    dsimp only [bind, Except.bind]
    rw [if_pos hlong]
    rfl
  · rw [if_neg hlong]
    dsimp only [bind, Except.bind]
    rw [if_neg hlong]
    rfl

/-- Printing values is stopped with a colour on: they can all be shown, the colour is switched on, and then the width is
found to be negative. -/
def StopsColored (style : PrintStyle) (vs : List Value) : Prop :=
  ∃ code texts width, style.color = some code ∧ code ≠ 0 ∧ Number.isTooLong code = false ∧
    vs.mapM Value.displayPlain = .ok texts ∧ style.Refuses width texts

/-- Whatever is printed, and whether that comes to its end or not, all colours are switched off behind each colour that
was switched on, unless a negative width stops the printing behind the colour. -/
theorem written_switchesOff_iff (columns : Int) {style : PrintStyle} {vs : List Value} (hstyle : style.EscapeFree)
    (hvs : ∀ v ∈ vs, ∀ t, v.displayPlain = .ok t → '\x1b' ∉ t.toList) :
    SwitchesOff (written columns style vs).toList ↔ ¬ StopsColored style vs := by
  have hempty : SwitchesOff "".toList := switchesOff_of_escape_not_mem List.not_mem_nil
  cases htexts : vs.mapM Value.displayPlain with
  | error o =>
    rw [written_of_error htexts]
    refine iff_of_true hempty ?_
    rintro ⟨code, texts, width, -, -, -, hok, -⟩
    rw [htexts] at hok
    cases hok
  | ok texts =>
    have hfree : ∀ t ∈ texts, '\x1b' ∉ t.toList := by
      intro t ht
      obtain ⟨v, hv, hshown⟩ := exists_mem_of_forall₂ ((mapM_eq_ok_iff _ _ _).mp htexts).flip ht
      exact hvs v hv t hshown
    rw [written_of_texts htexts]
    by_cases hlong : style.color.any Number.isTooLong = true
    · rw [if_pos hlong]
      refine iff_of_true hempty ?_
      rintro ⟨code, _, _, hcode, -, hshort, -⟩
      rw [hcode, Option.any_some, hshort] at hlong
      cases hlong
    · rw [if_neg hlong, switchesOff_print_iff hstyle hfree]
      constructor
      · rintro h ⟨code, texts', width, hcode, hne, -, hok, hrefuses⟩
        obtain rfl : texts = texts' := Except.ok.inj (htexts.symm.trans hok)
        exact hne (h width hrefuses code hcode)
      · intro h width hrefuses code hcode
        by_contra hne
        rw [hcode, Option.any_some, Bool.not_eq_true] at hlong
        exact h ⟨code, texts, width, hcode, hne, hlong, htexts, hrefuses⟩

/-- Bulleted notices in yellow. -/
def bulletedNotice (width : Int) : PrintStyle :=
  { color := some Color.yellow.code, bullet := "* ", width := some width }

theorem written_switchesOff_notice :
    (bulletedNotice 9).EscapeFree ∧
      (∀ v ∈ [Value.text "one two", .bool true], ∀ t, v.displayPlain = .ok t → '\x1b' ∉ t.toList) ∧
      SwitchesOff (written 80 (bulletedNotice 9) [.text "one two", .bool true]).toList := by
  have hstyle : (bulletedNotice 9).EscapeFree := ⟨by decide, by decide, by decide⟩
  have hvs : ∀ v ∈ [Value.text "one two", .bool true], ∀ t, v.displayPlain = .ok t → '\x1b' ∉ t.toList := by
    refine List.forall_mem_cons.mpr ⟨fun t ht => ?_, List.forall_mem_singleton.mpr fun t ht => ?_⟩
    · obtain rfl : "one two" = t := Except.ok.inj ht
      decide +kernel
    · obtain rfl : "True" = t := Except.ok.inj ht
      decide +kernel
  refine ⟨hstyle, hvs, (written_switchesOff_iff 80 hstyle hvs).mpr ?_⟩
  rintro ⟨_, _, width, -, -, -, -, hwidth, hneg, -⟩
  obtain rfl : 9 = width := Option.some.inj hwidth
  exact absurd hneg (by decide)

/-- In a negative width the colour is switched on and left on. -/
theorem notice_left_colored :
    written 80 (bulletedNotice (-1)) [.text "careful"] = "\x1b[33m" ∧
      ¬ SwitchesOff (written 80 (bulletedNotice (-1)) [.text "careful"]).toList := by
  have htext : written 80 (bulletedNotice (-1)) [.text "careful"] = "\x1b[33m" := by decide +kernel
  refine ⟨htext, fun h => ?_⟩
  have hcode : "\x1b[33m".toList = [] ++ (colorOn 33).toList ++ [] := by decide +kernel
  have hoff : colorOff.toList <:+: [] := h 33 [] [] (by decide) (htext ▸ hcode)
  rw [List.infix_nil] at hoff
  exact absurd hoff (by decide +kernel)

end BuildScript
