import BuildScript.Coercion
import Mathlib.Data.List.Basic
import Mathlib.Data.List.TakeWhile
import Mathlib.Data.Nat.Digits.Defs
import Mathlib.Tactic.IntervalCases

/-!
Integers as text. A numeral is an optional sign and decimal digits of any script, with at most one underscore
between neighbours (`Numeral`); a text stands for an integer if a numeral of at most 4300 digits stands in it
between blanks (`IsIntegerText`). Main statement: `coerce_integerText`, that exactly these texts are taken for
integers, for those that they stand for, and that an integer is read back from every way of writing it.
-/

namespace BuildScript

namespace Text

/-! ## Blanks at the ends -/

/-- No blank stands at either end. -/
structure Trimmed (cs : List Char) : Prop where
  first : ∀ c rest, cs = c :: rest → isBlank c = false
  last : ∀ c front, cs = front ++ [c] → isBlank c = false

theorem not_isBlank_of_dropWhile {cs rest : List Char} {c : Char}
    (h : cs.dropWhile isBlank = c :: rest) : isBlank c = false := by
  have hhead := List.head?_dropWhile_not isBlank cs
  rw [h] at hhead
  exact hhead

/-- What is left is trimmed, and blanks alone have been taken off. -/
theorem exists_strip (cs : List Char) : ∃ before after, cs = before ++ strip cs ++ after ∧
    (∀ c ∈ before, isBlank c = true) ∧ (∀ c ∈ after, isBlank c = true) ∧ Trimmed (strip cs) := by
  have hleft : cs = cs.takeWhile isBlank ++ stripLeft cs := List.takeWhile_append_dropWhile.symm
  have hright : stripLeft cs = strip cs ++ ((stripLeft cs).reverse.takeWhile isBlank).reverse := by
    have hrev : (stripLeft cs).reverse = (stripLeft cs).reverse.takeWhile isBlank ++
        (stripLeft cs).reverse.dropWhile isBlank := List.takeWhile_append_dropWhile.symm
    have hback := congrArg List.reverse hrev
    rwa [List.reverse_reverse, List.reverse_append] at hback
  refine ⟨cs.takeWhile isBlank, ((stripLeft cs).reverse.takeWhile isBlank).reverse, ?_, ?_, ?_, ?_⟩
  · rw [List.append_assoc, ← hright]
    exact hleft
  · exact fun c hc => List.mem_takeWhile_imp hc
  · exact fun c hc => List.mem_takeWhile_imp (List.mem_reverse.mp hc)
  · constructor
    · intro c rest h
      rw [h] at hright
      exact not_isBlank_of_dropWhile hright
    · intro c front h
      have hlast : (stripLeft cs).reverse.dropWhile isBlank = c :: front.reverse := by
        have hrev := congrArg List.reverse h
        rwa [strip, stripRight, List.reverse_reverse, List.reverse_append] at hrev
      exact not_isBlank_of_dropWhile hlast

/-- Blanks around a trimmed text are taken off. -/
theorem strip_around {before cs after : List Char} (hbefore : ∀ c ∈ before, isBlank c = true)
    (hafter : ∀ c ∈ after, isBlank c = true) (hne : cs ≠ []) (h : Trimmed cs) :
    strip (before ++ cs ++ after) = cs := by
  have hleft : stripLeft (before ++ cs ++ after) = cs ++ after := by
    obtain ⟨c, rest, rfl⟩ := List.exists_cons_of_ne_nil hne
    have hc : ¬ isBlank c = true := by
      rw [h.first c rest rfl]
      exact Bool.false_ne_true
    rw [stripLeft, List.append_assoc, List.dropWhile_append_of_pos hbefore, List.cons_append,
      List.dropWhile_cons_of_neg hc]
  have hright : stripRight (cs ++ after) = cs := by
    obtain ⟨front, c, rfl⟩ := (List.eq_nil_or_concat' cs).resolve_left hne
    have hc : ¬ isBlank c = true := by
      rw [h.last c front rfl]
      exact Bool.false_ne_true
    have hblank : ∀ c ∈ after.reverse, isBlank c = true := fun c hc => hafter c (List.mem_reverse.mp hc)
    rw [stripRight, List.reverse_append, List.dropWhile_append_of_pos hblank, List.reverse_append,
      List.reverse_singleton, List.singleton_append, List.dropWhile_cons_of_neg hc, List.reverse_cons,
      List.reverse_reverse]
  rw [strip, hleft, hright]

end Text

namespace Number

open Text (digitValue? isBlank)

/-! ## Characters as ASCII -/

theorem isBlank_digit {c : Char} {d : Nat} (h : digitValue? c = some d) : isBlank c = false := by
  have happart : ∀ r ∈ Text.digitRanges, ∀ q ∈ Text.blankRanges, r.2 < q.1 ∨ q.2 < r.1 := by
    decide +kernel
  rw [← Bool.not_eq_true]
  intro hblank
  obtain ⟨q, hq, hqfrom, hqto⟩ := Text.Ranges.contains_iff.mp hblank
  obtain ⟨r, hr, -⟩ := Option.map_eq_some_iff.mp h
  have hin := Text.inRange_iff.mp (List.find?_some hr)
  have hapart := happart r (List.mem_of_find?_eq_some hr) q hq
  omega

/-- What holds of all code points below 127 holds of all characters below. -/
theorem forall_ascii {P : Char → Prop} (hall : ∀ n < 127, P (Char.ofNat n)) {c : Char}
    (h : c.toNat < 127) : P c := by
  have hc := hall c.toNat h
  rwa [Char.ofNat_toNat] at hc

/-- Below the end of ASCII the decimal digits are the ten of ASCII. -/
theorem digitIn?_of_lt {c : Char} (h : c.toNat < 127) : digitIn? 10 c = digitValue? c :=
  forall_ascii (P := fun c => digitIn? 10 c = digitValue? c) (by decide +kernel) h

theorem digitIn?_digitChar {d : Nat} (h : d < 10) : digitIn? 10 (Nat.digitChar d) = some d := by
  interval_cases d <;> rfl

/-- What a character beyond ASCII is taken for. -/
theorem asciiForm_cases {c : Char} (h : ¬ c.toNat < 127) :
    isBlank c = true ∧ asciiForm c = ' ' ∨
      (∃ d < 10, digitValue? c = some d ∧ asciiForm c = Nat.digitChar d) ∨
        digitValue? c = none ∧ asciiForm c = '?' := by
  unfold asciiForm
  rw [if_neg h]
  by_cases hblank : isBlank c = true
  · rw [if_pos hblank]
    exact .inl ⟨hblank, rfl⟩
  · rw [if_neg hblank]
    cases hd : digitValue? c with
    | none => exact .inr (.inr ⟨rfl, rfl⟩)
    | some d => exact .inr (.inl ⟨d, Text.digitValue?_lt hd, rfl, rfl⟩)

/-- The ASCII form of a character is a digit exactly if the character is one, of the same value. -/
theorem digitIn?_asciiForm (c : Char) : digitIn? 10 (asciiForm c) = digitValue? c := by
  by_cases hascii : c.toNat < 127
  · have hself : asciiForm c = c := by
      unfold asciiForm
      rw [if_pos hascii]
    rw [hself, digitIn?_of_lt hascii]
  · rcases asciiForm_cases hascii with ⟨hblank, hform⟩ | ⟨d, hlt, hd, hform⟩ | ⟨hnone, hform⟩
    · have hnone : digitValue? c = none := by
        rw [Option.eq_none_iff_forall_ne_some]
        intro d hd
        rw [isBlank_digit hd] at hblank
        cases hblank
      rw [hform, hnone]
      rfl
    · rw [hform, hd, digitIn?_digitChar hlt]
    · rw [hform, hnone]
      rfl

/-- The marks of a numeral have no other form. -/
theorem asciiForm_eq_mark_iff {c x : Char} (hx : x = '_' ∨ x = '+' ∨ x = '-') :
    asciiForm c = x ↔ c = x := by
  by_cases hascii : c.toNat < 127
  · unfold asciiForm
    rw [if_pos hascii]
  · have hne : c ≠ x := by
      rintro rfl
      rcases hx with rfl | rfl | rfl <;> exact hascii (by decide)
    have hmark : digitIn? 10 x = none ∧ x ≠ ' ' ∧ x ≠ '?' := by
      rcases hx with rfl | rfl | rfl <;> decide
    refine iff_of_false (fun hform => ?_) hne
    rcases asciiForm_cases hascii with ⟨-, hspace⟩ | ⟨d, hlt, -, hdigit⟩ | ⟨-, hother⟩
    · exact hmark.2.1 (hform.symm.trans hspace)
    · have hsome := digitIn?_digitChar hlt
      rw [← hdigit, hform, hmark.1] at hsome
      cases hsome
    · exact hmark.2.2 (hform.symm.trans hother)

/-- What is taken for an ASCII space is blank. -/
theorem isBlank_of_isAsciiSpace {c : Char} (h : isAsciiSpace (asciiForm c) = true) :
    isBlank c = true := by
  by_cases hascii : c.toNat < 127
  · exact forall_ascii (P := fun c => isAsciiSpace (asciiForm c) = true → isBlank c = true)
      (by decide +kernel) hascii h
  · rcases asciiForm_cases hascii with ⟨hblank, -⟩ | ⟨d, hlt, -, hform⟩ | ⟨-, hform⟩
    · exact hblank
    · rw [hform] at h
      interval_cases d <;> cases h
    · rw [hform] at h
      cases h

/-! ## Digits with underscores between them -/

/-- Decimal digits of any script, with at most one underscore between neighbours, and their values. -/
inductive SpacedDigits : List Char → List Nat → Prop where
  | last {c : Char} {d : Nat} (h : digitValue? c = some d) : SpacedDigits [c] [d]
  | next {c : Char} {d : Nat} {cs : List Char} {ds : List Nat} (h : digitValue? c = some d)
      (hrest : SpacedDigits cs ds) : SpacedDigits (c :: cs) (d :: ds)
  | spaced {c : Char} {d : Nat} {cs : List Char} {ds : List Nat} (h : digitValue? c = some d)
      (hrest : SpacedDigits cs ds) : SpacedDigits (c :: '_' :: cs) (d :: ds)

/-- Whether a character may stand among spaced digits. -/
def isDigitOrLine (c : Char) : Bool := c = '_' || (digitValue? c).isSome

theorem digitValue?_line : digitValue? '_' = none := by decide +kernel

theorem ne_line_of_digit {c : Char} {d : Nat} (h : digitValue? c = some d) : c ≠ '_' := by
  rintro rfl
  rw [digitValue?_line] at h
  cases h

theorem isSpaced_cons {c x : Char} (hc : c ≠ '_') (hx : x ≠ '_') (rest : List Char) :
    isSpaced (c :: x :: rest) = isSpaced (x :: rest) :=
  isSpaced.eq_5 c (x :: rest) hc (fun _ h => hx (List.cons.inj h).1) (List.cons_ne_nil _ _)

theorem isSpaced_map_asciiForm (cs : List Char) : isSpaced (cs.map asciiForm) = isSpaced cs := by
  have hline : ∀ {c : Char}, asciiForm c = '_' ↔ c = '_' := asciiForm_eq_mark_iff (.inl rfl)
  have hself : asciiForm '_' = '_' := hline.mpr rfl
  fun_induction isSpaced cs with
  | case1 => rfl
  | case2 rest =>
    rw [List.map_cons, hself]
    rfl
  | case3 c rest hc ih =>
    rw [List.map_cons, List.map_cons, hself, isSpaced.eq_3 _ _ fun h => hc (hline.mp h), ih]
  | case4 c hc =>
    rw [List.map_cons, List.map_nil, isSpaced.eq_4 _ fun h => hc (hline.mp h)]
  | case5 c rest hc hnext hne ih =>
    cases rest with
    | nil => exact absurd rfl hne
    | cons x rest =>
      have hx : x ≠ '_' := fun h => hnext rest (by rw [h])
      rw [List.map_cons, List.map_cons, isSpaced_cons (fun h => hc (hline.mp h))
        (fun h => hx (hline.mp h)), ← List.map_cons, ih]

namespace SpacedDigits

variable {cs : List Char} {ds : List Nat} {c : Char} {d : Nat}

theorem exists_cons (h : SpacedDigits cs ds) :
    ∃ c rest d, cs = c :: rest ∧ digitValue? c = some d := by
  cases h with
  | last h => exact ⟨_, _, _, rfl, h⟩
  | next h _ => exact ⟨_, _, _, rfl, h⟩
  | spaced h _ => exact ⟨_, _, _, rfl, h⟩

theorem isSpaced (h : SpacedDigits cs ds) : isSpaced cs = true := by
  induction h with
  | last h => exact isSpaced.eq_4 _ (ne_line_of_digit h)
  | next h hrest ih =>
    obtain ⟨x, rest, e, rfl, hx⟩ := hrest.exists_cons
    rw [isSpaced_cons (ne_line_of_digit h) (ne_line_of_digit hx), ih]
  | spaced h _ ih => rw [isSpaced.eq_3 _ _ (ne_line_of_digit h), ih]

theorem isDigitOrLine (h : SpacedDigits cs ds) : ∀ c ∈ cs, isDigitOrLine c = true := by
  have hdigit : ∀ {c d}, digitValue? c = some d → Number.isDigitOrLine c = true := by
    intro c d h
    rw [Number.isDigitOrLine, h, Option.isSome_some, Bool.or_true]
  induction h with
  | last h => exact List.forall_mem_singleton.mpr (hdigit h)
  | next h _ ih => exact List.forall_mem_cons.mpr ⟨hdigit h, ih⟩
  | spaced h _ ih => exact List.forall_mem_cons.mpr ⟨hdigit h, List.forall_mem_cons.mpr ⟨rfl, ih⟩⟩

theorem ne_nil (h : SpacedDigits cs ds) : cs ≠ [] := by
  obtain ⟨c, rest, d, rfl, -⟩ := h.exists_cons
  exact List.cons_ne_nil c rest

theorem exists_digit_of_concat (h : SpacedDigits cs ds) {front : List Char} (hcs : cs = front ++ [c]) :
    ∃ d, digitValue? c = some d := by
  induction h generalizing front with
  | @last x d hx =>
    cases front with
    | nil => exact ⟨d, (List.cons.inj hcs).1 ▸ hx⟩
    | cons y front => simp at hcs
  | next hx hrest ih =>
    cases front with
    | nil => exact absurd (List.cons.inj hcs).2 hrest.ne_nil
    | cons y front => exact ih (List.cons.inj hcs).2
  | spaced hx hrest ih =>
    cases front with
    | nil => simp at hcs
    | cons y front =>
      cases front with
      | nil => exact absurd (List.cons.inj (List.cons.inj hcs).2).2 hrest.ne_nil
      | cons z front => exact ih (List.cons.inj (List.cons.inj hcs).2).2

theorem filterMap_eq (h : SpacedDigits cs ds) : cs.filterMap digitValue? = ds := by
  induction h with
  | last h => rw [List.filterMap_cons_some h, List.filterMap_nil]
  | next h _ ih => rw [List.filterMap_cons_some h, ih]
  | spaced h _ ih =>
    rw [List.filterMap_cons_some h, List.filterMap_cons_none digitValue?_line, ih]

/-- A digit more at the end. -/
theorem concat (h : SpacedDigits cs ds) (hc : digitValue? c = some d) :
    SpacedDigits (cs ++ [c]) (ds ++ [d]) := by
  induction h with
  | last h => exact .next h (.last hc)
  | next h _ ih => exact .next h ih
  | spaced h _ ih => exact .spaced h ih

/-- Zeros in front. -/
theorem zeros (h : SpacedDigits cs ds) (k : Nat) :
    SpacedDigits (List.replicate k '0' ++ cs) (List.replicate k 0 ++ ds) := by
  induction k with
  | zero => exact h
  | succ k ih => exact .next (by decide +kernel) ih

end SpacedDigits

/-- The digits of what is spaced as they are to be. -/
theorem spacedDigits_of_isSpaced {cs : List Char} (h : isSpaced cs = true)
    (hcs : ∀ c ∈ cs, isDigitOrLine c = true) : SpacedDigits cs (cs.filterMap digitValue?) := by
  have hdigit : ∀ {c}, c ≠ '_' → isDigitOrLine c = true → ∃ d, digitValue? c = some d := by
    intro c hne hc
    rw [isDigitOrLine, decide_eq_false hne, Bool.false_or] at hc
    exact Option.isSome_iff_exists.mp hc
  fun_induction isSpaced cs with
  | case1 => cases h
  | case2 rest => cases h
  | case3 c rest hc ih =>
    obtain ⟨hhead, hcs⟩ := List.forall_mem_cons.mp hcs
    obtain ⟨d, hd⟩ := hdigit hc hhead
    rw [List.filterMap_cons_some hd, List.filterMap_cons_none digitValue?_line]
    exact .spaced hd (ih h (List.forall_mem_cons.mp hcs).2)
  | case4 c hc =>
    obtain ⟨d, hd⟩ := hdigit hc (hcs c List.mem_cons_self)
    rw [List.filterMap_cons_some hd, List.filterMap_nil]
    exact .last hd
  | case5 c rest hc hnext hne ih =>
    obtain ⟨hhead, hcs⟩ := List.forall_mem_cons.mp hcs
    obtain ⟨d, hd⟩ := hdigit hc hhead
    rw [List.filterMap_cons_some hd]
    exact .next hd (ih h hcs)

/-! ## Numerals -/

/-- Spaced digits with an optional sign in front. The flag is set for a minus. -/
inductive Numeral : List Char → Bool → List Nat → Prop where
  | unsigned {cs : List Char} {ds : List Nat} (h : SpacedDigits cs ds) : Numeral cs false ds
  | plus {cs : List Char} {ds : List Nat} (h : SpacedDigits cs ds) : Numeral ('+' :: cs) false ds
  | minus {cs : List Char} {ds : List Nat} (h : SpacedDigits cs ds) : Numeral ('-' :: cs) true ds

/-- The integer that a numeral of these digits stands for. -/
def numeralValue (negative : Bool) (ds : List Nat) : Int :=
  if negative then -((Nat.ofDigits 10 ds.reverse : Nat) : Int)
  else ((Nat.ofDigits 10 ds.reverse : Nat) : Int)

theorem signed_valueIn (negative : Bool) (ds : List Nat) :
    Binary64.signed negative (valueIn 10 ds) = numeralValue negative ds := by
  have hvalue : valueIn 10 ds = Nat.ofDigits 10 ds.reverse := by
    rw [Nat.ofDigits_eq_foldr, List.foldr_reverse, valueIn]
    congr 1
    funext n d
    exact Nat.add_comm _ _
  rw [hvalue, Binary64.signed, numeralValue]

/-- The sign is cut off the ASCII form as it is off the text. -/
theorem cutSign_map_asciiForm (cs : List Char) :
    cutSign (cs.map asciiForm) = ((cutSign cs).1, (cutSign cs).2.map asciiForm) := by
  have hplus : ∀ {c : Char}, asciiForm c = '+' ↔ c = '+' := asciiForm_eq_mark_iff (.inr (.inl rfl))
  have hminus : ∀ {c : Char}, asciiForm c = '-' ↔ c = '-' := asciiForm_eq_mark_iff (.inr (.inr rfl))
  fun_cases cutSign cs with
  | case1 rest => rw [List.map_cons, hminus.mpr rfl]; rfl
  | case2 rest => rw [List.map_cons, hplus.mpr rfl]; rfl
  | case3 _ hnotMinus hnotPlus =>
    cases cs with
    | nil => rfl
    | cons c rest =>
      have hc : asciiForm c ≠ '-' := fun h => hnotMinus rest (by rw [hminus.mp h])
      have hc' : asciiForm c ≠ '+' := fun h => hnotPlus rest (by rw [hplus.mp h])
      rw [List.map_cons, cutSign.eq_3 _ (fun _ h => hc (List.cons.inj h).1)
        (fun _ h => hc' (List.cons.inj h).1)]

theorem cutSign_of_digits {cs : List Char} {ds : List Nat} (h : SpacedDigits cs ds) :
    cutSign cs = (false, cs) := by
  obtain ⟨c, rest, d, rfl, hd⟩ := h.exists_cons
  have hsigns : digitValue? '-' = none ∧ digitValue? '+' = none := by decide +kernel
  have hminus : c ≠ '-' := fun hc => by
    rw [hc, hsigns.1] at hd
    cases hd
  have hplus : c ≠ '+' := fun hc => by
    rw [hc, hsigns.2] at hd
    cases hd
  exact cutSign.eq_3 _ (fun _ h => hminus (List.cons.inj h).1) fun _ h => hplus (List.cons.inj h).1

/-- A numeral is what has spaced digits behind its sign. -/
theorem numeral_iff {cs : List Char} {negative : Bool} {ds : List Nat} :
    Numeral cs negative ds ↔ (cutSign cs).1 = negative ∧ SpacedDigits (cutSign cs).2 ds := by
  constructor
  · intro h
    cases h with
    | unsigned h =>
      rw [cutSign_of_digits h]
      exact ⟨rfl, h⟩
    | plus h => exact ⟨rfl, h⟩
    | minus h => exact ⟨rfl, h⟩
  · rintro ⟨rfl, h⟩
    revert h
    fun_cases cutSign cs with
    | case1 rest => exact .minus
    | case2 rest => exact .plus
    | case3 => exact .unsigned

theorem cutSign_suffix (cs : List Char) : (cutSign cs).2 <:+ cs := by
  fun_cases cutSign cs with
  | case1 rest => exact List.suffix_cons '-' rest
  | case2 rest => exact List.suffix_cons '+' rest
  | case3 => exact List.suffix_refl _

/-! ## Reading -/

theorem dropMark_ten (cs : List Char) : dropMark 10 cs = cs := by
  unfold dropMark
  split
  · exact if_neg nofun
  · exact if_neg nofun
  · rfl

/-- A text without blanks in front is read by its sign, the run of digits and underscores behind it, and what
comes after that. -/
theorem readInt_eq {cs : List Char} (hfirst : ∀ c rest, cs = c :: rest → isBlank c = false) :
    readInt 10 cs =
      let body := (cutSign cs).2
      let run := body.takeWhile isDigitOrLine
      let digits := run.filterMap digitValue?
      if !isSpaced run then .error .malformed
      else if maxDigits < digits.length then .error (.tooLong digits.length)
      else if (body.dropWhile isDigitOrLine).all fun c => isAsciiSpace (asciiForm c) then
        .ok (numeralValue (cutSign cs).1 digits)
      else .error .malformed := by
  have hfront : (cs.map asciiForm).dropWhile isAsciiSpace = cs.map asciiForm := by
    cases cs with
    | nil => rfl
    | cons c rest =>
      have hc : ¬ isAsciiSpace (asciiForm c) = true := fun h => by
        have hblank := isBlank_of_isAsciiSpace h
        rw [hfirst c rest rfl] at hblank
        cases hblank
      rw [List.map_cons, List.dropWhile_cons_of_neg hc]
  have hpart : (fun c => decide (c = '_') || (digitIn? 10 c).isSome) ∘ asciiForm = isDigitOrLine := by
    funext c
    have hline : asciiForm c = '_' ↔ c = '_' := asciiForm_eq_mark_iff (.inl rfl)
    rw [Function.comp_apply, digitIn?_asciiForm, isDigitOrLine, decide_eq_decide.mpr hline]
  have hdigits : digitIn? 10 ∘ asciiForm = digitValue? := funext digitIn?_asciiForm
  unfold readInt readNumeral
  simp only [hfront, cutSign_map_asciiForm, dropMark_ten, List.takeWhile_map, List.dropWhile_map, hpart,
    isSpaced_map_asciiForm, List.filterMap_map, hdigits, List.all_map, signed_valueIn, true_and]
  rfl

/-- What is read of a text without blanks at its ends: numerals of not too many digits. -/
theorem readInt_eq_ok_iff {cs : List Char} (h : Text.Trimmed cs) (i : Int) :
    readInt 10 cs = .ok i ↔ ∃ negative ds,
      Numeral cs negative ds ∧ ds.length ≤ maxDigits ∧ i = numeralValue negative ds := by
  rw [readInt_eq h.first]
  dsimp only
  constructor
  · intro hread
    split at hread
    · cases hread
    · rename_i hspaced
      split at hread
      · cases hread
      · rename_i hshort
        split at hread
        · rename_i hrest
          -- what comes after the run is blank to its end, which is the end of the text
          have hnil : (cutSign cs).2.dropWhile isDigitOrLine = [] := by
            by_contra hne
            obtain ⟨front, c, hc⟩ := (List.eq_nil_or_concat' _).resolve_left hne
            have hsuffix : (cutSign cs).2.dropWhile isDigitOrLine <:+ cs :=
              (List.dropWhile_suffix _).trans (cutSign_suffix cs)
            obtain ⟨before, hcs⟩ := hsuffix
            rw [hc, ← List.append_assoc] at hcs
            have hblank := h.last c _ hcs.symm
            rw [hc, List.all_append, List.all_cons, Bool.and_eq_true, Bool.and_eq_true] at hrest
            rw [isBlank_of_isAsciiSpace hrest.2.1] at hblank
            cases hblank
          have hall := List.dropWhile_eq_nil_iff.mp hnil
          have hrun : (cutSign cs).2.takeWhile isDigitOrLine = (cutSign cs).2 :=
            List.takeWhile_eq_self_iff.mpr hall
          rw [hrun] at hspaced hshort hread
          rw [Bool.not_eq_true, Bool.not_eq_false'] at hspaced
          exact ⟨_, _, numeral_iff.mpr ⟨rfl, spacedDigits_of_isSpaced hspaced hall⟩,
            Nat.le_of_not_lt hshort, (Except.ok.inj hread).symm⟩
        · cases hread
  · rintro ⟨negative, ds, hnumeral, hlen, rfl⟩
    obtain ⟨rfl, hdigits⟩ := numeral_iff.mp hnumeral
    have hrun : (cutSign cs).2.takeWhile isDigitOrLine = (cutSign cs).2 :=
      List.takeWhile_eq_self_iff.mpr hdigits.isDigitOrLine
    have hrest : (cutSign cs).2.dropWhile isDigitOrLine = [] :=
      List.dropWhile_eq_nil_iff.mpr hdigits.isDigitOrLine
    rw [hrun, hrest, hdigits.isSpaced, hdigits.filterMap_eq, if_neg (by decide),
      if_neg (Nat.not_lt.mpr hlen), List.all_nil, if_pos rfl]

/-! ## Texts of integers -/

/-- A numeral of at most 4300 digits stands in the text, with nothing around it but blanks, and the integer
is the one that it stands for. -/
def IsIntegerText (s : String) (i : Int) : Prop :=
  ∃ before numeral after negative ds, s.toList = before ++ numeral ++ after ∧
    (∀ c ∈ before, isBlank c = true) ∧ (∀ c ∈ after, isBlank c = true) ∧
    Numeral numeral negative ds ∧ ds.length ≤ 4300 ∧ i = numeralValue negative ds

theorem SpacedDigits.trimmed {cs : List Char} {ds : List Nat} (h : SpacedDigits cs ds) :
    Text.Trimmed cs := by
  constructor
  · intro c rest hcs
    obtain ⟨x, rest', d, hcs', hd⟩ := h.exists_cons
    obtain ⟨rfl, -⟩ := List.cons.inj (hcs.symm.trans hcs')
    exact isBlank_digit hd
  · intro c front hcs
    obtain ⟨d, hd⟩ := h.exists_digit_of_concat hcs
    exact isBlank_digit hd

theorem Numeral.trimmed {cs : List Char} {negative : Bool} {ds : List Nat}
    (h : Numeral cs negative ds) : cs ≠ [] ∧ Text.Trimmed cs := by
  have hsigned : ∀ {sign : Char} {cs : List Char}, isBlank sign = false → SpacedDigits cs ds →
      sign :: cs ≠ [] ∧ Text.Trimmed (sign :: cs) := by
    intro sign cs hsign h
    refine ⟨List.cons_ne_nil _ _, fun c rest hcs => (List.cons.inj hcs).1 ▸ hsign, fun c front hcs => ?_⟩
    cases front with
    | nil => exact absurd (List.cons.inj hcs).2 h.ne_nil
    | cons x front => exact h.trimmed.last c front (List.cons.inj hcs).2
  cases h with
  | unsigned h => exact ⟨h.ne_nil, h.trimmed⟩
  | plus h => exact hsigned (by decide +kernel) h
  | minus h => exact hsigned (by decide +kernel) h

theorem intOfText?_eq_some_iff (s : String) (i : Int) :
    intOfText? s = some i ↔ IsIntegerText s i := by
  have hoption : intOfText? s = some i ↔ readInt 10 (Text.strip s.toList) = .ok i := by
    rw [intOfText?]
    cases readInt 10 (Text.strip s.toList) with
    | error e => exact iff_of_false nofun nofun
    | ok j => rw [Except.toOption, Option.some.injEq, Except.ok.injEq]
  rw [hoption]
  constructor
  · intro h
    obtain ⟨before, after, hs, hbefore, hafter, htrimmed⟩ := Text.exists_strip s.toList
    obtain ⟨negative, ds, hnumeral, hlen, hi⟩ := (readInt_eq_ok_iff htrimmed i).mp h
    exact ⟨before, _, after, negative, ds, hs, hbefore, hafter, hnumeral, hlen, hi⟩
  · rintro ⟨before, numeral, after, negative, ds, hs, hbefore, hafter, hnumeral, hlen, hi⟩
    obtain ⟨hne, htrimmed⟩ := hnumeral.trimmed
    rw [hs, Text.strip_around hbefore hafter hne htrimmed, readInt_eq_ok_iff htrimmed]
    exact ⟨negative, ds, hnumeral, hlen, hi⟩

/-! ## Writing -/

theorem digitValue?_digitChar {d : Nat} (h : d < 10) : digitValue? (Nat.digitChar d) = some d := by
  have hall : ∀ d < 10, digitValue? (Nat.digitChar d) = some d := by decide +kernel
  exact hall d h

/-- What is written of a natural number are its digits. -/
theorem exists_spacedDigits_natChars (n : Nat) : ∃ ds, SpacedDigits (natChars n) ds ∧
    ds.length = (natChars n).length ∧ Nat.ofDigits 10 ds.reverse = n := by
  induction n using Nat.strongRecOn with
  | ind n ih =>
    by_cases hn : n < 10
    · refine ⟨[n], ?_, ?_, ?_⟩
      · rw [natChars_of_lt hn]
        exact .last (digitValue?_digitChar hn)
      · rw [natChars_of_lt hn]
        rfl
      · exact Nat.ofDigits_singleton
    · have hge : 10 ≤ n := Nat.le_of_not_lt hn
      obtain ⟨ds, hdigits, hlen, hvalue⟩ := ih (n / 10) (by omega)
      have hlast : n % 10 < 10 := Nat.mod_lt n (by decide)
      refine ⟨ds ++ [n % 10], ?_, ?_, ?_⟩
      · rw [natChars_of_ge hge]
        exact hdigits.concat (digitValue?_digitChar hlast)
      · rw [natChars_of_ge hge, List.length_append, List.length_append, hlen]
        rfl
      · rw [List.reverse_append, List.reverse_singleton, List.singleton_append, Nat.ofDigits_cons, hvalue]
        omega

theorem natChars_ne_nil (n : Nat) : natChars n ≠ [] := by
  obtain ⟨ds, hdigits, -⟩ := exists_spacedDigits_natChars n
  exact hdigits.ne_nil

/-- A number is written in digits. -/
theorem not_mem_natChars (n : Nat) {c : Char} (hc : isDigitOrLine c = false) :
    c ∉ natChars n := by
  intro hmem
  obtain ⟨ds, hdigits, -⟩ := exists_spacedDigits_natChars n
  rw [hdigits.isDigitOrLine c hmem] at hc
  cases hc

/-- The number of digits that are written. -/
theorem length_natChars_le_iff {k : Nat} (hk : 0 < k) (n : Nat) :
    (natChars n).length ≤ k ↔ n < 10 ^ k := by
  induction k generalizing n with
  | zero => exact absurd hk (Nat.lt_irrefl 0)
  | succ k ih =>
    have hpow : 10 ^ (k + 1) = 10 * 10 ^ k := Nat.pow_succ'
    have hpos : 0 < 10 ^ k := Nat.pow_pos (by decide)
    by_cases hn : n < 10
    · rw [natChars_of_lt hn, List.length_singleton, hpow]
      exact iff_of_true (by omega) (by omega)
    · rw [natChars_of_ge (Nat.le_of_not_lt hn), List.length_append, List.length_singleton,
        Nat.add_le_add_iff_right, hpow]
      by_cases hzero : k = 0
      · have hne : (natChars (n / 10)).length ≠ 0 := fun h =>
          natChars_ne_nil _ (List.eq_nil_of_length_eq_zero h)
        subst hzero
        exact iff_of_false (by omega) (by omega)
      · rw [ih (by omega) (n / 10)]
        omega

/-- An integer as it may be written: with a plus if it is not negative, and with zeros in front of the first digit. -/
def writtenInt (plus : Bool) (zeros : Nat) (i : Int) : List Char :=
  (if i < 0 then ['-'] else if plus then ['+'] else []) ++
    (List.replicate zeros '0' ++ natChars i.natAbs)

theorem intChars_eq_writtenInt (i : Int) : intChars i = writtenInt false 0 i := by
  unfold intChars writtenInt
  split <;> rfl

/-- What is written of an integer is a numeral, and the integer is what it stands for. -/
theorem exists_numeral_writtenInt (plus : Bool) (zeros : Nat) (i : Int) :
    ∃ negative ds, Numeral (writtenInt plus zeros i) negative ds ∧
      ds.length = zeros + (natChars i.natAbs).length ∧ i = numeralValue negative ds := by
  obtain ⟨ds, hdigits, hlen, hvalue⟩ := exists_spacedDigits_natChars i.natAbs
  have hall := hdigits.zeros zeros
  have hlength : (List.replicate zeros 0 ++ ds).length = zeros + (natChars i.natAbs).length := by
    rw [List.length_append, List.length_replicate, hlen]
  have hzeros : Nat.ofDigits 10 (List.replicate zeros 0 ++ ds).reverse = i.natAbs := by
    rw [List.reverse_append, List.reverse_replicate, Nat.ofDigits_append_replicate_zero, hvalue]
  by_cases hneg : i < 0
  · refine ⟨true, List.replicate zeros 0 ++ ds, ?_, hlength, ?_⟩
    · rw [writtenInt, if_pos hneg]
      exact .minus hall
    · rw [numeralValue, if_pos rfl, hzeros]
      omega
  · refine ⟨false, List.replicate zeros 0 ++ ds, ?_, hlength, ?_⟩
    · rw [writtenInt, if_neg hneg]
      cases plus with
      | true => exact .plus hall
      | false => exact .unsigned hall
    · rw [numeralValue, if_neg Bool.false_ne_true, hzeros]
      omega

/-- An integer is read from what is written of it, between blanks. -/
theorem isIntegerText_writtenInt {before after : List Char} (hbefore : ∀ c ∈ before, isBlank c = true)
    (hafter : ∀ c ∈ after, isBlank c = true) (plus : Bool) {zeros : Nat} {i : Int}
    (hlen : zeros + (natChars i.natAbs).length ≤ 4300) :
    IsIntegerText (String.ofList (before ++ writtenInt plus zeros i ++ after)) i := by
  obtain ⟨negative, ds, hnumeral, hlength, hvalue⟩ := exists_numeral_writtenInt plus zeros i
  refine ⟨before, _, after, negative, ds, String.toList_ofList, hbefore, hafter, hnumeral, ?_, hvalue⟩
  omega

end Number

open Number (IsIntegerText intText natChars writtenInt)

/-- A text is taken for an integer exactly if a numeral of at most 4300 digits stands in it between blanks, and for
the one that the numeral stands for; any other text is of a wrong type. So an integer is read back from however it is
written, blanks around it, with a plus and with zeros in front, as long as that takes no more digits, and from its own
text if that has no more. -/
theorem coerce_integerText :
    (∀ (s : String) (v : Value),
        coerce (.text s) (.type .int) = .ok v ↔ ∃ i, IsIntegerText s i ∧ v = .int i) ∧
      (∀ s, (∀ i, ¬ IsIntegerText s i) →
        coerce (.text s) (.type .int) = .error (.mismatch (.notInteger (.text s)))) ∧
      (∀ (before after : List Char) (plus : Bool) (zeros : Nat) (i : Int),
        (∀ c ∈ before, Text.isBlank c = true) → (∀ c ∈ after, Text.isBlank c = true) →
        zeros + (natChars i.natAbs).length ≤ 4300 →
        coerce (.text (String.ofList (before ++ writtenInt plus zeros i ++ after))) (.type .int) =
          .ok (.int i)) ∧
      ∀ i : Int, i.natAbs < 10 ^ 4300 → coerce (.text (intText i)) (.type .int) = .ok (.int i) := by
  have hread : ∀ {s i}, IsIntegerText s i → coerce (.text s) (.type .int) = .ok (.int i) := by
    intro s i h
    simp only [coerce, Value.toInteger, Value.bare, (Number.intOfText?_eq_some_iff s i).mpr h]
  have hother : ∀ {s}, (∀ i, ¬ IsIntegerText s i) →
      coerce (.text s) (.type .int) = .error (.mismatch (.notInteger (.text s))) := by
    intro s h
    have hnone : Number.intOfText? s = none := Option.eq_none_iff_forall_ne_some.mpr fun i hi =>
      h i ((Number.intOfText?_eq_some_iff s i).mp hi)
    simp only [coerce, Value.toInteger, Value.bare, hnone]
  refine ⟨fun s v => ⟨fun h => ?_, ?_⟩, fun s => hother, ?_, fun i hi => ?_⟩
  · by_cases hex : ∃ i, IsIntegerText s i
    · obtain ⟨i, hi⟩ := hex
      rw [hread hi] at h
      exact ⟨i, hi, (Except.ok.inj h).symm⟩
    · rw [hother (not_exists.mp hex)] at h
      cases h
  · rintro ⟨i, hi, rfl⟩
    exact hread hi
  · intro before after plus zeros i hbefore hafter hlen
    exact hread (Number.isIntegerText_writtenInt hbefore hafter plus hlen)
  · have hlen : 0 + (natChars i.natAbs).length ≤ 4300 := by
      rw [Nat.zero_add, Number.length_natChars_le_iff (by decide)]
      exact hi
    have htext : intText i = String.ofList ([] ++ writtenInt false 0 i ++ []) := by
      rw [intText, Number.intChars_eq_writtenInt, List.nil_append, List.append_nil]
    rw [htext]
    exact hread (Number.isIntegerText_writtenInt (List.forall_mem_nil _) (List.forall_mem_nil _) false hlen)

/-- An integer with zeros in front and with blanks around it, its own text, and a text with one underscore too many. -/
theorem coerce_integerText_padded :
    (∀ c ∈ [' ', '\u3000'], Text.isBlank c = true) ∧ 2 + (natChars (-42 : Int).natAbs).length ≤ 4300 ∧
      (-42 : Int).natAbs < 10 ^ 4300 ∧ (∀ i, ¬ IsIntegerText "4__2" i) ∧
      coerce (.text " \u3000-0042\n") (.type .int) = .ok (.int (-42)) ∧
      coerce (.text (intText (-42))) (.type .int) = .ok (.int (-42)) ∧
      coerce (.text "4__2") (.type .int) = .error (.mismatch (.notInteger (.text "4__2"))) := by
  have hbefore : ∀ c ∈ [' ', '\u3000'], Text.isBlank c = true :=
    List.forall_mem_cons.mpr ⟨by decide +kernel, List.forall_mem_singleton.mpr (by decide +kernel)⟩
  have hafter : ∀ c ∈ ['\n'], Text.isBlank c = true := List.forall_mem_singleton.mpr (by decide +kernel)
  have hlen : 2 + (natChars (-42 : Int).natAbs).length ≤ 4300 := by decide +kernel
  have hsmall : (-42 : Int).natAbs < 10 ^ 4300 := by
    rw [← Number.length_natChars_le_iff (by decide)]
    omega
  have hno : ∀ i, ¬ IsIntegerText "4__2" i := by
    intro i hi
    have hnone : Number.intOfText? "4__2" = none := by decide +kernel
    rw [← Number.intOfText?_eq_some_iff, hnone] at hi
    cases hi
  have htext : String.ofList ([' ', '\u3000'] ++ writtenInt true 2 (-42) ++ ['\n']) = " \u3000-0042\n" := by
    decide +kernel
  refine ⟨hbefore, hlen, hsmall, hno, ?_, coerce_integerText.2.2.2 (-42) hsmall,
    coerce_integerText.2.1 "4__2" hno⟩
  rw [← htext]
  exact coerce_integerText.2.2.1 _ _ true 2 (-42) hbefore hafter hlen

end BuildScript
