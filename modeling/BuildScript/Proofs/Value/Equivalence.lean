import BuildScript.Proofs.Number.Standard
import BuildScript.Value.Equal
import Mathlib.Data.List.Forall2

/-!
Equality of values is an equivalence relation (`Value.equivalence`), on values in which every number is one and in
standard form and no dictionary has two equal keys (`Value.Sound`). Dictionaries that entries make are of that kind
(`Value.sound_dictOf`).

A value that holds no others is compared by a mark of its own (`Value.eq_iff_of_mark`), so that flags, integers and
floating-point numbers need not be set against one another in pairs.
-/

namespace BuildScript.Value

open Number (Binary64)
open Number.Binary64 (Standard amount eqInt_finite_iff eq_finite_iff)

/-! ## Values that equal themselves -/

/-- Whether a value is neither a collection nor a floating-point number of whatever type. -/
def isScalar (v : Value) : Bool :=
  match v.bare with
  | float _ | list _ | tuple _ | dict _ => false
  | _ => true

/-- Every number that is compared is one and in standard form, and no dictionary has two equal keys. -/
inductive Sound : Value → Prop where
  | scalar {v : Value} (h : v.isScalar = true) : Sound v
  | float {v : Value} {x : Binary64} (hv : v.bare = .float x) (h : x.Standard) (hx : x ≠ .nan) : Sound v
  | list {xs : List Value} (h : ∀ x ∈ xs, Sound x) : Sound (.list xs)
  | tuple {xs : List Value} (h : ∀ x ∈ xs, Sound x) : Sound (.tuple xs)
  | dict {es : List (Value × Value)} (keys : ∀ e ∈ es, Sound e.1) (values : ∀ e ∈ es, Sound e.2)
      (distinct : es.Pairwise fun a b => eq a.1 b.1 = false) : Sound (.dict es)

namespace Sound

theorem of_list {xs : List Value} (h : Sound (.list xs)) : ∀ x ∈ xs, Sound x := by
  cases h with
  | scalar h => cases h
  | float h => cases h
  | list h => exact h

theorem of_tuple {xs : List Value} (h : Sound (.tuple xs)) : ∀ x ∈ xs, Sound x := by
  cases h with
  | scalar h => cases h
  | float h => cases h
  | tuple h => exact h

theorem of_float {v : Value} {x : Binary64} (hv : v.bare = .float x) (h : Sound v) : x.Standard := by
  cases h with
  | scalar h =>
    rw [isScalar, hv] at h
    cases h
  | float hv' h _ =>
    rw [hv] at hv'
    cases hv'
    exact h
  | _ => cases hv

theorem of_dict {es : List (Value × Value)} (h : Sound (.dict es)) :
    (∀ e ∈ es, Sound e.1) ∧ (∀ e ∈ es, Sound e.2) ∧ es.Pairwise fun a b => eq a.1 b.1 = false := by
  cases h with
  | scalar h => cases h
  | float h => cases h
  | dict keys values distinct => exact ⟨keys, values, distinct⟩

end Sound

/-! ## Marks -/

/-- What a value that holds no others is compared by. -/
inductive Mark where
  | nothing
  | number (q : ℚ)
  | infinity (negative : Bool)
  | text (s : String)
  | bytes (bs : List UInt8)
  | assembly (name version : String) (location : Option Files.Path)
  | target (id : Nat)
  | property (id : Nat)
  | taskBuilder (id : Nat)
  | platform (id : Nat)
  | host (id : Nat)

/-- The mark of a floating-point number. -/
def floatMark? : Binary64 → Option Mark
  | .nan => Option.none
  | .infinity negative => some (.infinity negative)
  | .finite negative m e => some (.number (amount negative m e))

/-- The mark of a value that is a number or holds no others. -/
def mark? (v : Value) : Option Mark :=
  match v.bare with
  | none => some .nothing
  | bool b => some (.number (flagNumber b))
  | int i => some (.number i)
  | float x => floatMark? x
  | text s => some (.text s)
  | bytes bs => some (.bytes bs)
  | assembly a => some (.assembly a.name a.version a.location)
  | target id _ => some (.target id)
  | property id .. => some (.property id)
  | taskBuilder id .. => some (.taskBuilder id)
  | platform id _ => some (.platform id)
  | host id _ => some (.host id)
  | list _ | tuple _ | dict _ => Option.none

theorem exists_mark_of_scalar {v : Value} (h : v.isScalar = true) : ∃ m, v.mark? = some m := by
  unfold isScalar at h
  unfold mark?
  cases hv : v.bare <;> rw [hv] at h <;> first | exact ⟨_, rfl⟩ | cases h

theorem exists_mark_of_float {v : Value} {x : Binary64} (hv : v.bare = .float x) (h : x ≠ .nan) :
    ∃ m, v.mark? = some m := by
  rw [mark?, hv]
  cases x with
  | nan => exact absurd rfl h
  | infinity negative => exact ⟨_, rfl⟩
  | finite negative m e => exact ⟨_, rfl⟩

theorem eqInt_iff_mark (x : Binary64) (i : Int) : x.eqInt i = true ↔ some (.number i) = floatMark? x := by
  cases x with
  | nan => simp [Binary64.eqInt, floatMark?]
  | infinity negative => simp [Binary64.eqInt, floatMark?]
  | finite negative m e =>
    simp only [eqInt_finite_iff, floatMark?, Option.some.injEq, Mark.number.injEq]
    exact eq_comm

theorem eq_float_iff_mark {x y : Binary64} (hx : x.Standard) (hy : y.Standard) {m : Mark}
    (hm : floatMark? x = some m) : x.eq y = true ↔ some m = floatMark? y := by
  cases x with
  | nan => cases hm
  | infinity a =>
    obtain rfl := Option.some.inj hm
    cases y <;> simp [Binary64.eq, floatMark?]
  | finite a m e =>
    obtain rfl := Option.some.inj hm
    cases y with
    | nan => simp [Binary64.eq, floatMark?]
    | infinity b => simp [Binary64.eq, floatMark?]
    | finite b n f => simp [eq_finite_iff hx hy, floatMark?]

/-- An integer is equal to just the values with its mark. -/
theorem eqInteger_iff_mark (i : Int) (w : Value) : eqInteger i w = true ↔ some (.number i) = w.mark? := by
  unfold eqInteger mark?
  cases w.bare with
  | float x => exact eqInt_iff_mark x i
  | _ => simp

/-- A text is equal to just the values with its mark. -/
theorem eqText_iff_mark (s : String) (w : Value) : eqText s w = true ↔ some (.text s) = w.mark? := by
  unfold eqText mark?
  cases w.bare with
  | float x => cases x <;> simp [floatMark?]
  | _ => simp

/-- A floating-point number is equal to just the values with its mark. -/
theorem eqNumber_iff_mark {x : Binary64} (hx : x.Standard) {w : Value} (hw : w.Sound) {m : Mark}
    (hm : floatMark? x = some m) : eqNumber x w = true ↔ some m = w.mark? := by
  have hinteger (i : Int) : x.eqInt i = true ↔ m = .number i := by
    rw [eqInt_iff_mark, hm, Option.some.injEq, eq_comm]
  have hnumber : (∃ q, m = .number q) ∨ ∃ negative, m = .infinity negative := by
    cases x with
    | nan => cases hm
    | infinity negative => exact .inr ⟨negative, (Option.some.inj hm).symm⟩
    | finite a n e => exact .inl ⟨_, (Option.some.inj hm).symm⟩
  unfold eqNumber mark?
  cases hbare : w.bare with
  | bool b => simp only [hinteger, Option.some.injEq]
  | int j => simp only [hinteger, Option.some.injEq]
  | float y => exact eq_float_iff_mark hx (hw.of_float hbare) hm
  | _ => rcases hnumber with ⟨q, rfl⟩ | ⟨negative, rfl⟩ <;> simp

/-- A value with a mark is equal to just those with the same mark. -/
theorem eq_iff_of_mark {v w : Value} (hv : v.Sound) (hw : w.Sound) {m : Mark} (hm : v.mark? = some m) :
    eq v w = true ↔ some m = w.mark? := by
  cases v with
  | bool a =>
    obtain rfl := Option.some.inj hm
    exact eqInteger_iff_mark (flagNumber a) w
  | int i =>
    obtain rfl := Option.some.inj hm
    exact eqInteger_iff_mark i w
  | float x => exact eqNumber_iff_mark (hv.of_float rfl) hw hm
  | text s =>
    obtain rfl := Option.some.inj hm
    exact eqText_iff_mark s w
  | host id h =>
    unfold eq
    cases hnature : h.nature with
    | text s =>
      simp only [mark?, bare, hnature, Option.some.injEq] at hm
      subst hm
      exact eqText_iff_mark s w
    | int i =>
      simp only [mark?, bare, hnature, Option.some.injEq] at hm
      subst hm
      exact eqInteger_iff_mark i w
    | float x =>
      have hbare : (host id h).bare = float x := by simp only [bare, hnature]
      rw [mark?, hbare] at hm
      exact eqNumber_iff_mark (hv.of_float hbare) hw hm
    | other =>
      simp only [mark?, bare, hnature, Option.some.injEq] at hm
      subst hm
      unfold mark?
      cases w.bare with
      | float y => cases y <;> simp [floatMark?]
      | _ => simp
  | list xs => cases hm
  | tuple xs => cases hm
  | dict es => cases hm
  | _ =>
    obtain rfl := Option.some.inj hm
    cases w with
    | float y => cases y <;> simp [eq, mark?, bare, floatMark?]
    | host k h =>
      cases hnature : h.nature with
      | float y => cases y <;> simp [eq, mark?, bare, hnature, floatMark?]
      | _ => simp [eq, mark?, bare, hnature]
    | _ => simp [eq, mark?, bare, Assembly.same, and_assoc]

/-! ## Collections -/

theorem eqAll_iff_forall₂ (xs ys : List Value) :
    eqAll xs ys = true ↔ List.Forall₂ (fun x y => eq x y = true) xs ys := by
  induction xs generalizing ys with
  | nil => cases ys <;> simp [eqAll]
  | cons x xs ih => cases ys <;> simp [eqAll, ih]

theorem eq_list_iff (xs : List Value) (w : Value) :
    eq (.list xs) w = true ↔ ∃ ys, w = .list ys ∧ List.Forall₂ (fun x y => eq x y = true) xs ys := by
  cases w <;> simp [eq, eqAll_iff_forall₂]

theorem eq_tuple_iff (xs : List Value) (w : Value) :
    eq (.tuple xs) w = true ↔ ∃ ys, w = .tuple ys ∧ List.Forall₂ (fun x y => eq x y = true) xs ys := by
  cases w <;> simp [eq, eqAll_iff_forall₂]

/-- Two entries have equal keys and equal values. -/
def SameEntry (e f : Value × Value) : Prop := eq e.1 f.1 = true ∧ eq e.2 f.2 = true

theorem eqEntries_iff (es fs : List (Value × Value)) :
    eqEntries es fs = true ↔ ∀ e ∈ es, ∃ f ∈ fs, SameEntry e f := by
  induction es with
  | nil => simp [eqEntries]
  | cons e es ih => simp [eqEntries, ih, SameEntry]

theorem eq_dict_iff (es : List (Value × Value)) (w : Value) :
    eq (.dict es) w = true ↔
      ∃ fs, w = .dict fs ∧ es.length = fs.length ∧ ∀ e ∈ es, ∃ f ∈ fs, SameEntry e f := by
  cases w <;> simp [eq, eqEntries_iff]

/-! ## An equivalence relation -/

theorem forall₂_swap_of_mem {α : Type} {R : α → α → Prop} {xs ys : List α}
    (h : ∀ x ∈ xs, ∀ y ∈ ys, R x y → R y x) (hxy : List.Forall₂ R xs ys) : List.Forall₂ R ys xs := by
  induction hxy with
  | nil => exact .nil
  | @cons x y xs ys hR _ ih =>
    refine .cons (h x List.mem_cons_self y List.mem_cons_self hR) (ih fun x' hx' y' hy' => ?_)
    exact h x' (List.mem_cons_of_mem x hx') y' (List.mem_cons_of_mem y hy')

theorem forall₂_trans_of_mem {α : Type} {R : α → α → Prop} {xs ys zs : List α}
    (h : ∀ x ∈ xs, ∀ y ∈ ys, ∀ z ∈ zs, R x y → R y z → R x z) (hxy : List.Forall₂ R xs ys)
    (hyz : List.Forall₂ R ys zs) : List.Forall₂ R xs zs := by
  induction hxy generalizing zs with
  | nil =>
    cases hyz
    exact .nil
  | @cons x y xs ys hR _ ih =>
    cases hyz with
    | @cons _ z _ zs hR' hrest =>
      refine .cons (h x List.mem_cons_self y List.mem_cons_self z List.mem_cons_self hR hR') ?_
      refine ih (fun x' hx' y' hy' z' hz' => ?_) hrest
      exact h x' (List.mem_cons_of_mem x hx') y' (List.mem_cons_of_mem y hy') z'
        (List.mem_cons_of_mem z hz')

theorem eq_refl {a : Value} (ha : a.Sound) : eq a a = true := by
  induction ha with
  | scalar h =>
    obtain ⟨m, hm⟩ := exists_mark_of_scalar h
    exact (eq_iff_of_mark (.scalar h) (.scalar h) hm).mpr hm.symm
  | float hv h hx =>
    obtain ⟨m, hm⟩ := exists_mark_of_float hv hx
    exact (eq_iff_of_mark (.float hv h hx) (.float hv h hx) hm).mpr hm.symm
  | list _ ih => exact (eq_list_iff ..).mpr ⟨_, rfl, List.forall₂_same.mpr ih⟩
  | tuple _ ih => exact (eq_tuple_iff ..).mpr ⟨_, rfl, List.forall₂_same.mpr ih⟩
  | dict _ _ _ ihk ihv =>
    exact (eq_dict_iff ..).mpr ⟨_, rfl, rfl, fun e he => ⟨e, he, ihk e he, ihv e he⟩⟩

theorem eq_trans {a b c : Value} (ha : a.Sound) (hb : b.Sound) (hc : c.Sound) (hab : eq a b = true)
    (hbc : eq b c = true) : eq a c = true := by
  have hmarked {a m} (ha : Sound a) (hm : a.mark? = some m) {b c : Value} (hb : b.Sound)
      (hc : c.Sound) (hab : eq a b = true) (hbc : eq b c = true) : eq a c = true := by
    rw [eq_iff_of_mark ha hb hm] at hab
    rw [eq_iff_of_mark hb hc hab.symm] at hbc
    exact (eq_iff_of_mark ha hc hm).mpr hbc
  induction ha generalizing b c with
  | scalar h =>
    obtain ⟨m, hm⟩ := exists_mark_of_scalar h
    exact hmarked (.scalar h) hm hb hc hab hbc
  | float hv h hx =>
    obtain ⟨m, hm⟩ := exists_mark_of_float hv hx
    exact hmarked (.float hv h hx) hm hb hc hab hbc
  | list _ ih =>
    obtain ⟨ys, rfl, hxy⟩ := (eq_list_iff ..).mp hab
    obtain ⟨zs, rfl, hyz⟩ := (eq_list_iff ..).mp hbc
    refine (eq_list_iff ..).mpr ⟨zs, rfl, forall₂_trans_of_mem (fun x hx y hy z hz => ?_) hxy hyz⟩
    exact ih x hx (hb.of_list y hy) (hc.of_list z hz)
  | tuple _ ih =>
    obtain ⟨ys, rfl, hxy⟩ := (eq_tuple_iff ..).mp hab
    obtain ⟨zs, rfl, hyz⟩ := (eq_tuple_iff ..).mp hbc
    refine (eq_tuple_iff ..).mpr ⟨zs, rfl, forall₂_trans_of_mem (fun x hx y hy z hz => ?_) hxy hyz⟩
    exact ih x hx (hb.of_tuple y hy) (hc.of_tuple z hz)
  | dict _ _ _ ihk ihv =>
    obtain ⟨fs, rfl, hlength, hfs⟩ := (eq_dict_iff ..).mp hab
    obtain ⟨gs, rfl, hlength', hgs⟩ := (eq_dict_iff ..).mp hbc
    refine (eq_dict_iff ..).mpr ⟨gs, rfl, hlength.trans hlength', fun e he => ?_⟩
    obtain ⟨f, hf, hef⟩ := hfs e he
    obtain ⟨g, hg, hfg⟩ := hgs f hf
    exact ⟨g, hg, ihk e he (hb.of_dict.1 f hf) (hc.of_dict.1 g hg) hef.1 hfg.1,
      ihv e he (hb.of_dict.2.1 f hf) (hc.of_dict.2.1 g hg) hef.2 hfg.2⟩

/-- Where as many items as there are partners have one each, and no two the same, all partners are taken. -/
theorem all_taken {α β : Type} {R : α → β → Prop} {xs : List α} {ys : List β}
    (hlength : xs.length = ys.length) (h : ∀ x ∈ xs, ∃ y ∈ ys, R x y)
    (hdistinct : xs.Pairwise fun x x' => ∀ y ∈ ys, R x y → ¬R x' y) : ∀ y ∈ ys, ∃ x ∈ xs, R x y := by
  induction xs generalizing ys with
  | nil =>
    obtain rfl := List.length_eq_zero_iff.mp hlength.symm
    exact nofun
  | cons x xs ih =>
    obtain ⟨y, hy, hR⟩ := h x List.mem_cons_self
    obtain ⟨front, back, rfl⟩ := List.append_of_mem hy
    obtain ⟨hfirst, hrest⟩ := List.pairwise_cons.mp hdistinct
    have hothers : ∀ z ∈ front ++ back, z ∈ front ++ y :: back := fun z hz => by
      rcases List.mem_append.mp hz with hz | hz
      · exact List.mem_append_left _ hz
      · exact List.mem_append_right _ (List.mem_cons_of_mem y hz)
    have hleft : ∀ x' ∈ xs, ∃ z ∈ front ++ back, R x' z := by
      intro x' hx'
      obtain ⟨z, hz, hR'⟩ := h x' (List.mem_cons_of_mem x hx')
      refine ⟨z, ?_, hR'⟩
      rcases List.mem_append.mp hz with hz | hz
      · exact List.mem_append_left _ hz
      · rcases List.mem_cons.mp hz with rfl | hz
        · exact absurd hR' (hfirst x' hx' z hy hR)
        · exact List.mem_append_right _ hz
    have htaken := ih (by simp only [List.length_append, List.length_cons] at hlength ⊢; omega) hleft
      (hrest.imp fun hne z hz => hne z (hothers z hz))
    intro z hz
    rcases List.mem_append.mp hz with hz | hz
    · exact (htaken z (List.mem_append_left _ hz)).imp fun x' hx' => ⟨List.mem_cons_of_mem x hx'.1, hx'.2⟩
    · rcases List.mem_cons.mp hz with rfl | hz
      · exact ⟨x, List.mem_cons_self, hR⟩
      · exact (htaken z (List.mem_append_right _ hz)).imp
          fun x' hx' => ⟨List.mem_cons_of_mem x hx'.1, hx'.2⟩

theorem eq_symm {a b : Value} (ha : a.Sound) (hb : b.Sound) (hab : eq a b = true) : eq b a = true := by
  have hmarked {a m} (ha : Sound a) (hm : a.mark? = some m) {b : Value} (hb : b.Sound)
      (hab : eq a b = true) : eq b a = true :=
    (eq_iff_of_mark hb ha ((eq_iff_of_mark ha hb hm).mp hab).symm).mpr hm.symm
  induction ha generalizing b with
  | scalar h =>
    obtain ⟨m, hm⟩ := exists_mark_of_scalar h
    exact hmarked (.scalar h) hm hb hab
  | float hv h hx =>
    obtain ⟨m, hm⟩ := exists_mark_of_float hv hx
    exact hmarked (.float hv h hx) hm hb hab
  | list _ ih =>
    obtain ⟨ys, rfl, hxy⟩ := (eq_list_iff ..).mp hab
    refine (eq_list_iff ..).mpr ⟨_, rfl, forall₂_swap_of_mem (fun x hx y hy => ?_) hxy⟩
    exact ih x hx (hb.of_list y hy)
  | tuple _ ih =>
    obtain ⟨ys, rfl, hxy⟩ := (eq_tuple_iff ..).mp hab
    refine (eq_tuple_iff ..).mpr ⟨_, rfl, forall₂_swap_of_mem (fun x hx y hy => ?_) hxy⟩
    exact ih x hx (hb.of_tuple y hy)
  | @dict es keys values distinct ihk ihv =>
    obtain ⟨fs, rfl, hlength, hfs⟩ := (eq_dict_iff ..).mp hab
    obtain ⟨hkeys, hvalues, -⟩ := hb.of_dict
    -- two entries that have one partner would have equal keys
    have hpartners : es.Pairwise fun e e' => ∀ f ∈ fs, SameEntry e f → ¬SameEntry e' f := by
      refine distinct.imp_of_mem fun he he' hne f hf hef hef' => ?_
      have hsame := eq_trans (keys _ he) (hkeys f hf) (keys _ he') hef.1
        (ihk _ he' (hkeys f hf) hef'.1)
      rw [hne] at hsame
      cases hsame
    have htaken := all_taken hlength hfs hpartners
    refine (eq_dict_iff ..).mpr ⟨es, rfl, hlength.symm, fun f hf => ?_⟩
    obtain ⟨e, he, hef⟩ := htaken f hf
    exact ⟨e, he, ihk e he (hkeys f hf) hef.1, ihv e he (hvalues f hf) hef.2⟩

/-- Equality of values is an equivalence relation. -/
theorem equivalence : Equivalence fun a b : { v : Value // v.Sound } => eq a.1 b.1 = true where
  refl a := eq_refl a.2
  symm {a b} h := eq_symm a.2 b.2 h
  trans {a b c} h h' := eq_trans a.2 b.2 c.2 h h'

/-! ## Dictionaries that entries make -/

section Entries

variable {k v : Value} {es : List (Value × Value)}

/-- What is put in is found there, besides what was there. -/
theorem mem_putEntry {e : Value × Value} (h : e ∈ putEntry k v es) :
    (e.1 = k ∨ ∃ e' ∈ es, e.1 = e'.1) ∧ (e.2 = v ∨ ∃ e' ∈ es, e.2 = e'.2) := by
  induction es with
  | nil =>
    obtain rfl := List.mem_singleton.mp h
    exact ⟨.inl rfl, .inl rfl⟩
  | cons first rest ih =>
    have hlater (hrest : (e.1 = k ∨ ∃ e' ∈ rest, e.1 = e'.1) ∧ (e.2 = v ∨ ∃ e' ∈ rest, e.2 = e'.2)) :
        (e.1 = k ∨ ∃ e' ∈ first :: rest, e.1 = e'.1) ∧ (e.2 = v ∨ ∃ e' ∈ first :: rest, e.2 = e'.2) :=
      ⟨hrest.1.imp_right fun ⟨e', he', hkey⟩ => ⟨e', List.mem_cons_of_mem first he', hkey⟩,
        hrest.2.imp_right fun ⟨e', he', hvalue⟩ => ⟨e', List.mem_cons_of_mem first he', hvalue⟩⟩
    rw [putEntry] at h
    split at h
    · rcases List.mem_cons.mp h with rfl | h
      · exact ⟨.inr ⟨first, List.mem_cons_self, rfl⟩, .inl rfl⟩
      · exact hlater ⟨.inr ⟨e, h, rfl⟩, .inr ⟨e, h, rfl⟩⟩
    · rcases List.mem_cons.mp h with rfl | h
      · exact ⟨.inr ⟨first, List.mem_cons_self, rfl⟩, .inr ⟨first, List.mem_cons_self, rfl⟩⟩
      · exact hlater (ih h)

/-- Keys that are not equal stay so. -/
theorem distinct_putEntry (h : es.Pairwise fun a b => eq a.1 b.1 = false) :
    (putEntry k v es).Pairwise fun a b => eq a.1 b.1 = false := by
  induction es with
  | nil => exact List.pairwise_singleton ..
  | cons first rest ih =>
    obtain ⟨hfirst, hrest⟩ := List.pairwise_cons.mp h
    rw [putEntry]
    split
    · exact List.pairwise_cons.mpr ⟨hfirst, hrest⟩
    · rename_i hne
      refine List.pairwise_cons.mpr ⟨fun e he => ?_, ih hrest⟩
      rcases (mem_putEntry he).1 with hkey | ⟨e', he', hkey⟩
      · rw [hkey]
        exact Bool.eq_false_iff.mpr hne
      · rw [hkey]
        exact hfirst e' he'

theorem sound_putEntry (hk : k.Sound) (hv : v.Sound) (h : Sound (.dict es)) :
    Sound (.dict (putEntry k v es)) := by
  obtain ⟨hkeys, hvalues, hdistinct⟩ := h.of_dict
  refine .dict (fun e he => ?_) (fun e he => ?_) (distinct_putEntry hdistinct)
  · rcases (mem_putEntry he).1 with hkey | ⟨e', he', hkey⟩
    · exact hkey ▸ hk
    · exact hkey ▸ hkeys e' he'
  · rcases (mem_putEntry he).2 with hvalue | ⟨e', he', hvalue⟩
    · exact hvalue ▸ hv
    · exact hvalue ▸ hvalues e' he'

end Entries

/-- Dictionaries that entries make have no two equal keys. -/
theorem sound_dictOf {entries : List (Value × Value)} (h : ∀ e ∈ entries, e.1.Sound ∧ e.2.Sound) :
    Sound (dictOf entries) := by
  have hfold (es : List (Value × Value)) (hes : Sound (.dict es)) :
      Sound (.dict (entries.foldl (fun es e => putEntry e.1 e.2 es) es)) := by
    induction entries generalizing es with
    | nil => exact hes
    | cons e entries ih =>
      obtain ⟨hentry, hrest⟩ := List.forall_mem_cons.mp h
      exact ih hrest _ (sound_putEntry hentry.1 hentry.2 hes)
  exact hfold [] (.dict nofun nofun .nil)

end BuildScript.Value
