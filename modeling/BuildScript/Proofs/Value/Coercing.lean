import BuildScript.Proofs.Dispatch.Arguments
import BuildScript.Proofs.Number.Overflow
import BuildScript.Proofs.Value.Equivalence
import BuildScript.Proofs.Value.Showing

/-!
What values are coerced to. The relation `CoercesTo` says it by the kinds of values, without the
order in which a coercion tests them. Main statements: a coercion gives a value that is coerced to itself,
and of the declared type unless it was given in and is derived from that type
(`coerce_sound_idempotent`), and what it raises is a mismatch of types but for integers that overflow and
for values that the message cannot show (`coerce_fails_iff`).
-/

namespace BuildScript

open Number (intOfText? floatOfText?)
open Number.Binary64 (ofInt? overflowBound ofInt?_eq_none_iff)

/-- An instance of a class of the host that is derived from that of texts, or of integers. -/
inductive Value.DerivedFrom : Value → TypeName → Prop where
  | text {id : Nat} {h : Instance} {s : String} : h.nature = .text s → DerivedFrom (.host id h) .text
  | int {id : Nat} {h : Instance} {i : Int} : h.nature = .int i → DerivedFrom (.host id h) .int

/-- A number, whatever its type, that is not a flag. -/
def Value.IsNumber (v : Value) : Prop := (∃ i, v.bare = .int i) ∨ ∃ x, v.bare = .float x

/-- What a value is coerced to: itself if it is of the declared type, what its text reads as, or the
number nearest to an integer. What is derived from a text or an integer is also one. -/
inductive CoercesTo : Value → TypeName → Value → Prop where
  | self {v : Value} {t : TypeName} : v.type = t → CoercesTo v t v
  | derived {v : Value} {t : TypeName} : v.DerivedFrom t → CoercesTo v t v
  | yes {v : Value} {s : String} :
      v.bare = .text s → Text.lower s = "true" → CoercesTo v .bool (.bool true)
  | no {v : Value} {s : String} :
      v.bare = .text s → Text.lower s = "false" → CoercesTo v .bool (.bool false)
  | integer {v : Value} {s : String} {i : Int} :
      v.bare = .text s → intOfText? s = some i → CoercesTo v .int (.int i)
  | number {v : Value} {s : String} {x : Number.Binary64} :
      v.bare = .text s → floatOfText? s = some x → CoercesTo v .float (.float x)
  | nearest {v : Value} {i : Int} {x : Number.Binary64} :
      v.bare = .int i → ofInt? i = some x → CoercesTo v .float (.float x)
  | alike {v : Value} {x : Number.Binary64} : v.bare = .float x → CoercesTo v .float (.float x)

/-! ## Values by their types -/

section Kinds

variable {v : Value} {s : String} {i : Int} {b : Bool}

theorem Value.bare_eq_text (h : v.bare = .text s) : v = .text s ∨ v.DerivedFrom .text := by
  cases v with
  | host id g =>
    cases hnature : g.nature with
    | text r => exact .inr (.text hnature)
    | _ =>
      simp only [Value.bare, hnature] at h
      cases h
  | _ => exact .inl h

theorem Value.bare_eq_int (h : v.bare = .int i) : v = .int i ∨ v.DerivedFrom .int := by
  cases v with
  | host id g =>
    cases hnature : g.nature with
    | int j => exact .inr (.int hnature)
    | _ =>
      simp only [Value.bare, hnature] at h
      cases h
  | _ => exact .inl h

theorem Value.DerivedFrom.exists_text (h : v.DerivedFrom .text) : ∃ s, v.bare = .text s := by
  cases h with
  | @text id g s hnature => exact ⟨s, by simp only [Value.bare, hnature]⟩

theorem Value.exists_eq_bool (h : v.type = .bool) : ∃ b, v = .bool b := by
  cases v with
  | bool b => exact ⟨b, rfl⟩
  | assembly a =>
    rw [Value.type] at h
    split at h <;> cases h
  | _ => cases h

theorem Value.exists_eq_text (h : v.type = .text) : ∃ s, v = .text s := by
  cases v with
  | text s => exact ⟨s, rfl⟩
  | assembly a =>
    rw [Value.type] at h
    split at h <;> cases h
  | _ => cases h

/-- A number is neither a flag nor a text. -/
theorem Value.IsNumber.bare_ne (h : v.IsNumber) : v.bare ≠ .bool b ∧ v.bare ≠ .text s := by
  rcases h with ⟨i, h⟩ | ⟨x, h⟩ <;> rw [h] <;> exact ⟨nofun, nofun⟩

end Kinds

namespace CoercesTo

variable {v w : Value} {t : TypeName}

/-- What is given is of the declared type, or it is what was given in and derived from that type. -/
theorem type_eq (h : CoercesTo v t w) : w.type = t ∨ w = v ∧ v.DerivedFrom t := by
  cases h with
  | self ht => exact .inl ht
  | derived hv => exact .inr ⟨rfl, hv⟩
  | _ => exact .inl rfl

/-- Nothing is converted to a type other than those of texts, flags and numbers. -/
theorem eq_self_of_type (h : CoercesTo v t w) (ht : t ∉ [.text, .bool, .int, .float]) :
    v.type = t ∧ w = v := by
  simp only [List.mem_cons, List.not_mem_nil, or_false, not_or] at ht
  obtain ⟨htext, hbool, hint, hfloat⟩ := ht
  cases h with
  | self ht => exact ⟨ht, rfl⟩
  | derived hv =>
    cases hv with
    | text => exact absurd rfl htext
    | int => exact absurd rfl hint
  | yes => exact absurd rfl hbool
  | no => exact absurd rfl hbool
  | integer => exact absurd rfl hint
  | number => exact absurd rfl hfloat
  | nearest => exact absurd rfl hfloat
  | alike => exact absurd rfl hfloat

/-- A flag is converted to nothing. -/
theorem type_eq_bool {b : Bool} (h : CoercesTo (.bool b) t w) : t = .bool := by
  cases h with
  | self ht => exact ht.symm
  | derived hv => nomatch hv
  | yes hv | no hv | integer hv | number hv | nearest hv | alike hv => nomatch hv

/-- A number is converted to neither a text nor a flag. -/
theorem type_ne_of_isNumber (h : CoercesTo v t w) (hv : v.IsNumber) : t ≠ .text ∧ t ≠ .bool := by
  cases h with
  | self ht =>
    refine ⟨fun htext => ?_, fun hbool => ?_⟩
    · obtain ⟨s, rfl⟩ := Value.exists_eq_text (ht.trans htext)
      exact absurd rfl (hv.bare_ne (b := true)).2
    · obtain ⟨b, rfl⟩ := Value.exists_eq_bool (ht.trans hbool)
      exact absurd rfl (hv.bare_ne (s := "")).1
  | derived hd =>
    cases hd with
    | text hnature =>
      obtain ⟨s, hs⟩ := (Value.DerivedFrom.text hnature).exists_text
      exact absurd hs (hv.bare_ne (b := true)).2
    | int => exact ⟨nofun, nofun⟩
  | yes hs | no hs => exact absurd hs (hv.bare_ne (b := true)).2
  | _ => exact ⟨nofun, nofun⟩

end CoercesTo

/-! ## The coercions against the relation -/

variable {v w : Value} {t : TypeName}

theorem Value.coercesTo_of_toText (h : v.toText = .ok w) : CoercesTo v .text w := by
  unfold Value.toText at h
  split at h
  · rename_i s hs
    rw [← Except.ok.inj h]
    rcases Value.bare_eq_text hs with rfl | hv
    · exact .self rfl
    · exact .derived hv
  · cases h

theorem Value.coercesTo_of_toFlag (h : v.toFlag = .ok w) : CoercesTo v .bool w := by
  unfold Value.toFlag at h
  split at h
  · rename_i b hb
    rw [← Except.ok.inj h, Value.bare_eq_bool hb]
    exact .self rfl
  · rename_i s hs
    split at h
    · rename_i hyes
      rw [← Except.ok.inj h]
      exact .yes hs hyes
    · split at h
      · rename_i hno
        rw [← Except.ok.inj h]
        exact .no hs hno
      · cases h
  · cases h

theorem Value.coercesTo_of_toInteger (h : v.toInteger = .ok w) : CoercesTo v .int w := by
  unfold Value.toInteger at h
  split at h
  · cases h
  · rename_i i hi
    rw [← Except.ok.inj h]
    rcases Value.bare_eq_int hi with rfl | hv
    · exact .self rfl
    · exact .derived hv
  · rename_i s hs
    split at h
    · rename_i hread
      rw [← Except.ok.inj h]
      exact .integer hs hread
    · cases h
  · cases h

theorem Value.coercesTo_of_toNumber (h : v.toNumber = .ok w) : CoercesTo v .float w := by
  unfold Value.toNumber at h
  split at h
  · cases h
  · rename_i i hi
    split at h
    · rename_i hnear
      rw [← Except.ok.inj h]
      exact .nearest hi hnear
    · cases h
  · rename_i x hx
    rw [← Except.ok.inj h]
    exact .alike hx
  · rename_i s hs
    split at h
    · rename_i hread
      rw [← Except.ok.inj h]
      exact .number hs hread
    · cases h
  · cases h

/-- What a coercion gives. -/
theorem coercesTo_of_coerce (h : coerce v (.type t) = .ok w) : CoercesTo v t w := by
  cases t with
  | text => exact Value.coercesTo_of_toText h
  | bool => exact Value.coercesTo_of_toFlag h
  | int => exact Value.coercesTo_of_toInteger h
  | float => exact Value.coercesTo_of_toNumber h
  | _ =>
    simp only [coerce] at h
    split at h
    · rename_i ht
      rw [← Except.ok.inj h]
      exact .self ht
    · cases h

/-- A value is given as it is where its own type is declared. -/
theorem coerce_type_self (v : Value) : coerce v (.type v.type) = .ok v := by
  cases v with
  | assembly a =>
    unfold Value.type
    cases ha : a.derived <;> simp [coerce, Value.type, ha]
  | host id h => simp [coerce, Value.type]
  | _ => rfl

/-- A value is given as it is where the type is declared that its own is derived from. -/
theorem Value.DerivedFrom.coerce (h : v.DerivedFrom t) : coerce v (.type t) = .ok v := by
  cases h with
  | text hnature => simp only [BuildScript.coerce, Value.toText, Value.bare, hnature]
  | int hnature => simp only [BuildScript.coerce, Value.toInteger, Value.bare, hnature]

theorem CoercesTo.coerce (h : CoercesTo v t w) : coerce v (.type t) = .ok w := by
  cases h with
  | self ht =>
    rw [← ht]
    exact coerce_type_self v
  | derived hv => exact hv.coerce
  | yes hs hyes => simp only [BuildScript.coerce, Value.toFlag, hs, if_pos hyes]
  | no hs hno =>
    have hyes : ¬ "false" = "true" := by decide
    simp only [BuildScript.coerce, Value.toFlag, hs, hno, if_neg hyes, if_true]
  | integer hs hread => simp only [BuildScript.coerce, Value.toInteger, hs, hread]
  | number hs hread => simp only [BuildScript.coerce, Value.toNumber, hs, hread]
  | nearest hi hnear => simp only [BuildScript.coerce, Value.toNumber, hi, hnear]
  | alike hx => simp only [BuildScript.coerce, Value.toNumber, hx]

theorem coerce_eq_ok_iff (v : Value) (t : TypeName) (w : Value) :
    coerce v (.type t) = .ok w ↔ CoercesTo v t w :=
  ⟨coercesTo_of_coerce, CoercesTo.coerce⟩

/-- What is coerced is of the declared type, or it is given as it is and is derived from that type; and it
is coerced to itself. A value of the declared type, or derived from it, is given as it is; a flag is no
number, and a number neither a text nor a flag; and where the declared type is none of these four, a value
of exactly that type is given as it is, and no other. -/
theorem coerce_sound_idempotent (v : Value) (t : TypeName) :
    (∀ w, coerce v (.type t) = .ok w →
        (w.type = t ∨ w = v ∧ v.DerivedFrom t) ∧ coerce w (.type t) = .ok w) ∧
      (v.type = t ∨ v.DerivedFrom t → coerce v (.type t) = .ok v) ∧
      (v.type = .bool → t = .int ∨ t = .float → ∀ w, coerce v (.type t) ≠ .ok w) ∧
      (v.IsNumber → t = .text ∨ t = .bool → ∀ w, coerce v (.type t) ≠ .ok w) ∧
      (t ∉ [.text, .bool, .int, .float] →
        ∀ w, coerce v (.type t) = .ok w ↔ v.type = t ∧ w = v) := by
  have hkept : v.type = t ∨ v.DerivedFrom t → coerce v (.type t) = .ok v := by
    rintro (ht | hv)
    · exact (CoercesTo.self ht).coerce
    · exact hv.coerce
  refine ⟨?sound, hkept, ?flag, ?number, ?host⟩
  case sound =>
    intro w h
    have htype := (coercesTo_of_coerce h).type_eq
    refine ⟨htype, ?_⟩
    rcases htype with ht | ⟨rfl, hv⟩
    · exact (CoercesTo.self ht).coerce
    · exact hv.coerce
  case flag =>
    intro hv ht w h
    obtain ⟨b, rfl⟩ := Value.exists_eq_bool hv
    rw [(coercesTo_of_coerce h).type_eq_bool] at ht
    simp at ht
  case number =>
    intro hv ht w h
    obtain ⟨htext, hbool⟩ := (coercesTo_of_coerce h).type_ne_of_isNumber hv
    exact ht.elim htext hbool
  case host =>
    intro ht w
    constructor
    · intro h
      exact (coercesTo_of_coerce h).eq_self_of_type ht
    · rintro ⟨hv, rfl⟩
      exact hkept (.inl hv)

/-- A text of a type of its own. -/
def label : Value :=
  .host 0 { type := ⟨0, "shop", "Label", by decide⟩, nature := .text "hello"
            shown := Text.quoted "hello", plain := "hello" }

/-- The text of a flag, a label, a number, a flag and a derived assembly. -/
theorem coerce_sound_idempotent_cases :
    (((Value.bool true).type = .bool ∨ Value.bool true = .text "TRUE" ∧
          (Value.text "TRUE").DerivedFrom .bool) ∧
        coerce (.bool true) (.type .bool) = .ok (.bool true)) ∧
      coerce label (.type .text) = .ok label ∧
      (∀ w, coerce (.bool true) (.type .int) ≠ .ok w) ∧
      (∀ w, coerce (.int 1) (.type .bool) ≠ .ok w) ∧
      ∀ w, coerce (.assembly ⟨"lib", "1.0", none, true⟩) (.type .assembly) = .ok w ↔
        TypeName.derivedAssembly = .assembly ∧ w = .assembly ⟨"lib", "1.0", none, true⟩ := by
  have htrue : Text.lower "TRUE" = "true" := by decide +kernel
  exact ⟨(coerce_sound_idempotent (.text "TRUE") .bool).1 (.bool true) (CoercesTo.yes rfl htrue).coerce,
    (coerce_sound_idempotent label .text).2.1 (.inr (.text rfl)),
    (coerce_sound_idempotent (.bool true) .int).2.2.1 rfl (.inl rfl),
    (coerce_sound_idempotent (.int 1) .bool).2.2.2.1 (.inl ⟨1, rfl⟩) (.inr rfl),
    (coerce_sound_idempotent (.assembly ⟨"lib", "1.0", none, true⟩) .assembly).2.2.2.2 (by decide)⟩

/-- A label is given as it is where a text is declared, and its type is another. -/
theorem coerce_label : coerce label (.type .text) = .ok label ∧ label.type ≠ .text :=
  ⟨rfl, nofun⟩

/-- What a sound value is coerced to is sound too, unless it is the number that is none. -/
theorem Value.Sound.coerce (hv : v.Sound) (h : coerce v (.type t) = .ok w) (hw : w ≠ .float .nan) :
    w.Sound := by
  have hnumber {x : Number.Binary64} (hx : x.Standard) (hne : (Value.float x) ≠ .float .nan) :
      (Value.float x).Sound :=
    .float rfl hx fun hnan => hne (hnan ▸ rfl)
  cases coercesTo_of_coerce h with
  | self => exact hv
  | derived => exact hv
  | yes | no | integer => exact .scalar rfl
  | number _ hread => exact hnumber (Number.standard_floatOfText hread) hw
  | nearest _ hnear => exact hnumber (Number.Binary64.standard_of_ofInt? hnear) hw
  | alike hx => exact hnumber (hv.of_float hx) hw

/-! ## What is raised -/

/-- Whether it is the error that reports a value of a wrong type. -/
def Raised.IsMismatch (x : Raised) : Prop :=
  ∃ message, x = .fault (.of .argumentTypeMismatch message)

/-- An integer, of whatever type, that no floating-point number is near to. -/
def Overflows (v : Value) (t : TypeName) : Prop :=
  t = .float ∧ ∃ i, v.bare = .int i ∧ overflowBound ≤ i.natAbs

/-- What is raised for a value in place of a mismatch of types: the integer overflows, or the
message of the mismatch has to show something that cannot be shown. Where no type is declared, it
may also be that what is declared cannot be looked up. -/
inductive CoercionEscapes (v : Value) : Declared → Raised → Prop where
  | overflow {t : TypeName} : Overflows v t →
      CoercionEscapes v (.type t) (.ofText "OverflowError" "int too large to convert to float")
  | unshowable {t : TypeName} {o : Obstacle} :
      ¬ Overflows v t → (∀ w, ¬ CoercesTo v t w) → v.obstacle? = some o →
      CoercionEscapes v (.type t) (.ofObstacle o)
  | notKey {declared : Value} {t : TypeName} : declared.notKey? = some t →
      CoercionEscapes v (.value declared)
        (.ofText "TypeError" ("unhashable type: '" ++ t.name ++ "'"))
  | noType {declared : Value} {o : Obstacle} : declared.notKey? = none →
      (declared.obstacle? <|> v.obstacle?) = some o →
      CoercionEscapes v (.value declared) (.ofObstacle o)

theorem Raised.not_isMismatch_ofText (cls message : String) :
    ¬ (Raised.ofText cls message).IsMismatch := nofun

theorem Mismatch.raised_of_obstacle {m : Mismatch} {o : Obstacle} (h : m.obstacle? = some o) :
    (CoercionError.mismatch m).raised = .ofObstacle o := by
  rw [CoercionError.raised, h]

theorem Mismatch.isMismatch_raised {m : Mismatch} (h : m.obstacle? = none) :
    (CoercionError.mismatch m).raised.IsMismatch := by
  rw [CoercionError.raised, h]
  exact ⟨m.message, rfl⟩

theorem coerce_eq_overflow_iff_overflows :
    coerce v (.type t) = .error .overflow ↔ Overflows v t := by
  rw [coerce_eq_overflow_iff, Overflows]
  simp only [ofInt?_eq_none_iff]

/-- A value that is not coerced overflows, or it is of a wrong type. -/
theorem coerce_type_error_cases {e : CoercionError} (h : coerce v (.type t) = .error e) :
    e = .overflow ∧ Overflows v t ∨
      ¬ Overflows v t ∧ (∀ w, ¬ CoercesTo v t w) ∧
        ∃ m, e = .mismatch m ∧ m.obstacle? = v.obstacle? := by
  by_cases hover : Overflows v t
  · rw [coerce_eq_overflow_iff_overflows.mpr hover] at h
    exact .inl ⟨(Except.error.inj h).symm, hover⟩
  · refine .inr ⟨hover, fun w hw => ?_, ?_⟩
    · rw [hw.coerce] at h
      cases h
    · rcases coerce_error_cases h with hm | ⟨rfl, -⟩
      · exact hm
      · exact absurd (coerce_eq_overflow_iff_overflows.mp h) hover

/-- A value that is neither coerced nor overflows is of a wrong type. -/
theorem exists_mismatch (hover : ¬ Overflows v t) (hno : ∀ w, ¬ CoercesTo v t w) :
    ∃ m, coerce v (.type t) = .error (.mismatch m) ∧ m.obstacle? = v.obstacle? := by
  cases h : coerce v (.type t) with
  | ok w => exact absurd (coercesTo_of_coerce h) (hno w)
  | error e =>
    rcases coerce_type_error_cases h with ⟨-, hv⟩ | ⟨-, -, m, rfl, hm⟩
    · exact absurd hv hover
    · exact ⟨m, rfl, hm⟩

theorem CoercionEscapes.of_type_error {e : CoercionError} (h : coerce v (.type t) = .error e)
    (hother : ¬ e.raised.IsMismatch) : CoercionEscapes v (.type t) e.raised := by
  rcases coerce_type_error_cases h with ⟨rfl, hover⟩ | ⟨hover, hno, m, rfl, hm⟩
  · exact .overflow hover
  · cases ho : v.obstacle? with
    | none => exact absurd (Mismatch.isMismatch_raised (hm.trans ho)) hother
    | some o =>
      rw [Mismatch.raised_of_obstacle (hm.trans ho)]
      exact .unshowable hover hno ho

theorem coerce_value_of_notKey {declared : Value} (h : declared.notKey? = some t) :
    coerce v (.value declared) = .error (.notKey t.name) := by
  rw [coerce, h]

theorem coerce_value_of_key {declared : Value} (h : declared.notKey? = none) :
    coerce v (.value declared) = .error (.mismatch (.notOfType (.value declared) v)) := by
  rw [coerce, h]

/-- The message shows what is declared, then the value. -/
theorem Mismatch.obstacle?_notOfType_value (declared v : Value) :
    (Mismatch.notOfType (.value declared) v).obstacle? =
      (declared.obstacle? <|> v.obstacle?) := rfl

theorem CoercionEscapes.of_value_error {declared : Value} {e : CoercionError}
    (h : coerce v (.value declared) = .error e) (hother : ¬ e.raised.IsMismatch) :
    CoercionEscapes v (.value declared) e.raised := by
  cases hkey : declared.notKey? with
  | some u =>
    rw [coerce_value_of_notKey hkey] at h
    rw [← Except.error.inj h]
    exact .notKey hkey
  | none =>
    rw [coerce_value_of_key hkey] at h
    rw [← Except.error.inj h] at hother ⊢
    have hm := Mismatch.obstacle?_notOfType_value declared v
    cases ho : declared.obstacle? <|> v.obstacle? with
    | none => exact absurd (Mismatch.isMismatch_raised (hm.trans ho)) hother
    | some o =>
      rw [Mismatch.raised_of_obstacle (hm.trans ho)]
      exact .noType hkey ho

theorem CoercionEscapes.exists_error {d : Declared} {x : Raised} (h : CoercionEscapes v d x) :
    ∃ e, coerce v d = .error e ∧ e.raised = x ∧ ¬ x.IsMismatch := by
  cases h with
  | overflow hover =>
    exact ⟨.overflow, coerce_eq_overflow_iff_overflows.mpr hover, rfl,
      Raised.not_isMismatch_ofText _ _⟩
  | unshowable hover hno ho =>
    obtain ⟨m, herr, hm⟩ := exists_mismatch hover hno
    exact ⟨.mismatch m, herr, Mismatch.raised_of_obstacle (hm.trans ho),
      Raised.not_isMismatch_ofText _ _⟩
  | notKey hkey =>
    exact ⟨.notKey _, coerce_value_of_notKey hkey, rfl, Raised.not_isMismatch_ofText _ _⟩
  | noType hkey ho =>
    have hm := (Mismatch.obstacle?_notOfType_value _ v).trans ho
    exact ⟨.mismatch _, coerce_value_of_key hkey, Mismatch.raised_of_obstacle hm,
      Raised.not_isMismatch_ofText _ _⟩

/-- All that is raised beside a mismatch escapes for one of the reasons. -/
theorem coercionEscapes_iff (v : Value) (d : Declared) (x : Raised) :
    (∃ e, coerce v d = .error e ∧ e.raised = x ∧ ¬ x.IsMismatch) ↔ CoercionEscapes v d x := by
  constructor
  · rintro ⟨e, h, rfl, hno⟩
    cases d with
    | type t => exact .of_type_error h hno
    | value declared => exact .of_value_error h hno
  · exact CoercionEscapes.exists_error

theorem ok_or_isMismatch_iff (v : Value) (d : Declared) :
    ((∃ w, coerce v d = .ok w) ∨ ∃ e, coerce v d = .error e ∧ e.raised.IsMismatch) ↔
      ¬ ∃ x, CoercionEscapes v d x := by
  constructor
  · rintro h ⟨x, hx⟩
    obtain ⟨e, he, rfl, hno⟩ := hx.exists_error
    rcases h with ⟨w, hw⟩ | ⟨e', he', hmis⟩
    · rw [he] at hw
      cases hw
    · rw [he, Except.error.injEq] at he'
      exact hno (he' ▸ hmis)
  · intro hnone
    cases h : coerce v d with
    | ok w => exact .inl ⟨w, rfl⟩
    | error e =>
      by_contra hno
      have hmis : ¬ e.raised.IsMismatch := fun hmis => hno (.inr ⟨e, rfl, hmis⟩)
      exact hnone ⟨_, (coercionEscapes_iff v d _).mp ⟨e, h, rfl, hmis⟩⟩

theorem exists_coercionEscapes_iff :
    (∃ x, CoercionEscapes v (.type t) x) ↔
      Overflows v t ∨ (∀ w, ¬ CoercesTo v t w) ∧ ¬ v.Showable := by
  rw [← Value.obstacle?_eq_none_iff]
  constructor
  · rintro ⟨x, h⟩
    cases h with
    | overflow hover => exact .inl hover
    | unshowable hover hno ho =>
      refine .inr ⟨hno, ?_⟩
      rw [ho]
      nofun
  · intro h
    by_cases hover : Overflows v t
    · exact ⟨_, .overflow hover⟩
    · obtain ⟨hno, hobstacle⟩ := h.resolve_left hover
      obtain ⟨o, ho⟩ := Option.ne_none_iff_exists'.mp hobstacle
      exact ⟨_, .unshowable hover hno ho⟩

/-- A coercion gives what the value is coerced to, or raises a mismatch, unless the integer overflows,
or a value that is not coerced has a part that no message can show; and all that is raised beside a
mismatch is raised for one of these reasons. -/
theorem coerce_fails_iff (v : Value) :
    (∀ t w, coerce v (.type t) = .ok w ↔ CoercesTo v t w) ∧
      (∀ t, ((∃ w, coerce v (.type t) = .ok w) ∨
          ∃ e, coerce v (.type t) = .error e ∧ e.raised.IsMismatch) ↔
        ¬ Overflows v t ∧ ((∃ w, CoercesTo v t w) ∨ v.Showable)) ∧
      ∀ d x, (∃ e, coerce v d = .error e ∧ e.raised = x ∧ ¬ x.IsMismatch) ↔
        CoercionEscapes v d x := by
  refine ⟨coerce_eq_ok_iff v, fun t => ?_, coercionEscapes_iff v⟩
  rw [ok_or_isMismatch_iff, exists_coercionEscapes_iff]
  simp only [not_or, not_and_or, not_forall, not_not]

/-- The integer can be shown, and what is raised for it is no mismatch. -/
theorem large_integer_escapes :
    (Value.int (Int.pow 10 309)).Showable ∧
      ¬ ((∃ w, coerce (.int (Int.pow 10 309)) (.type .float) = .ok w) ∨
        ∃ e, coerce (.int (Int.pow 10 309)) (.type .float) = .error e ∧ e.raised.IsMismatch) := by
  have hshort : ¬ Number.writeLimit ≤ (Int.pow 10 309).natAbs := by decide +kernel
  have hlarge : overflowBound ≤ (Int.pow 10 309).natAbs := by decide +kernel
  refine ⟨(Value.showable_int_iff _).mpr hshort, ?_⟩
  rw [ok_or_isMismatch_iff, not_not]
  exact ⟨_, .overflow ⟨rfl, _, rfl, hlarge⟩⟩

end BuildScript
