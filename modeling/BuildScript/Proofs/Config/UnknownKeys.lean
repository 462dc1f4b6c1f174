import BuildScript.Proofs.Config.Refusal

/-!
Keys that cannot be set. An entry is flawed if its key cannot be set or its value is none that its key
takes; but an entry whose value is nothing is passed over before anything is asked of its key
(`Config.Flawed`). Main statement: `Config.unknown_refused_iff`, when a mapping with a key that cannot
be set is refused with a configuration error: exactly if some entry is flawed, and what is wrong with
the first of these can be shown.
-/

namespace BuildScript

open Files (Path)
open Yaml (Data Scalar)

/-- A key that cannot be set is none of the names of those that can. -/
def ConfigKey.Unknown (key : Scalar) : Prop := ∀ k : ConfigKey, key ≠ .plain (.text k.name)

namespace ConfigKey

theorem ofScalar?_name (k : ConfigKey) : ofScalar? (.plain (.text k.name)) = some k :=
  ofName?_name k

theorem eq_of_ofScalar? {key : Scalar} {k : ConfigKey} (h : ofScalar? key = some k) :
    key = .plain (.text k.name) := by
  unfold ofScalar? at h
  split at h
  · rw [name_of_ofName? h]
  · cases h

theorem unknown_iff {key : Scalar} : Unknown key ↔ ofScalar? key = none := by
  constructor
  · intro h
    cases hk : ofScalar? key with
    | none => rfl
    | some k => exact absurd (eq_of_ofScalar? hk) (h k)
  · rintro h k rfl
    cases h.symm.trans (ofScalar?_name k)

end ConfigKey

namespace Config

/-- What is wrong with a value for a key. -/
inductive BadValue (value : Data) : ConfigKey → ConfigFlaw → Prop where
  | texts {key : ConfigKey} (hkey : key = .probingPaths ∨ key = .disableNamespaces)
      (h : value.texts? = none) : BadValue value key (.notTexts key value)
  | text {key : ConfigKey} (hkey : key = .logLevel ∨ key = .logFormat ∨ key = .logFile)
      (h : value.text? = none) : BadValue value key (.notText key value)
  | level {t : String} (ht : value.text? = some t) (h : Text.lower t ∉ levelNames) :
      BadValue value .logLevel (.unknownLevel t)

/-- What is wrong with an entry. Nothing is wrong with one whose value is nothing. -/
inductive Flawed (e : ConfigEntry) : ConfigFlaw → Prop where
  | unknown (h : e.value.isNothing = false) (hkey : ConfigKey.Unknown e.key) :
      Flawed e (.unknownKey e.key)
  | value (h : e.value.isNothing = false) {key : ConfigKey} (hkey : e.key = .plain (.text key.name))
      {f : ConfigFlaw} (hbad : BadValue e.value key f) : Flawed e f

/-- What is wrong with the first entry with which something is. -/
def FirstFlaw (entries : List ConfigEntry) (f : ConfigFlaw) : Prop :=
  ∃ before e after, entries = before ++ e :: after ∧
    (∀ e' ∈ before, ∀ f', ¬ Flawed e' f') ∧ Flawed e f

/-! ## One entry -/

section

variable {base : Path} {c : Config} {value : Data} {f : ConfigFlaw} {e : ConfigEntry}

theorem textsFor_eq_error_iff {key : ConfigKey} :
    textsFor key value = .error f ↔ value.texts? = none ∧ f = .notTexts key value := by
  unfold textsFor
  cases value.texts? <;> simp [eq_comm]

theorem textFor_eq_error_iff {key : ConfigKey} :
    textFor key value = .error f ↔ value.text? = none ∧ f = .notText key value := by
  unfold textFor
  cases value.text? <;> simp [eq_comm]

theorem levelOf_eq_error_iff {t : String} :
    levelOf t = .error f ↔ Text.lower t ∉ levelNames ∧ f = .unknownLevel t := by
  unfold levelOf
  dsimp only
  by_cases h : Text.lower t ∈ levelNames
  · simp [h]
  · simp [h, eq_comm]

theorem badValue_texts_iff {key : ConfigKey}
    (hkey : key = .probingPaths ∨ key = .disableNamespaces) :
    BadValue value key f ↔ value.texts? = none ∧ f = .notTexts key value := by
  constructor
  · intro h
    cases h with
    | texts _ hno => exact ⟨hno, rfl⟩
    | text hone => rcases hkey with rfl | rfl <;> simp at hone
    | level => simp at hkey
  · rintro ⟨hno, rfl⟩
    exact .texts hkey hno

theorem badValue_text_iff {key : ConfigKey} (hkey : key = .logFormat ∨ key = .logFile) :
    BadValue value key f ↔ value.text? = none ∧ f = .notText key value := by
  constructor
  · intro h
    cases h with
    | texts hlist => rcases hkey with rfl | rfl <;> simp at hlist
    | text _ hno => exact ⟨hno, rfl⟩
    | level => simp at hkey
  · rintro ⟨hno, rfl⟩
    exact .text (.inr hkey) hno

theorem badValue_level_iff :
    BadValue value .logLevel f ↔ (value.text? = none ∧ f = .notText .logLevel value) ∨
      ∃ t, value.text? = some t ∧ Text.lower t ∉ levelNames ∧ f = .unknownLevel t := by
  constructor
  · intro h
    cases h with
    | texts hlist => simp at hlist
    | text _ hno => exact .inl ⟨hno, rfl⟩
    | level ht hno => exact .inr ⟨_, ht, hno, rfl⟩
  · rintro (⟨hno, rfl⟩ | ⟨t, ht, hno, rfl⟩)
    · exact .text (.inl rfl) hno
    · exact .level ht hno

/-- The second of two operations that fail is only tried if the first has come to something. -/
theorem bind_eq_error_iff {α β : Type} {x : Except ConfigFlaw α} {g : α → Except ConfigFlaw β} :
    x >>= g = .error f ↔ x = .error f ∨ ∃ a, x = .ok a ∧ g a = .error f := by
  cases x <;> simp [bind, Except.bind]

theorem textFor_eq_ok_iff {key : ConfigKey} {t : String} :
    textFor key value = .ok t ↔ value.text? = some t := by
  unfold textFor
  cases value.text? <;> simp

/-- A key is not set exactly if something is wrong with the value, whatever was set before. -/
theorem set_eq_error_iff {key : ConfigKey} :
    c.set base key value = .error f ↔ BadValue value key f := by
  cases key with
  | probingPaths =>
    rw [badValue_texts_iff (.inl rfl), set, bind_eq_error_iff, textsFor_eq_error_iff]
    simp [pure, Except.pure]
  | disableNamespaces =>
    rw [badValue_texts_iff (.inr rfl), set, bind_eq_error_iff, textsFor_eq_error_iff]
    simp [pure, Except.pure]
  | logLevel =>
    rw [badValue_level_iff, set, bind_eq_error_iff, textFor_eq_error_iff]
    simp only [bind_eq_error_iff, levelOf_eq_error_iff, textFor_eq_ok_iff]
    simp [pure, Except.pure]
  | logFormat =>
    rw [badValue_text_iff (.inl rfl), set, bind_eq_error_iff, textFor_eq_error_iff]
    simp [pure, Except.pure]
  | logFile =>
    rw [badValue_text_iff (.inr rfl), set, bind_eq_error_iff, textFor_eq_error_iff]
    simp [pure, Except.pure]

/-- An entry is refused exactly if something is wrong with it, whatever came before. -/
theorem setEntry_eq_error_iff (base : Path) (c : Config) :
    c.setEntry base e = .error f ↔ Flawed e f := by
  cases hnothing : e.value.isNothing with
  | true =>
    rw [setEntry_nothing base c hnothing]
    refine iff_of_false nofun fun h => ?_
    cases h with
    | unknown h => cases hnothing.symm.trans h
    | value h => cases hnothing.symm.trans h
  | false =>
    cases hkey : ConfigKey.ofScalar? e.key with
    | none =>
      rw [setEntry_unknown base c hnothing hkey]
      constructor
      · rintro ⟨⟩
        exact .unknown hnothing (ConfigKey.unknown_iff.mpr hkey)
      · intro h
        cases h with
        | unknown => rfl
        | value _ hname => exact absurd hname (ConfigKey.unknown_iff.mpr hkey _)
    | some key =>
      have hname := ConfigKey.eq_of_ofScalar? hkey
      rw [setEntry_known base c hnothing hkey, set_eq_error_iff]
      constructor
      · exact fun hbad => .value hnothing hname hbad
      · intro h
        cases h with
        | unknown _ hunknown => exact absurd hname (hunknown key)
        | value _ hname' hbad =>
          rw [hname', ConfigKey.ofScalar?_name, Option.some.injEq] at hkey
          exact hkey ▸ hbad

theorem exists_setEntry_iff (base : Path) (c : Config) :
    (∃ c', c.setEntry base e = .ok c') ↔ ∀ f, ¬ Flawed e f := by
  simp only [← setEntry_eq_error_iff base c]
  cases c.setEntry base e with
  | error f => simp
  | ok c' => simp

end

/-! ## All entries -/

section

variable {base : Path} {text : String} {d : Data} {entries : List ConfigEntry} {f : ConfigFlaw}

theorem firstFlaw_nil : ¬ FirstFlaw [] f := by
  rintro ⟨before, e, after, hentries, -⟩
  simp at hentries

theorem firstFlaw_cons {e : ConfigEntry} : FirstFlaw (e :: entries) f ↔
    Flawed e f ∨ (∀ f', ¬ Flawed e f') ∧ FirstFlaw entries f := by
  constructor
  · rintro ⟨before, x, after, hentries, hbefore, hx⟩
    cases before with
    | nil =>
      obtain ⟨rfl, rfl⟩ := List.cons.inj hentries
      exact .inl hx
    | cons y before =>
      obtain ⟨rfl, rfl⟩ := List.cons.inj hentries
      obtain ⟨hy, hbefore⟩ := List.forall_mem_cons.mp hbefore
      exact .inr ⟨hy, before, x, after, rfl, hbefore, hx⟩
  · rintro (he | ⟨he, before, x, after, rfl, hbefore, hx⟩)
    · exact ⟨[], e, entries, rfl, by simp, he⟩
    · exact ⟨e :: before, x, after, rfl, List.forall_mem_cons.mpr ⟨he, hbefore⟩, hx⟩

/-- Entries are refused for what is wrong with the first that is flawed. -/
theorem ofEntries_eq_error_iff (base : Path) :
    ofEntries base entries = .error f ↔ FirstFlaw entries f := by
  unfold ofEntries
  generalize ({} : Config) = c
  induction entries generalizing c with
  | nil => exact iff_of_false nofun firstFlaw_nil
  | cons e entries ih =>
    rw [List.foldlM_cons, firstFlaw_cons, ← setEntry_eq_error_iff base c]
    cases hset : c.setEntry base e with
    | error f' =>
      have hflawed : Flawed e f' := (setEntry_eq_error_iff base c).mp hset
      exact ⟨.inl, fun h => h.elim id fun hno => absurd hflawed (hno.1 f')⟩
    | ok c' =>
      have hfine : ∀ f', ¬ Flawed e f' := (exists_setEntry_iff base c).mp ⟨c', hset⟩
      exact (ih c').trans ⟨fun h => .inr ⟨hfine, h⟩, fun h => h.elim nofun (·.2)⟩

/-- If one entry is flawed, there is a first. -/
theorem exists_firstFlaw {e : ConfigEntry} (he : e ∈ entries) (hf : Flawed e f) :
    ∃ f', FirstFlaw entries f' := by
  induction entries with
  | nil => cases he
  | cons x entries ih =>
    by_cases hx : ∃ f', Flawed x f'
    · obtain ⟨f', hx⟩ := hx
      exact ⟨f', firstFlaw_cons.mpr (.inl hx)⟩
    · obtain rfl | he := List.mem_cons.mp he
      · exact absurd ⟨f, hf⟩ hx
      · obtain ⟨f', hfirst⟩ := ih he
        exact ⟨f', firstFlaw_cons.mpr (.inr ⟨fun f' h => hx ⟨f', h⟩, hfirst⟩)⟩

/-- An entry whose value is nothing might as well not be there. -/
theorem ofEntries_of_nothing (before after : List ConfigEntry) {e : ConfigEntry}
    (h : e.value.isNothing = true) :
    ofEntries base (before ++ e :: after) = ofEntries base (before ++ after) := by
  unfold ofEntries
  rw [List.foldlM_append, List.foldlM_append]
  congr 1
  funext c
  rw [List.foldlM_cons, setEntry_nothing base c h]
  rfl

/-- A mapping is refused for what is wrong with the first flawed entry. -/
theorem ofText_eq_error_iff (hload : Yaml.load text = .ok (some d))
    (hentries : ConfigEntry.ofData d = .ok entries) {o : Raised} :
    ofText base text = .error o ↔ ∃ f, FirstFlaw entries f ∧ o = f.raised := by
  rw [ofText_of_some hload, hentries]
  show (ofEntries base entries).mapError ConfigFlaw.raised = .error o ↔ _
  simp only [← ofEntries_eq_error_iff base]
  cases ofEntries base entries with
  | error f =>
    constructor
    · rintro ⟨⟩
      exact ⟨f, rfl, rfl⟩
    · rintro ⟨f', hf', rfl⟩
      rw [← Except.error.inj hf']
      rfl
  | ok c => exact iff_of_false nofun fun ⟨f, hf, _⟩ => nomatch hf

theorem FirstFlaw.ne_unreadable (h : FirstFlaw entries f) : f ≠ .unreadable := by
  rintro rfl
  obtain ⟨before, e, after, -, -, hflawed⟩ := h
  cases hflawed with
  | value _ _ hbad => cases hbad

/-- For a mapping with a key that cannot be set there is a configuration error exactly if some entry is
flawed, and what is wrong with the first of these can be shown. If the key is set to anything, some
entry is flawed, and there is no configuration; if it is set to nothing, the configuration is that of
the other entries. -/
theorem unknown_refused_iff (base : Path) (hload : Yaml.load text = .ok (some d))
    (hentries : ConfigEntry.ofData d = .ok entries) {u : ConfigEntry} (hu : u ∈ entries)
    (hunknown : ConfigKey.Unknown u.key) :
    ((∃ o prior, ofText base text = .error o ∧ o.IsConfigError prior) ↔
        ∃ f message, FirstFlaw entries f ∧ f.message = .ok message) ∧
      (u.value.isNothing = false → ∃ f, FirstFlaw entries f ∧ ofText base text = .error f.raised) ∧
      (u.value.isNothing = true → ∀ before after, entries = before ++ u :: after →
        ofText base text = (ofEntries base (before ++ after)).mapError ConfigFlaw.raised) := by
  refine ⟨⟨?_, ?_⟩, fun hvalue => ?_, fun hvalue before after hsplit => ?_⟩
  · rintro ⟨o, prior, hout, hconfig⟩
    obtain ⟨f, hfirst, rfl⟩ := (ofText_eq_error_iff hload hentries).mp hout
    cases hmessage : f.message with
    | ok message => exact ⟨f, message, hfirst, hmessage⟩
    | error obstacle =>
      rw [raised_of_unshowable hmessage] at hconfig
      exact absurd hconfig (Raised.not_isConfigError_other _ prior)
  · rintro ⟨f, message, hfirst, hmessage⟩
    exact ⟨f.raised, none, (ofText_eq_error_iff hload hentries).mpr ⟨f, hfirst, rfl⟩,
      isConfigError_raised hmessage hfirst.ne_unreadable⟩
  · obtain ⟨f, hfirst⟩ := exists_firstFlaw hu (.unknown hvalue hunknown)
    exact ⟨f, hfirst, (ofText_eq_error_iff hload hentries).mpr ⟨f, hfirst, rfl⟩⟩
  · rw [ofText_of_some hload, hentries, hsplit]
    exact congrArg (·.mapError ConfigFlaw.raised) (ofEntries_of_nothing before after hvalue)

end

/-! ## Texts with one entry -/

/-- The text has one entry, with this key, which is set to nothing or not. -/
def setsOnly (text key : String) (nothing : Bool) : Bool :=
  match Yaml.load text with
  | .ok (some d) =>
    match ConfigEntry.ofData d with
    | .ok [⟨.plain (.text name), value⟩] => name = key && value.isNothing = nothing
    | _ => false
  | _ => false

theorem exists_entry_of_setsOnly {text key : String} {nothing : Bool}
    (h : setsOnly text key nothing = true) :
    ∃ d value, Yaml.load text = .ok (some d) ∧
      ConfigEntry.ofData d = .ok [⟨.plain (.text key), value⟩] ∧ value.isNothing = nothing := by
  unfold setsOnly at h
  split at h
  · rename_i d hload
    split at h
    · rename_i name value hentries
      simp only [Bool.and_eq_true, decide_eq_true_eq] at h
      exact ⟨d, value, hload, h.1 ▸ hentries, h.2⟩
    · cases h
  · cases h

theorem unknown_bogus : ConfigKey.Unknown (.plain (.text "bogus")) := by
  rw [ConfigKey.unknown_iff]
  decide

/-- A key that cannot be set, and is set to a number. -/
theorem refused_bogus :
    ∃ o prior, ofText ⟨.slash, []⟩ "bogus: 1" = .error o ∧ o.IsConfigError prior := by
  obtain ⟨d, value, hload, hentries, hvalue⟩ :=
    exists_entry_of_setsOnly (show setsOnly "bogus: 1" "bogus" false = true by decide +kernel)
  have hflawed : Flawed ⟨.plain (.text "bogus"), value⟩ (.unknownKey (.plain (.text "bogus"))) :=
    .unknown hvalue unknown_bogus
  refine (unknown_refused_iff ⟨.slash, []⟩ hload hentries (List.mem_singleton_self _)
    unknown_bogus).1.mpr ⟨_, _, firstFlaw_cons.mpr (.inl hflawed), rfl⟩

/-- It is accepted when it is set to nothing. -/
theorem accepts_bogus_nothing :
    (∃ d value, Yaml.load "bogus: null" = .ok (some d) ∧
        ConfigEntry.ofData d = .ok [⟨.plain (.text "bogus"), value⟩]) ∧
      ConfigKey.Unknown (.plain (.text "bogus")) ∧
      ofText ⟨.slash, []⟩ "bogus: null" = .ok {} := by
  obtain ⟨d, value, hload, hentries, hvalue⟩ :=
    exists_entry_of_setsOnly (show setsOnly "bogus: null" "bogus" true = true by decide +kernel)
  refine ⟨⟨d, value, hload, hentries⟩, unknown_bogus, ?_⟩
  rw [ofText_of_some hload, hentries]
  exact congrArg (·.mapError ConfigFlaw.raised)
    (ofEntries_of_nothing [] [] (e := ⟨_, value⟩) hvalue)

end Config

end BuildScript
