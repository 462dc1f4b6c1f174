import BuildScript.Proofs.Config.UnknownKeys
import BuildScript.Proofs.Traversal
import BuildScript.Proofs.Yaml.DistinctKeys
import BuildScript.Proofs.Yaml.Loading

/-!
Mappings that are accepted. A key takes a value if that gives it an item (`Config.Gives`). A mapping is
accepted if every entry that is not nothing has a key that can be set and takes its value; each entry
sets its own key and leaves the others (`Config.item_of_set`), so for different keys the order is of no
account. Main statement: `Config.accepted_iff`.
-/

namespace BuildScript

open Files (Path)
open Yaml (Data Datum Line Scalar)

/-! ## Values -/

namespace Yaml.Data

/-- A text, which is a list of one, or a list of texts. A list of pairs has no texts in it, but it may be
empty. -/
inductive MeansTexts (d : Data) : List String → Prop where
  | alone {s : String} (h : d.text? = some s) : MeansTexts d [s]
  | list {id : Nat} {items : List Datum} {ss : List String} (hroot : d.root = .collection id)
      (hid : d.get id = .list items)
      (h : List.Forall₂ (fun item s => item.text? = some s) items ss) : MeansTexts d ss
  | noPairs {id : Nat} (hroot : d.root = .collection id) (hid : d.get id = .pairs []) :
      MeansTexts d []

theorem texts?_eq_some_iff {d : Data} {ss : List String} : d.texts? = some ss ↔ d.MeansTexts ss := by
  unfold texts?
  cases hroot : d.root with
  | scalar x =>
    simp only [Option.map_eq_some_iff]
    constructor
    · rintro ⟨s, hs, rfl⟩
      exact .alone hs
    · intro h
      cases h with
      | alone hs => exact ⟨_, hs, rfl⟩
      | list hroot' => cases hroot.symm.trans hroot'
      | noPairs hroot' => cases hroot.symm.trans hroot'
  | collection id =>
    have hno : d.text? = none := by
      unfold text?
      rw [hroot]
      rfl
    dsimp only
    constructor
    · intro h
      split at h
      · rename_i items hid
        exact .list hroot hid ((mapM_eq_some_iff ..).mp h)
      · rename_i hid
        obtain rfl := Option.some.inj h
        exact .noPairs hroot hid
      · cases h
    · intro h
      cases h with
      | alone hs => cases hno.symm.trans hs
      | list hroot' hid h =>
        obtain rfl := Datum.collection.inj (hroot.symm.trans hroot')
        rw [hid]
        exact (mapM_eq_some_iff ..).mpr h
      | noPairs hroot' hid =>
        obtain rfl := Datum.collection.inj (hroot.symm.trans hroot')
        rw [hid]

end Yaml.Data

namespace Config

variable {base : Path} {c c' : Config} {key : ConfigKey} {value value' : Data}
  {f : ConfigFlaw} {e e' : ConfigEntry} {entries entries' : List ConfigEntry}

/-- What a value gives a key: paths are seen from the directory `base`, and a level is in small
letters. -/
inductive Gives (base : Path) (value : Data) : ConfigKey → Item → Prop where
  | probingPaths {ss : List String} (h : value.MeansTexts ss) :
      Gives base value .probingPaths (.paths (ss.map fun t => base.join (Path.ofText t)))
  | disableNamespaces {ss : List String} (h : value.MeansTexts ss) :
      Gives base value .disableNamespaces (.texts ss)
  | logLevel {t : String} (h : value.text? = some t) (hlevel : Text.lower t ∈ levelNames) :
      Gives base value .logLevel (.text (Text.lower t))
  | logFormat {t : String} (h : value.text? = some t) : Gives base value .logFormat (.text t)
  | logFile {t : String} (h : value.text? = some t) :
      Gives base value .logFile (.path (some (base.join (Path.ofText t))))

/-- The item of a key. -/
def item (c : Config) : ConfigKey → Item
  | .probingPaths => .paths c.probingPaths
  | .disableNamespaces => .texts c.disableNamespaces
  | .logLevel => .text c.logLevel
  | .logFormat => .text c.logFormat
  | .logFile => .path c.logFile

theorem item?_name (c : Config) (key : ConfigKey) : c.item? key.name = some (c.item key) := by
  have hname : key.name ≠ "config_file" := by cases key <;> decide
  unfold item?
  rw [if_neg hname, ConfigKey.ofName?_name]
  cases key <;> rfl

/-- A configuration is what the keys and the file of it are. -/
theorem ext_items (hitem : ∀ key, c.item key = c'.item key) (hfile : c.configFile = c'.configFile) :
    c = c' := by
  obtain ⟨paths, namespaces, level, format, file, configFile⟩ := c
  obtain ⟨paths', namespaces', level', format', file', configFile'⟩ := c'
  have hpaths : paths = paths' := Item.paths.inj (hitem .probingPaths)
  have hnamespaces : namespaces = namespaces' := Item.texts.inj (hitem .disableNamespaces)
  have hlevel : level = level' := Item.text.inj (hitem .logLevel)
  have hformat : format = format' := Item.text.inj (hitem .logFormat)
  have hlog : file = file' := Item.path.inj (hitem .logFile)
  have hconfig : configFile = configFile' := hfile
  rw [hpaths, hnamespaces, hlevel, hformat, hlog, hconfig]

/-! ## One key -/

theorem textsFor_eq_ok_iff {ss : List String} : textsFor key value = .ok ss ↔ value.MeansTexts ss := by
  rw [← Data.texts?_eq_some_iff]
  unfold textsFor
  cases value.texts? <;> simp

theorem levelOf_eq_ok_iff {t level : String} :
    levelOf t = .ok level ↔ Text.lower t ∈ levelNames ∧ level = Text.lower t := by
  unfold levelOf
  dsimp only
  by_cases h : Text.lower t ∈ levelNames
  · simp [h, eq_comm]
  · simp [h]

/-- A key is set exactly to what the value gives it; the other keys and the file stay as they are. -/
theorem item_of_set (h : c.set base key value = .ok c') :
    Gives base value key (c'.item key) ∧ (∀ other, other ≠ key → c'.item other = c.item other) ∧
      c'.configFile = c.configFile := by
  cases key with
  | probingPaths =>
    obtain ⟨ss, hss, ⟨⟩⟩ := bind_eq_ok_iff.mp h
    refine ⟨.probingPaths (textsFor_eq_ok_iff.mp hss), fun other hother => ?_, rfl⟩
    cases other <;> first | rfl | exact absurd rfl hother
  | disableNamespaces =>
    obtain ⟨ss, hss, ⟨⟩⟩ := bind_eq_ok_iff.mp h
    refine ⟨.disableNamespaces (textsFor_eq_ok_iff.mp hss), fun other hother => ?_, rfl⟩
    cases other <;> first | rfl | exact absurd rfl hother
  | logLevel =>
    obtain ⟨t, ht, hrest⟩ := bind_eq_ok_iff.mp h
    obtain ⟨level, hlevel, ⟨⟩⟩ := bind_eq_ok_iff.mp hrest
    obtain ⟨hmem, rfl⟩ := levelOf_eq_ok_iff.mp hlevel
    refine ⟨.logLevel (textFor_eq_ok_iff.mp ht) hmem, fun other hother => ?_, rfl⟩
    cases other <;> first | rfl | exact absurd rfl hother
  | logFormat =>
    obtain ⟨t, ht, ⟨⟩⟩ := bind_eq_ok_iff.mp h
    refine ⟨.logFormat (textFor_eq_ok_iff.mp ht), fun other hother => ?_, rfl⟩
    cases other <;> first | rfl | exact absurd rfl hother
  | logFile =>
    obtain ⟨t, ht, ⟨⟩⟩ := bind_eq_ok_iff.mp h
    refine ⟨.logFile (textFor_eq_ok_iff.mp ht), fun other hother => ?_, rfl⟩
    cases other <;> first | rfl | exact absurd rfl hother

theorem gives_unique {item item' : Item} (h : Gives base value key item)
    (h' : Gives base value key item') : item = item' := by
  have htexts : ∀ {ss ss' : List String}, value.MeansTexts ss → value.MeansTexts ss' → ss = ss' :=
    fun hss hss' => Option.some.inj
      ((Data.texts?_eq_some_iff.mpr hss).symm.trans (Data.texts?_eq_some_iff.mpr hss'))
  cases h with
  | probingPaths h =>
    cases h' with
    | probingPaths h' => rw [htexts h h']
  | disableNamespaces h =>
    cases h' with
    | disableNamespaces h' => rw [htexts h h']
  | logLevel h =>
    cases h' with
    | logLevel h' => rw [Option.some.inj (h.symm.trans h')]
  | logFormat h =>
    cases h' with
    | logFormat h' => rw [Option.some.inj (h.symm.trans h')]
  | logFile h =>
    cases h' with
    | logFile h' => rw [Option.some.inj (h.symm.trans h')]

/-- A value gives a key an item exactly if nothing is wrong with it. -/
theorem exists_gives_iff (base : Path) :
    (∃ item, Gives base value key item) ↔ ∀ f, ¬BadValue value key f := by
  constructor
  · rintro ⟨item, hgives⟩ f hbad
    cases hbad with
    | texts hkey hno =>
      have htexts : ∀ ss, ¬value.MeansTexts ss := fun ss hss => by
        cases hno.symm.trans (Data.texts?_eq_some_iff.mpr hss)
      rcases hkey with rfl | rfl
      · cases hgives with
        | probingPaths h => exact htexts _ h
      · cases hgives with
        | disableNamespaces h => exact htexts _ h
    | text hkey hno =>
      rcases hkey with rfl | rfl | rfl
      · cases hgives with
        | logLevel h => cases hno.symm.trans h
      · cases hgives with
        | logFormat h => cases hno.symm.trans h
      · cases hgives with
        | logFile h => cases hno.symm.trans h
    | level ht hno =>
      cases hgives with
      | logLevel h hlevel => exact hno (Option.some.inj (ht.symm.trans h) ▸ hlevel)
  · intro hfine
    cases hset : set base {} key value with
    | error f => exact absurd (set_eq_error_iff.mp hset) (hfine f)
    | ok c => exact ⟨_, (item_of_set hset).1⟩

/-! ## All entries -/

/-- An entry sets a key to an item. -/
structure Sets (base : Path) (e : ConfigEntry) (key : ConfigKey) (item : Item) : Prop where
  value : e.value.isNothing = false
  name : e.key = .plain (.text key.name)
  gives : Gives base e.value key item

/-- Nothing is wrong with an entry exactly if it is nothing or sets a key. -/
theorem flawless_iff (base : Path) :
    (∀ f, ¬Flawed e f) ↔ (e.value.isNothing = false → ∃ key item, Sets base e key item) := by
  constructor
  · intro hfine hvalue
    cases hkey : ConfigKey.ofScalar? e.key with
    | none => exact absurd (.unknown hvalue (ConfigKey.unknown_iff.mpr hkey)) (hfine _)
    | some key =>
      have hname := ConfigKey.eq_of_ofScalar? hkey
      obtain ⟨item, hgives⟩ :=
        (exists_gives_iff base).mpr fun f hbad => hfine f (.value hvalue hname hbad)
      exact ⟨key, item, hvalue, hname, hgives⟩
  · intro hsets f hflawed
    cases hflawed with
    | unknown hvalue hunknown =>
      obtain ⟨key, item, hset⟩ := hsets hvalue
      exact hunknown key hset.name
    | @value hvalue key hname f hbad =>
      obtain ⟨key', item, hset⟩ := hsets hvalue
      have hsame := ConfigKey.ofScalar?_name key
      rw [← hname, hset.name, ConfigKey.ofScalar?_name, Option.some.injEq] at hsame
      subst hsame
      exact (exists_gives_iff base).mp ⟨item, hset.gives⟩ f hbad

/-- Entries give a configuration exactly if each is nothing or sets a key. -/
theorem exists_ofEntries_iff (base : Path) : (∃ c, ofEntries base entries = .ok c) ↔
    ∀ e ∈ entries, e.value.isNothing = false → ∃ key item, Sets base e key item := by
  simp only [← flawless_iff base]
  constructor
  · rintro ⟨c, hc⟩ e he f hflawed
    obtain ⟨f', hfirst⟩ := exists_firstFlaw he hflawed
    cases hc.symm.trans ((ofEntries_eq_error_iff base).mpr hfirst)
  · intro hfine
    cases hout : ofEntries base entries with
    | ok c => exact ⟨c, rfl⟩
    | error f =>
      obtain ⟨before, e, after, rfl, -, hflawed⟩ := (ofEntries_eq_error_iff base).mp hout
      exact absurd hflawed (hfine e (List.mem_append_right _ List.mem_cons_self) f)

/-- What one entry does: it sets its key if it is not nothing, and leaves all else. -/
theorem item_of_setEntry (h : c.setEntry base e = .ok c') :
    (∀ key item, Sets base e key item → c'.item key = item) ∧
      (∀ key, (e.key = .plain (.text key.name) → e.value.isNothing = true) →
        c'.item key = c.item key) ∧
      c'.configFile = c.configFile := by
  cases hvalue : e.value.isNothing with
  | true =>
    rw [setEntry_nothing base c hvalue] at h
    obtain rfl := Except.ok.inj h
    refine ⟨fun key item hset => ?_, fun _ _ => rfl, rfl⟩
    cases hvalue.symm.trans hset.value
  | false =>
    cases hkey : ConfigKey.ofScalar? e.key with
    | none =>
      rw [setEntry_unknown base c hvalue hkey] at h
      cases h
    | some key =>
      have hname := ConfigKey.eq_of_ofScalar? hkey
      rw [setEntry_known base c hvalue hkey] at h
      obtain ⟨hgives, hother, hfile⟩ := item_of_set h
      refine ⟨fun key' item hset => ?_, fun key' hno => hother key' ?_, hfile⟩
      · rw [hset.name, ConfigKey.ofScalar?_name, Option.some.injEq] at hkey
        subst hkey
        exact gives_unique hgives hset.gives
      · rintro rfl
        cases (hno hname)

/-- No key is equal to that of a later entry. -/
def DistinctEntries (entries : List ConfigEntry) : Prop :=
  entries.Pairwise fun e e' => e.key.eq e'.key = false

theorem not_same_key (h : e.key.eq e'.key = false) (hkey : e.key = .plain (.text key.name)) :
    e'.key ≠ .plain (.text key.name) := by
  intro hkey'
  rw [hkey, hkey'] at h
  cases key <;> cases h

/-- What a run over the entries does: each key is what the entry that sets it gives it, or as it was if
none does. -/
theorem item_of_foldlM (hdistinct : DistinctEntries entries)
    (h : entries.foldlM (setEntry base) c = .ok c') :
    (∀ e ∈ entries, ∀ key item, Sets base e key item → c'.item key = item) ∧
      (∀ key, (∀ e ∈ entries, e.key = .plain (.text key.name) → e.value.isNothing = true) →
        c'.item key = c.item key) ∧
      c'.configFile = c.configFile := by
  induction entries generalizing c with
  | nil =>
    obtain rfl := Except.ok.inj h
    exact ⟨fun e he => absurd he List.not_mem_nil, fun _ _ => rfl, rfl⟩
  | cons e entries ih =>
    rw [List.foldlM_cons] at h
    obtain ⟨c₁, hfirst, hrest⟩ := bind_eq_ok_iff.mp h
    obtain ⟨hlater, hdistinct⟩ := List.pairwise_cons.mp hdistinct
    obtain ⟨hset, hkeep, hfile⟩ := item_of_setEntry hfirst
    obtain ⟨hsets, hkeeps, hfiles⟩ := ih hdistinct hrest
    refine ⟨fun x hx key item hsetting => ?_, fun key hno => ?_, hfiles.trans hfile⟩
    · rcases List.mem_cons.mp hx with rfl | hx
      · -- the entries behind this one have other keys, so what it has set stays
        have hothers : ∀ e' ∈ entries, e'.key = .plain (.text key.name) → e'.value.isNothing = true :=
          fun e' he' hkey => absurd hkey (not_same_key (hlater e' he') hsetting.name)
        rw [hkeeps key hothers]
        exact hset key item hsetting
      · exact hsets x hx key item hsetting
    · obtain ⟨he, hentries⟩ := List.forall_mem_cons.mp hno
      rw [hkeeps key hentries]
      exact hkeep key he

/-- The configuration of entries with different keys: each key is what its entry gives it, or the default
one. -/
theorem item_of_ofEntries (hdistinct : DistinctEntries entries) (h : ofEntries base entries = .ok c) :
    (∀ e ∈ entries, ∀ key item, Sets base e key item → c.item key = item) ∧
      (∀ key, (∀ e ∈ entries, e.key = .plain (.text key.name) → e.value.isNothing = true) →
        c.item key = ({} : Config).item key) ∧
      c.configFile = none :=
  item_of_foldlM hdistinct h

theorem distinctEntries_of_load {text : String} {d : Data} (hload : Yaml.load text = .ok (some d))
    (hentries : ConfigEntry.ofData d = .ok entries) : DistinctEntries entries := by
  unfold ConfigEntry.ofData at hentries
  split at hentries
  · split at hentries
    · obtain rfl := Except.ok.inj hentries
      exact .nil
    · cases hentries
  · split at hentries
    · rename_i es hid
      obtain rfl := Except.ok.inj hentries
      exact List.pairwise_map.mpr (Yaml.distinctKeys_of_load hload hid)
    · cases hentries

/-! ## The same entries -/

/-- Two entries say the same, as far as it is asked: which key they set, whether to nothing, and to which
texts. -/
structure SameEntry (e e' : ConfigEntry) : Prop where
  key : ConfigKey.ofScalar? e.key = ConfigKey.ofScalar? e'.key
  nothing : e.value.isNothing = e'.value.isNothing
  text : e.value.text? = e'.value.text?
  texts : e.value.texts? = e'.value.texts?

/-- The same entries, in orders of their own. -/
def SameEntries (entries entries' : List ConfigEntry) : Prop :=
  ∃ arranged, List.Forall₂ SameEntry entries arranged ∧ arranged.Perm entries'

theorem SameEntries.exists_right (h : SameEntries entries entries') (he : e ∈ entries) :
    ∃ e' ∈ entries', SameEntry e e' := by
  obtain ⟨arranged, hsame, hperm⟩ := h
  obtain ⟨e', he', hee'⟩ := exists_mem_of_forall₂ hsame he
  exact ⟨e', hperm.mem_iff.mp he', hee'⟩

theorem SameEntries.exists_left (h : SameEntries entries entries') (he' : e' ∈ entries') :
    ∃ e ∈ entries, SameEntry e e' := by
  obtain ⟨arranged, hsame, hperm⟩ := h
  exact exists_mem_of_forall₂ hsame.flip (hperm.mem_iff.mpr he')

theorem gives_of_same {item : Item} (htext : value.text? = value'.text?)
    (htexts : value.texts? = value'.texts?) :
    Gives base value key item ↔ Gives base value' key item := by
  have hmeans : ∀ ss, value.MeansTexts ss ↔ value'.MeansTexts ss := fun ss => by
    rw [← Data.texts?_eq_some_iff, ← Data.texts?_eq_some_iff, htexts]
  constructor
  · intro h
    cases h with
    | probingPaths h => exact .probingPaths ((hmeans _).mp h)
    | disableNamespaces h => exact .disableNamespaces ((hmeans _).mp h)
    | logLevel h hlevel => exact .logLevel (htext ▸ h) hlevel
    | logFormat h => exact .logFormat (htext ▸ h)
    | logFile h => exact .logFile (htext ▸ h)
  · intro h
    cases h with
    | probingPaths h => exact .probingPaths ((hmeans _).mpr h)
    | disableNamespaces h => exact .disableNamespaces ((hmeans _).mpr h)
    | logLevel h hlevel => exact .logLevel (htext ▸ h) hlevel
    | logFormat h => exact .logFormat (htext ▸ h)
    | logFile h => exact .logFile (htext ▸ h)

theorem sets_of_same {item : Item} (h : SameEntry e e') :
    Sets base e key item ↔ Sets base e' key item := by
  have hname : ∀ x : ConfigEntry,
      x.key = .plain (.text key.name) ↔ ConfigKey.ofScalar? x.key = some key := fun x =>
    ⟨fun hx => hx ▸ ConfigKey.ofScalar?_name key, ConfigKey.eq_of_ofScalar?⟩
  constructor
  · rintro ⟨hvalue, hkey, hgives⟩
    exact ⟨h.nothing ▸ hvalue, (hname e').mpr (h.key ▸ (hname e).mp hkey),
      (gives_of_same h.text h.texts).mp hgives⟩
  · rintro ⟨hvalue, hkey, hgives⟩
    exact ⟨h.nothing ▸ hvalue, (hname e).mpr (h.key ▸ (hname e').mp hkey),
      (gives_of_same h.text h.texts).mpr hgives⟩

/-- The same entries are accepted in every order. -/
theorem exists_ofEntries_of_same (h : SameEntries entries entries') :
    (∃ c, ofEntries base entries = .ok c) ↔ ∃ c, ofEntries base entries' = .ok c := by
  simp only [exists_ofEntries_iff]
  constructor
  · intro hsets e' he' hvalue'
    obtain ⟨e, he, hsame⟩ := h.exists_left he'
    obtain ⟨key, item, hset⟩ := hsets e he (hsame.nothing ▸ hvalue')
    exact ⟨key, item, (sets_of_same hsame).mp hset⟩
  · intro hsets e he hvalue
    obtain ⟨e', he', hsame⟩ := h.exists_right he
    obtain ⟨key, item, hset⟩ := hsets e' he' (hsame.nothing ▸ hvalue)
    exact ⟨key, item, (sets_of_same hsame).mpr hset⟩

/-- A key of a configuration that entries give is what one of them gives it, or none sets it. -/
theorem sets_or_default (hdistinct : DistinctEntries entries) (h : ofEntries base entries = .ok c)
    (key : ConfigKey) : (∃ e ∈ entries, Sets base e key (c.item key)) ∨
      (∀ e ∈ entries, ∀ item, ¬Sets base e key item) ∧ c.item key = ({} : Config).item key := by
  obtain ⟨hsets, hdefault, -⟩ := item_of_ofEntries hdistinct h
  by_cases hset : ∃ e ∈ entries, ∃ item, Sets base e key item
  · obtain ⟨e, he, item, hset⟩ := hset
    exact .inl ⟨e, he, (hsets e he key item hset).symm ▸ hset⟩
  · refine .inr ⟨fun e he item h => hset ⟨e, he, item, h⟩, hdefault key fun e he hname => ?_⟩
    by_contra hvalue
    obtain ⟨key', item, h'⟩ :=
      (exists_ofEntries_iff base).mp ⟨c, h⟩ e he (eq_false_of_ne_true hvalue)
    have hkey := ConfigKey.ofScalar?_name key
    rw [← hname, h'.name, ConfigKey.ofScalar?_name, Option.some.injEq] at hkey
    exact hset ⟨e, he, item, hkey ▸ h'⟩

/-- The same entries give one configuration in every order, if their keys are different. -/
theorem ofEntries_eq_of_same (hdistinct : DistinctEntries entries)
    (hdistinct' : DistinctEntries entries') (hsame : SameEntries entries entries')
    (h : ofEntries base entries = .ok c) (h' : ofEntries base entries' = .ok c') : c = c' := by
  obtain ⟨hsets, -, hfile⟩ := item_of_ofEntries hdistinct h
  obtain ⟨hsets', -, hfile'⟩ := item_of_ofEntries hdistinct' h'
  refine ext_items (fun key => ?_) (hfile.trans hfile'.symm)
  rcases sets_or_default hdistinct h key with ⟨e, he, hset⟩ | ⟨hno, hdefault⟩
  · -- the entry that sets the key here has its like among the others
    obtain ⟨e', he', hee'⟩ := hsame.exists_right he
    exact (hsets' e' he' key _ ((sets_of_same hee').mp hset)).symm
  · rcases sets_or_default hdistinct' h' key with ⟨e', he', hset'⟩ | ⟨-, hdefault'⟩
    · obtain ⟨e, he, hee'⟩ := hsame.exists_left he'
      exact absurd ((sets_of_same hee').mpr hset') (hno e he _)
    · rw [hdefault, hdefault']

/-! ## Texts -/

section OfText

variable {text text' : String} {d d' : Data}

theorem ofText_of_entries (hload : Yaml.load text = .ok (some d))
    (hentries : ConfigEntry.ofData d = .ok entries) :
    ofText base text = (ofEntries base entries).mapError ConfigFlaw.raised := by
  rw [ofText_of_some hload, hentries]
  rfl

theorem ofText_eq_ok_iff (hload : Yaml.load text = .ok (some d))
    (hentries : ConfigEntry.ofData d = .ok entries) :
    ofText base text = .ok c ↔ ofEntries base entries = .ok c := by
  rw [ofText_of_entries hload hentries]
  cases ofEntries base entries <;> simp [Except.mapError]

/-- What is wrong with the first flawed entry is a configuration error exactly if it can be written. -/
theorem FirstFlaw.isConfigError_iff (h : FirstFlaw entries f) :
    (∃ prior, f.raised.IsConfigError prior) ↔ ∃ message, f.message = .ok message := by
  constructor
  · rintro ⟨prior, hconfig⟩
    cases hmessage : f.message with
    | ok message => exact ⟨message, rfl⟩
    | error obstacle =>
      rw [raised_of_unshowable hmessage] at hconfig
      exact absurd hconfig (Raised.not_isConfigError_other _ prior)
  · rintro ⟨message, hmessage⟩
    exact ⟨none, isConfigError_raised hmessage h.ne_unreadable⟩

/-- A mapping is accepted exactly if each entry that is not nothing sets a key. The configuration is the
default one, but for the keys that are set. If it is refused, then for its first flawed entry, with a
configuration error exactly if the message about that can be written. The same entries in another order
are accepted too, and give the same configuration, or are refused too. -/
theorem accepted_iff (base : Path) (hload : Yaml.load text = .ok (some d))
    (hentries : ConfigEntry.ofData d = .ok entries) :
    ((∃ c, ofText base text = .ok c) ↔
        ∀ e ∈ entries, e.value.isNothing = false → ∃ key item, Sets base e key item) ∧
      (∀ c, ofText base text = .ok c →
        (∀ e ∈ entries, ∀ (key : ConfigKey) item, Sets base e key item →
          c.item? key.name = some item) ∧
        (∀ key : ConfigKey, (∀ e ∈ entries, e.key = .plain (.text key.name) → e.value.isNothing = true) →
          c.item? key.name = ({} : Config).item? key.name) ∧
        c.configFile = none) ∧
      (∀ o, ofText base text = .error o ↔ ∃ f, FirstFlaw entries f ∧ o = f.raised) ∧
      (∀ f, FirstFlaw entries f →
        ((∃ prior, f.raised.IsConfigError prior) ↔ ∃ message, f.message = .ok message)) ∧
      ∀ text' d' entries', Yaml.load text' = .ok (some d') →
        ConfigEntry.ofData d' = .ok entries' → SameEntries entries entries' →
        (∃ c, ofText base text = .ok c ∧ ofText base text' = .ok c) ∨
          ∃ f f', FirstFlaw entries f ∧ FirstFlaw entries' f' ∧
            ofText base text = .error f.raised ∧ ofText base text' = .error f'.raised := by
  have hdistinct := distinctEntries_of_load hload hentries
  refine ⟨?_, fun c hc => ?_, fun o => ofText_eq_error_iff hload hentries,
    fun f hf => hf.isConfigError_iff, fun text' d' entries' hload' hentries' hsame => ?_⟩
  · simp only [ofText_eq_ok_iff hload hentries]
    exact exists_ofEntries_iff base
  · obtain ⟨hsets, hdefault, hfile⟩ :=
      item_of_ofEntries hdistinct ((ofText_eq_ok_iff hload hentries).mp hc)
    simp only [item?_name, Option.some.injEq]
    exact ⟨hsets, hdefault, hfile⟩
  · have hdistinct' := distinctEntries_of_load hload' hentries'
    have hboth : (∃ c, ofEntries base entries = .ok c) ↔ ∃ c, ofEntries base entries' = .ok c :=
      exists_ofEntries_of_same hsame
    cases hout : ofEntries base entries with
    | ok c =>
      obtain ⟨c', hc'⟩ := hboth.mp ⟨c, hout⟩
      obtain rfl := ofEntries_eq_of_same hdistinct hdistinct' hsame hout hc'
      exact .inl ⟨c, (ofText_eq_ok_iff hload hentries).mpr hout,
        (ofText_eq_ok_iff hload' hentries').mpr hc'⟩
    | error f =>
      cases hout' : ofEntries base entries' with
      | ok c' =>
        obtain ⟨c, hc⟩ := hboth.mpr ⟨c', hout'⟩
        cases hout.symm.trans hc
      | error f' =>
        have hfirst := (ofEntries_eq_error_iff base).mp hout
        have hfirst' := (ofEntries_eq_error_iff base).mp hout'
        exact .inr ⟨f, f', hfirst, hfirst', (ofText_eq_error_iff hload hentries).mpr ⟨f, hfirst, rfl⟩,
          (ofText_eq_error_iff hload' hentries').mpr ⟨f', hfirst', rfl⟩⟩

end OfText

/-! ## Two entries in both orders -/

/-- The entries set these keys to these texts, in this order. -/
def SetTexts (entries : List ConfigEntry) (settings : List (ConfigKey × String)) : Prop :=
  List.Forall₂ (fun e s => ConfigKey.ofScalar? e.key = some s.1 ∧ e.value.text? = some s.2) entries
    settings

/-- The entries of the text set these keys to these texts, in this order. -/
def setsTexts (text : String) (settings : List (ConfigKey × String)) : Bool :=
  match Yaml.load text with
  | .ok (some d) =>
    match ConfigEntry.ofData d with
    | .ok entries =>
      entries.map (fun e => (ConfigKey.ofScalar? e.key, e.value.text?)) =
        settings.map fun s => (some s.1, some s.2)
    | .error _ => false
  | _ => false

theorem exists_entries_of_setsTexts {text : String} {settings : List (ConfigKey × String)}
    (h : setsTexts text settings = true) :
    ∃ d entries, Yaml.load text = .ok (some d) ∧ ConfigEntry.ofData d = .ok entries ∧
      SetTexts entries settings := by
  unfold setsTexts at h
  split at h
  · rename_i d hload
    split at h
    · rename_i entries hentries
      refine ⟨d, entries, hload, hentries, ?_⟩
      have heq := of_decide_eq_true h
      rw [← List.forall₂_eq_eq_eq, List.forall₂_map_left_iff, List.forall₂_map_right_iff] at heq
      exact heq.imp fun e s hes => Prod.mk.inj hes
    · cases h
  · cases h

theorem texts_of_text {value : Data} {t : String} (h : value.text? = some t) :
    value.isNothing = false ∧ value.texts? = some [t] := by
  refine ⟨?_, Data.texts?_eq_some_iff.mpr (.alone h)⟩
  unfold Data.text? Yaml.Datum.text? at h
  unfold Data.isNothing
  split at h
  · rename_i hroot
    rw [hroot]
  · rename_i hroot
    rw [hroot]
  · cases h

theorem sameEntry_of_texts {e e' : ConfigEntry} {s : ConfigKey × String}
    (h : ConfigKey.ofScalar? e.key = some s.1 ∧ e.value.text? = some s.2)
    (h' : ConfigKey.ofScalar? e'.key = some s.1 ∧ e'.value.text? = some s.2) : SameEntry e e' where
  key := h.1.trans h'.1.symm
  nothing := (texts_of_text h.2).1.trans (texts_of_text h'.2).1.symm
  text := h.2.trans h'.2.symm
  texts := (texts_of_text h.2).2.trans (texts_of_text h'.2).2.symm

/-- The same two settings are accepted in both orders. -/
theorem accepted_inBothOrders :
    ∃ c, ofText ⟨.slash, []⟩ "log_file: x.log\nlog_level: INFO" = .ok c ∧
      ofText ⟨.slash, []⟩ "log_level: INFO\nlog_file: x.log" = .ok c ∧
      c.item? "log_level" = some (.text "info") := by
  have hread : setsTexts "log_file: x.log\nlog_level: INFO"
      [(.logFile, "x.log"), (.logLevel, "INFO")] = true := by decide +kernel
  have hread' : setsTexts "log_level: INFO\nlog_file: x.log"
      [(.logLevel, "INFO"), (.logFile, "x.log")] = true := by decide +kernel
  obtain ⟨d, entries, hload, hentries, hsettings⟩ := exists_entries_of_setsTexts hread
  obtain ⟨d', entries', hload', hentries', hsettings'⟩ := exists_entries_of_setsTexts hread'
  obtain ⟨haccepted, hitems, -, -, horder⟩ := accepted_iff ⟨.slash, []⟩ hload hentries
  obtain ⟨file, _, hfile, hrest, rfl⟩ := List.forall₂_cons_right_iff.mp hsettings
  obtain ⟨level, _, hlevel, hnil, rfl⟩ := List.forall₂_cons_right_iff.mp hrest
  obtain rfl := List.forall₂_nil_right_iff.mp hnil
  obtain ⟨level', _, hlevel', hrest', rfl⟩ := List.forall₂_cons_right_iff.mp hsettings'
  obtain ⟨file', _, hfile', hnil', rfl⟩ := List.forall₂_cons_right_iff.mp hrest'
  obtain rfl := List.forall₂_nil_right_iff.mp hnil'
  have hsame : SameEntries [file, level] [level', file'] :=
    ⟨[file', level'], .cons (sameEntry_of_texts hfile hfile')
      (.cons (sameEntry_of_texts hlevel hlevel') .nil), .swap ..⟩
  have hsetsFile : Sets ⟨.slash, []⟩ file .logFile (.path (some ⟨.slash, ["x.log"]⟩)) :=
    ⟨(texts_of_text hfile.2).1, ConfigKey.eq_of_ofScalar? hfile.1, .logFile hfile.2⟩
  have hlower : Text.lower "INFO" = "info" := by decide +kernel
  have hsetsLevel : Sets ⟨.slash, []⟩ level .logLevel (.text "info") := by
    refine ⟨(texts_of_text hlevel.2).1, ConfigKey.eq_of_ofScalar? hlevel.1, ?_⟩
    rw [← hlower]
    exact .logLevel hlevel.2 (by decide +kernel)
  have hall : ∀ e ∈ [file, level], e.value.isNothing = false →
      ∃ key item, Sets ⟨.slash, []⟩ e key item := by
    intro e he _
    rcases List.mem_pair.mp he with rfl | rfl
    · exact ⟨_, _, hsetsFile⟩
    · exact ⟨_, _, hsetsLevel⟩
  obtain ⟨c, hc⟩ := haccepted.mpr hall
  rcases horder _ d' _ hload' hentries' hsame with ⟨c', hc', hout'⟩ | ⟨f, f', -, -, herror, -⟩
  · obtain rfl := Except.ok.inj (hc.symm.trans hc')
    have hitem := (hitems c hc).1 level (by simp) .logLevel _ hsetsLevel
    exact ⟨c, hc, hout', hitem⟩
  · cases hc.symm.trans herror

/-! ## Lines -/

/-- The entry of a line among lines. -/
def lineEntry (lines : List Line) (s : Line) : ConfigEntry := ⟨s.entry.1, (Line.data lines).at s.entry.2⟩

/-- A line says the same among all lines. -/
theorem sameEntry_lineEntry (lines lines' : List Line) (s : Line) :
    SameEntry (lineEntry lines s) (lineEntry lines' s) where
  key := rfl
  nothing := rfl
  text := rfl
  texts := rfl

/-- The entries of lines with different keys are what the lines say. -/
theorem ofData_lines {lines : List Line} (h : Yaml.DistinctKeys (lines.map Line.entry)) :
    ConfigEntry.ofData (Line.data lines) = .ok (lines.map (lineEntry lines)) := by
  have hroot : (Line.data lines).root = .collection 0 := rfl
  have hget : (Line.data lines).get 0 = .dict (lines.map Line.entry) := by
    rw [Line.get_data, Yaml.uniteEntries_of_distinct h]
  rw [ConfigEntry.ofData, hroot]
  dsimp only
  rw [hget]
  dsimp only
  rw [List.map_map]
  rfl

/-- A text of lines with different keys is refused for the first that is flawed. -/
theorem ofText_lines {s : Line} {more : List Line} (hdistinct : Yaml.DistinctKeys ((s :: more).map Line.entry))
    (h : FirstFlaw ((s :: more).map (lineEntry (s :: more))) f) :
    ofText base (String.ofList (s.text more)) = .error f.raised :=
  (ofText_eq_error_iff (Yaml.load_lines s more) (ofData_lines hdistinct)).mpr ⟨f, h, rfl⟩

/-- A log file that is a number: a one and zeros in base sixteen. -/
def numberLine (zeros : Nat) : Line where
  key := ['l', 'o', 'g', '_', 'f', 'i', 'l', 'e']
  value := '0' :: 'x' :: '1' :: List.replicate zeros '0'
  scalar := .plain (.int (Nat.pow 16 zeros : Nat))
  isKey := Yaml.isPlainWord_cons (by decide) (by decide)
  isText := by decide +kernel
  short := by decide
  isValue := Yaml.isPlainWord_cons (by decide) (by
    rw [List.all_cons, List.all_cons, List.all_cons, List.all_replicate]
    split <;> decide)
  reads := Yaml.reads_power zeros

/-- A level that is none. -/
def loudLine : Line where
  key := ['l', 'o', 'g', '_', 'l', 'e', 'v', 'e', 'l']
  value := ['l', 'o', 'u', 'd']
  scalar := .plain (.text "loud")
  isKey := Yaml.isPlainWord_cons (by decide) (by decide)
  isText := by decide +kernel
  short := by decide
  isValue := Yaml.isPlainWord_cons (by decide) (by decide)
  reads := Yaml.reads_text (by decide +kernel)

theorem flawed_numberLine (lines : List Line) (zeros : Nat) :
    Flawed (lineEntry lines (numberLine zeros)) (.notText .logFile (lineEntry lines (numberLine zeros)).value) :=
  .value rfl rfl (.text (.inr (.inr rfl)) rfl)

theorem flawed_loudLine (lines : List Line) : Flawed (lineEntry lines loudLine) (.unknownLevel "loud") :=
  .value rfl rfl (.level rfl (by decide +kernel))

/-- The message about a number with too many digits cannot be written. -/
theorem message_of_isTooLong {i : Int} (h : Number.isTooLong i = true) (key : ConfigKey)
    (collections : Array Yaml.Collection) :
    (ConfigFlaw.notText key ⟨.scalar (.plain (.int i)), collections⟩).message =
      .error .longInteger := by
  have hobstacle : (Value.int i).obstacle? = some .longInteger := by
    rw [Value.obstacle?, if_pos h]
  have hlong : Data.display ⟨.scalar (.plain (.int i)), collections⟩ = .error .longInteger := by
    unfold Data.display Data.displayIn Scalar.display Value.display
    dsimp only
    rw [hobstacle]
    rfl
  unfold ConfigFlaw.message
  dsimp only
  rw [hlong]
  rfl

theorem message_numberLine (lines : List Line) {zeros : Nat}
    (h : Number.isTooLong (Nat.pow 16 zeros : Nat) = true) :
    (ConfigFlaw.notText .logFile (lineEntry lines (numberLine zeros)).value).message =
      .error .longInteger :=
  message_of_isTooLong h _ _

/-! ## The text of two lines in both orders -/

theorem text_loudLine (zeros : Nat) : String.ofList (loudLine.text [numberLine zeros]) =
    "log_level: loud\nlog_file: 0x1" ++ String.ofList (List.replicate zeros '0') := by
  refine String.toList_inj.mp ?_
  simp [Line.text, Line.chars, loudLine, numberLine]

theorem text_numberLine (zeros : Nat) : String.ofList ((numberLine zeros).text [loudLine]) =
    "log_file: 0x1" ++ String.ofList (List.replicate zeros '0') ++ "\nlog_level: loud" := by
  refine String.toList_inj.mp ?_
  simp [Line.text, Line.chars, loudLine, numberLine]

/-- The same two entries are refused in both orders, but only in one of them with a configuration error: of a number
with too many digits no message can be written. -/
theorem refused_unlike :
    (∃ d d' entries entries',
      Yaml.load ("log_level: loud\nlog_file: 0x1" ++ String.ofList (List.replicate 3572 '0')) = .ok (some d) ∧
      Yaml.load ("log_file: 0x1" ++ String.ofList (List.replicate 3572 '0') ++ "\nlog_level: loud") =
        .ok (some d') ∧
      ConfigEntry.ofData d = .ok entries ∧ ConfigEntry.ofData d' = .ok entries' ∧
      SameEntries entries entries') ∧
    (∃ o prior, ofText ⟨.slash, []⟩
        ("log_level: loud\nlog_file: 0x1" ++ String.ofList (List.replicate 3572 '0')) = .error o ∧
      o.IsConfigError prior) ∧
    ∃ o, ofText ⟨.slash, []⟩
        ("log_file: 0x1" ++ String.ofList (List.replicate 3572 '0') ++ "\nlog_level: loud") = .error o ∧
      ∀ prior, ¬o.IsConfigError prior := by
  have hlong : Number.isTooLong (Nat.pow 16 3572 : Nat) = true := by decide +kernel
  rw [← text_loudLine, ← text_numberLine]
  -- what follows holds for every number of zeros that makes the number too long
  generalize 3572 = zeros at hlong ⊢
  have hdistinct : Yaml.DistinctKeys ([loudLine, numberLine zeros].map Line.entry) :=
    List.pairwise_pair.mpr rfl
  have hdistinct' : Yaml.DistinctKeys ([numberLine zeros, loudLine].map Line.entry) :=
    List.pairwise_pair.mpr rfl
  have hload := Yaml.load_lines loudLine [numberLine zeros]
  have hload' := Yaml.load_lines (numberLine zeros) [loudLine]
  refine ⟨⟨_, _, _, _, hload, hload', ofData_lines hdistinct, ofData_lines hdistinct', ?_⟩, ?_, ?_⟩
  · exact ⟨_, .cons (sameEntry_lineEntry _ _ loudLine) (.cons (sameEntry_lineEntry _ _ _) .nil),
      .swap ..⟩
  · exact ⟨_, none, ofText_lines hdistinct (firstFlaw_cons.mpr (.inl (flawed_loudLine _))),
      isConfigError_raised rfl ConfigFlaw.noConfusion⟩
  · refine ⟨_, ofText_lines hdistinct' (firstFlaw_cons.mpr (.inl (flawed_numberLine _ _))),
      fun prior => ?_⟩
    rw [raised_of_unshowable (message_numberLine _ hlong)]
    exact Raised.not_isConfigError_other _ prior

end Config

end BuildScript
