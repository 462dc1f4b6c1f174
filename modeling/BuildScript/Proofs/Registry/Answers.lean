import BuildScript.Proofs.Registry.Catalogue

/-!
What can be asked of a registry, and that the catalogue of its history answers it: which
registrations are refused and why, which plugin holds a namespace, which function a call is
resolved to, and what is listed. A change that raises leaves nothing behind, with one exception: a
set whose class has no file is taken, and then raises where it is reported. Main statement:
`ofChanges_answers`, for every history of changes.
-/

namespace BuildScript

/-- A change is refused with an error of this class. -/
def Changed.Refuses {σ : Type} (c : Changed σ) (cls : FaultClass) : Prop :=
  ∃ e, c.error = some (.refused e) ∧ e.cls = cls

/-- Whatever is asked of a registry is answered as the catalogue says. -/
structure Answers (r : Registry) (m : Catalogue) : Prop where
  /-- A set is refused for its namespace exactly if that is held, and the files of both can be named. -/
  register_held (p : CheckedPlugin) :
    (r.register p.1).Refuses .duplicateNamespace ↔
      ∃ q, m.holder? p.1.space = some q ∧ p.1.cls.unfiled? = none ∧ q.cls.unfiled? = none
  /-- A set whose namespace is free is refused exactly if two functions share a signature. -/
  register_twice (p : CheckedPlugin) :
    (r.register p.1).Refuses .duplicateSignature ↔ p.1.space ∉ m.spaces ∧ p.1.Ambiguous
  /-- That a class has no file is raised of the two in a conflict, or of a set that has been taken. -/
  register_noFile (p : CheckedPlugin) (why : NoFile) :
    (r.register p.1).error = some (.noFile why) ↔
      (∃ q, m.holder? p.1.space = some q ∧
          p.1.cls.unfiled?.or q.cls.unfiled? = some why) ∨
        m.Allows (.register p) ∧ p.1.cls.unfiled? = some why
  register_ok (p : CheckedPlugin) :
    (r.register p.1).error = none ↔
      p.1.space ∉ m.spaces ∧ ¬ p.1.Ambiguous ∧ p.1.cls.unfiled? = none
  unregister_ok (space : String) : (∃ r', r.unregister space = .ok r') ↔ space ∈ m.spaces
  unregister_error (space : String) :
    r.unregister space = .error (.notRegistered space) ↔ space ∉ m.spaces
  /-- A change that raises leaves both tables as they were exactly if it is not allowed, -/
  raised (c : Change) (e : ChangeError) :
    (r.change c).error = some e → (r.after c = r ↔ ¬ m.Allows c)
  /-- and one that is allowed raises only if it is the registration of a class without a file. -/
  raised_late (c : Change) (e : ChangeError) : (r.change c).error = some e → m.Allows c →
    ∃ p why, c = .register p ∧ p.1.cls.unfiled? = some why ∧ e = .noFile why
  getSet_eq (space : String) :
    r.getSet space =
      match m.holder? space with
      | some q => .ok q
      | none => .error (.unknownNamespace space)
  contains_iff (space : String) : r.sets.contains space = true ↔ space ∈ m.spaces
  size_eq : r.sets.size = m.length
  namespaces_eq : r.namespaces = m.spaces
  /-- A call is resolved to the one function of the held set with that name and that many
  parameters. -/
  resolve_ok (space name : String) (arity : Nat) (d : Descriptor) :
    r.resolve space name arity = .ok d ↔
      ∃ q, m.holder? space = some q ∧ d ∈ q.descriptors ∧ d.name = name ∧ d.arity = arity
  resolve_unique (q : Plugin) (space : String) : m.holder? space = some q → ¬ q.Ambiguous
  resolve_unknownNamespace (space name : String) (arity : Nat) :
    r.resolve space name arity = .error (.unknownNamespace space) ↔ space ∉ m.spaces
  resolve_unknownFunction (space name : String) (arity : Nat) :
    r.resolve space name arity = .error (.unknownFunction space name arity) ↔
      ∃ q, m.holder? space = some q ∧ ∀ d ∈ q.descriptors, ¬ (d.name = name ∧ d.arity = arity)
  /-- All functions of the held sets are listed, or all of one of them. -/
  mem_listed (space : Option String) (d : Descriptor) :
    d ∈ r.listed space ↔
      ∃ p ∈ m, (space = none ∨ space = some p.1.space) ∧ d ∈ p.1.descriptors
  listed_increasing (space : Option String) :
    (r.listed space).Pairwise fun a b => a.key.parts < b.key.parts
  resolve_listed (space : Option String) (d : Descriptor) :
    d ∈ r.listed space → r.resolve d.space d.name d.arity = .ok d

namespace Registry

variable {p q : Plugin}

/-- The files in the message of a conflict are asked for in turn. -/
theorem conflict_eq_noFile_iff {why : NoFile} :
    conflict p q = .noFile why ↔ p.cls.unfiled?.or q.cls.unfiled? = some why := by
  unfold conflict SetClass.unfiled?
  cases p.cls.file <;> cases q.cls.file <;> simp

theorem conflict_eq_refused_iff {e : RegistryError} :
    conflict p q = .refused e ↔
      ∃ file other, p.cls.file = .ok file ∧ q.cls.file = .ok other ∧
        e = .held p.space file other := by
  unfold conflict
  cases p.cls.file <;> cases q.cls.file <;> simp [eq_comm]

theorem conflict_refuses_iff (r : Registry) (cls : FaultClass) :
    (Changed.mk r (some (conflict p q))).Refuses cls ↔
      cls = .duplicateNamespace ∧ p.cls.unfiled? = none ∧ q.cls.unfiled? = none := by
  simp only [Changed.Refuses, Option.some.injEq, conflict_eq_refused_iff]
  unfold SetClass.unfiled?
  cases p.cls.file <;> cases q.cls.file <;> simp [RegistryError.cls, eq_comm]

end Registry

/-- A set that has been added holds its namespace, so its registry is another one than before. -/
theorem Registry.add_ne {r : Registry} {p : Plugin} (h : r.sets.get? p.space = none) :
    r.add p ≠ r := by
  intro he
  have hheld : (r.add p).sets.get? p.space = some p := by
    rw [Registry.add, Table.get?_put, if_pos rfl]
  rw [he, h] at hheld
  cases hheld

namespace Represents

variable {r : Registry} {m : Catalogue}

theorem mem_spaces_iff (h : Represents r m) (space : String) :
    space ∈ m.spaces ↔ ∃ q, r.sets.get? space = some q := by
  rw [← h.contains_sets_iff, Table.contains, Option.isSome_iff_exists]

/-- The three outcomes of a registration. -/
theorem register_cases (h : Represents r m) (p : CheckedPlugin) :
    (p.1.space ∈ m.spaces ∧ ∃ q, m.holder? p.1.space = some q ∧
        r.register p.1 = ⟨r, some (Registry.conflict p.1 q)⟩) ∨
      (p.1.space ∉ m.spaces ∧ p.1.Ambiguous ∧
        ∃ d : Descriptor, r.register p.1 = ⟨r, some (.refused (.twice p.1.space d.qualified d.arity))⟩) ∨
      (p.1.space ∉ m.spaces ∧ ¬ p.1.Ambiguous ∧
        r.register p.1 = ⟨r.add p.1, p.1.cls.unfiled?.map .noFile⟩) := by
  by_cases hheld : p.1.space ∈ m.spaces
  · obtain ⟨q, hq, hholder⟩ := h.get?_eq_some hheld
    exact .inl ⟨hheld, q, hholder, Registry.register_of_held hq⟩
  · have hfree := h.get?_eq_none hheld
    by_cases hp : p.1.Ambiguous
    · obtain ⟨d, -, htwice⟩ := Registry.register_of_twice hfree
        fun hnd => p.2.nodup_keys_iff.mp hnd hp
      exact .inr (.inl ⟨hheld, hp, d, htwice⟩)
    · exact .inr (.inr ⟨hheld, hp, Registry.register_of_takes ⟨hfree, p.2.nodup_keys_iff.mpr hp⟩⟩)

theorem resolve_of_holder (h : Represents r m) {space : String} {q : Plugin}
    (hq : m.holder? space = some q) (name : String) (arity : Nat) :
    r.resolve space name arity =
      match r.functions.get? ⟨space, name, arity⟩ with
      | some d => .ok d
      | none => .error (.unknownFunction space name arity) := by
  have hheld : r.sets.contains space = true := by
    rw [Table.contains, h.get?_sets, hq]
    rfl
  unfold Registry.resolve
  exact if_pos hheld

theorem resolve_of_free (h : Represents r m) {space : String} (hfree : space ∉ m.spaces)
    (name : String) (arity : Nat) :
    r.resolve space name arity = .error (.unknownNamespace space) := by
  rw [Registry.resolve, if_neg fun hheld => hfree ((h.contains_sets_iff space).mp hheld)]

/-- The three outcomes of a resolution. -/
theorem resolve_cases (h : Represents r m) (space name : String) (arity : Nat) :
    (space ∉ m.spaces ∧ r.resolve space name arity = .error (.unknownNamespace space)) ∨
      (∃ q, m.holder? space = some q ∧
        ((∃ d ∈ q.descriptors, d.name = name ∧ d.arity = arity ∧
            r.resolve space name arity = .ok d) ∨
          ((∀ d ∈ q.descriptors, ¬ (d.name = name ∧ d.arity = arity)) ∧
            r.resolve space name arity = .error (.unknownFunction space name arity)))) := by
  cases hq : m.holder? space with
  | none =>
    have hfree := (Catalogue.holder?_eq_none_iff m space).mp hq
    exact .inl ⟨hfree, h.resolve_of_free hfree name arity⟩
  | some q =>
    refine .inr ⟨q, rfl, ?_⟩
    rw [h.resolve_of_holder hq]
    cases hd : r.functions.get? ⟨space, name, arity⟩ with
    | some d =>
      obtain ⟨q', hq', hmem, hk⟩ := (h.functions_iff_holder _ _).mp hd
      obtain rfl : q = q' := Option.some.inj (hq.symm.trans hq')
      exact .inl ⟨d, hmem, congrArg FunctionKey.name hk, congrArg FunctionKey.arity hk, rfl⟩
    | none =>
      refine .inr ⟨fun d hmem hda => ?_, rfl⟩
      obtain ⟨⟨p, -, rfl⟩, hspace⟩ := Catalogue.holder?_mem hq
      have hkey : d.key = ⟨space, name, arity⟩ := by
        rw [Descriptor.key, p.2.space_of_mem hmem, hspace, hda.1, hda.2]
      have hsome := (h.functions_iff_holder ⟨space, name, arity⟩ d).mpr ⟨p.1, hq, hmem, hkey⟩
      rw [hd] at hsome
      cases hsome

theorem resolve_ok_iff (h : Represents r m) (space name : String) (arity : Nat) (d : Descriptor) :
    r.resolve space name arity = .ok d ↔
      ∃ q, m.holder? space = some q ∧ d ∈ q.descriptors ∧ d.name = name ∧ d.arity = arity := by
  constructor
  · intro hr
    rcases h.resolve_cases space name arity with
      ⟨-, he⟩ | ⟨q, hq, ⟨d', hmem, hname, harity, hok⟩ | ⟨-, he⟩⟩
    · rw [he] at hr
      cases hr
    · obtain rfl : d' = d := Except.ok.inj (hok.symm.trans hr)
      exact ⟨q, hq, hmem, hname, harity⟩
    · rw [he] at hr
      cases hr
  · rintro ⟨q, hq, hmem, rfl, rfl⟩
    obtain ⟨⟨p, -, rfl⟩, hspace⟩ := Catalogue.holder?_mem hq
    have hkey : d.key = ⟨space, d.name, d.arity⟩ := by
      rw [Descriptor.key, p.2.space_of_mem hmem, hspace]
    rw [h.resolve_of_holder hq, (h.functions_iff_holder _ d).mpr ⟨p.1, hq, hmem, hkey⟩]

/-- A registry whose tables hold what a catalogue says answers as it does. -/
theorem answers (h : Represents r m) : Answers r m where
  register_held p := by
    rcases h.register_cases p with ⟨-, q, hq, hr⟩ | ⟨hfree, -, d, hr⟩ | ⟨hfree, -, hr⟩
    · rw [hr, Registry.conflict_refuses_iff]
      simp [hq]
    · simp [hr, Changed.Refuses, RegistryError.cls, (Catalogue.holder?_eq_none_iff m _).mpr hfree]
    · simp [hr, Changed.Refuses, (Catalogue.holder?_eq_none_iff m _).mpr hfree]
  register_twice p := by
    rcases h.register_cases p with ⟨hheld, q, -, hr⟩ | ⟨hfree, hp, d, hr⟩ | ⟨-, hp, hr⟩
    · rw [hr, Registry.conflict_refuses_iff]
      simp [hheld]
    · simp [hr, Changed.Refuses, RegistryError.cls, hfree, hp]
    · simp [hr, Changed.Refuses, hp]
  register_noFile p why := by
    rcases h.register_cases p with ⟨hheld, q, hq, hr⟩ | ⟨hfree, hp, d, hr⟩ | ⟨hfree, hp, hr⟩
    · simp [hr, hq, Catalogue.Allows, hheld, Registry.conflict_eq_noFile_iff]
    · simp [hr, Catalogue.Allows, hp, (Catalogue.holder?_eq_none_iff m _).mpr hfree]
    · simp [hr, Catalogue.Allows, hp, hfree, (Catalogue.holder?_eq_none_iff m _).mpr hfree]
  register_ok p := by
    rcases h.register_cases p with ⟨hheld, q, -, hr⟩ | ⟨hfree, hp, d, hr⟩ | ⟨hfree, hp, hr⟩
    · simp [hr, hheld]
    · simp [hr, hp]
    · simp [hr, hfree, hp]
  unregister_ok space := by
    rw [← h.contains_sets_iff, Registry.unregister]
    split <;> simp [*]
  unregister_error space := by
    rw [← h.contains_sets_iff, Registry.unregister]
    split <;> simp [*]
  raised c e hc := by
    by_cases hallows : m.Allows c
    · refine iff_of_false ?_ fun hno => hno hallows
      rw [h.change_of_allows hallows] at hc
      cases c with
      | unregister space => cases hc
      | register p =>
        rw [Registry.after, h.change_of_allows hallows]
        exact Registry.add_ne (h.get?_eq_none hallows.1)
    · obtain ⟨e, he⟩ := h.change_of_not_allows hallows
      refine iff_of_true ?_ hallows
      rw [Registry.after, he]
  raised_late c e hc hallows := by
    rw [h.change_of_allows hallows] at hc
    cases c with
    | unregister space => cases hc
    | register p =>
      obtain ⟨why, hwhy, rfl⟩ := Option.map_eq_some_iff.mp hc
      exact ⟨p, why, rfl, hwhy, rfl⟩
  getSet_eq space := by
    unfold Registry.getSet
    cases hq : m.holder? space with
    | none => simp only [h.get?_sets, hq]
    | some q => simp only [h.get?_sets, hq]
  contains_iff := h.contains_sets_iff
  size_eq := by
    rw [Table.size, h.sets, List.length_map]
  namespaces_eq := h.keys_sets
  resolve_ok := h.resolve_ok_iff
  resolve_unique q space hq := by
    obtain ⟨⟨p, hp, rfl⟩, -⟩ := Catalogue.holder?_mem hq
    exact h.unambiguous p hp
  resolve_unknownNamespace space name arity := by
    rcases h.resolve_cases space name arity with ⟨hfree, hr⟩ | ⟨q, hq, hr⟩
    · simp [hr, hfree]
    · have hheld : ¬ space ∉ m.spaces := by
        rw [← Catalogue.holder?_eq_none_iff, hq]
        exact Option.some_ne_none q
      rcases hr with ⟨d, -, -, -, hr⟩ | ⟨-, hr⟩ <;> simp [hr, hheld]
  resolve_unknownFunction space name arity := by
    rcases h.resolve_cases space name arity with ⟨hfree, hr⟩ | ⟨q, hq, hr⟩
    · simp [hr, (Catalogue.holder?_eq_none_iff m space).mpr hfree]
    · rcases hr with ⟨d, hmem, hname, harity, hr⟩ | ⟨hno, hr⟩
      · simp only [hr, reduceCtorEq, hq, Option.some.injEq, false_iff, not_exists, not_and]
        rintro _ rfl hno
        exact hno d hmem hname harity
      · exact ⟨fun _ => ⟨q, hq, hno⟩, fun _ => hr⟩
  mem_listed space d := by
    rw [Registry.mem_listed]
    constructor
    · intro hx
      obtain ⟨k, hk, hspace⟩ := hx
      obtain ⟨p, hp, hd, rfl⟩ := (h.functions k d).mp hk
      rw [Descriptor.space_key, p.2.space_of_mem hd] at hspace
      exact ⟨p, hp, hspace, hd⟩
    · intro hx
      obtain ⟨p, hp, hspace, hd⟩ := hx
      refine ⟨d.key, (h.functions _ d).mpr ⟨p, hp, hd, rfl⟩, ?_⟩
      rw [Descriptor.space_key, p.2.space_of_mem hd]
      exact hspace
  listed_increasing := Registry.listed_increasing fun k d hk => by
    obtain ⟨p, -, -, hkey⟩ := (h.functions k d).mp hk
    exact hkey
  resolve_listed space d hd := by
    obtain ⟨k, hk, -⟩ := (r.mem_listed space d).mp hd
    obtain ⟨q, hq, hmem, rfl⟩ := (h.functions_iff_holder k d).mp hk
    exact (h.resolve_ok_iff _ _ _ d).mpr ⟨q, hq, hmem, rfl, rfl⟩

end Represents

/-- After every history of changes, those that raised among them, a registry answers as the catalogue
that the allowed changes make. -/
theorem ofChanges_answers (cs : List Change) :
    Answers (Registry.ofChanges cs) (Catalogue.ofChanges cs) :=
  (Represents.ofChanges cs).answers

/-- A class without functions. -/
def bareClass (id : Nat) (space : String) (file : Except NoFile String := .ok "") : SetClass :=
  { id, name := "Bare", file, space := .text space, doc := none, entries := []
    attributes := .empty, construct := fun _ => .ok .empty }

/-- The plugin of such a class. -/
def barePlugin (id : Nat) (space : String) (h : isName space = true)
    (file : Except NoFile String := .ok "") : CheckedPlugin :=
  ⟨{ id, space, cls := bareClass id space file, description := "", descriptors := [] },
    id, some "", .set (bareClass id space file), by
      have hname : (bareClass id space file).space.name? = some space := if_pos h
      rw [Plugin.ofCandidate, Plugin.ofClass, hname]
      rfl⟩

/-- The registration of a set whose class is of a module that is not there. -/
def unfiledChange : Change :=
  .register (barePlugin 1 "n" (by decide) (.error (.builtIn "<class 'gone.Bare'>")))

/-- The registration raises, and the registry is not the empty one that it was. -/
theorem after_unfiledChange :
    (Registry.change {} unfiledChange).error = some (.noFile (.builtIn "<class 'gone.Bare'>")) ∧
      (Registry.after {} unfiledChange).namespaces = ["n"] ∧
      Registry.after {} unfiledChange ≠ {} := by
  refine ⟨rfl, rfl, ?_⟩
  exact Registry.add_ne rfl

end BuildScript
