import BuildScript.Proofs.Dispatch.Offered
import BuildScript.Proofs.Registry.Interleaving
import BuildScript.Proofs.Registry.Missing

/-!
Registering the library's own sets, in whatever registry and with whatever namespaces disabled. The
plugins of two runs differ in their identities alone, so a second run finds what the first one has
added, and one that was stopped is completed by another once the set in its way is gone. Main
statement: `library_registered`.
-/

namespace BuildScript

/-! ## Plugins without their identity -/

/-- A plugin without its identity. Two plugins of one class differ in nothing else. -/
def Plugin.anonymous (p : Plugin) : Plugin := { p with id := 0 }

/-- The identity of a plugin counts for nothing in the check of its declaration. -/
theorem Plugin.ofClass_renamed {id : Nat} {description : Option String} {c : SetClass} {p : Plugin}
    (h : Plugin.ofClass id description c = .ok p) (other : Nat) :
    Plugin.ofClass other description c = .ok { p with id := other } := by
  unfold Plugin.ofClass at h ⊢
  split at h
  · cases h
  · split at h
    · cases h
    · cases hds : c.entries.mapM (c.describe _) with
      | error e => simp [hds, bind, Except.bind] at h
      | ok ds =>
        simp only [hds, bind, Except.bind, pure, Except.pure, Except.ok.injEq] at h ⊢
        rw [← h]

theorem map_anonymous_ofClass (id : Nat) (c : SetClass) :
    (Plugin.ofClass id none c).toOption.map Plugin.anonymous =
      (Evaluation.checkedPlugin? c).map fun p => p.1.anonymous := by
  cases hq : Evaluation.checkedPlugin? c with
  | some q =>
    have hmade := Plugin.ofClass_renamed (Evaluation.checkedPlugin?_eq_some hq) id
    rw [hmade]
    rfl
  | none =>
    cases hmade : Plugin.ofClass id none c with
    | error e => rfl
    | ok p =>
      have hsome := Evaluation.isSome_checkedPlugin? (Plugin.ofClass_renamed hmade c.id)
      rw [hq] at hsome
      cases hsome

namespace CorePlugins

variable {file : String} {n : Nat}

/-- Whatever identities they are given, the plugins of the library are of the same classes and have the
same functions. -/
theorem map_anonymous_corePlugins (file : String) (n : Nat) :
    (corePlugins file n).map Plugin.anonymous =
      (Evaluation.libraryPlugins file).map fun p => p.1.anonymous := by
  have hone : ∀ x : SetClass × Nat,
      ((Plugin.ofClass (n + x.2) none x.1).toOption).map Plugin.anonymous =
        (Evaluation.checkedPlugin? x.1).map fun p => p.1.anonymous :=
    fun x => map_anonymous_ofClass (n + x.2) x.1
  have hfirst : ((Core.classes file).zipIdx.filterMap fun x =>
      (Evaluation.checkedPlugin? x.1).map fun p => p.1.anonymous) =
        (Core.classes file).filterMap fun c => (Evaluation.checkedPlugin? c).map fun p =>
          p.1.anonymous := by
    conv => rhs; rw [← List.zipIdx_map_fst 0 (Core.classes file)]
    rw [List.filterMap_map]
    rfl
  rw [corePlugins, Evaluation.libraryPlugins, List.map_filterMap, List.map_filterMap]
  simp only [hone]
  exact hfirst

/-- So is whatever does not look at the identities. -/
theorem map_corePlugins {α : Type} {f : Plugin → α} (h : ∀ p : Plugin, f p.anonymous = f p)
    (file : String) (n : Nat) :
    (corePlugins file n).map f = (Evaluation.libraryPlugins file).map fun p => f p.1 := by
  have hmap := congrArg (List.map f) (map_anonymous_corePlugins file n)
  simpa only [List.map_map, Function.comp_def, h] using hmap

theorem map_cls_filterMap {cs : List SetClass}
    (h : ∀ c ∈ cs, (Evaluation.checkedPlugin? c).isSome = true) :
    (cs.filterMap Evaluation.checkedPlugin?).map (fun p => p.1.cls) = cs := by
  induction cs with
  | nil => rfl
  | cons c cs ih =>
    obtain ⟨p, hp⟩ := Option.isSome_iff_exists.mp (h c List.mem_cons_self)
    have hcls := (Plugin.ofClass_eq_ok (Evaluation.checkedPlugin?_eq_some hp)).1
    rw [List.filterMap_cons_some hp, List.map_cons, hcls,
      ih fun c hc => h c (List.mem_cons_of_mem _ hc)]

/-- There is a plugin for every class, in the order of the table. -/
theorem map_cls_corePlugins (file : String) (n : Nat) :
    (corePlugins file n).map Plugin.cls = Core.classes file := by
  rw [map_corePlugins fun _ => rfl, Evaluation.libraryPlugins]
  exact map_cls_filterMap fun c hc => Evaluation.Library.isSome_of_mem hc

theorem nodup_spaces_corePlugins (file : String) (n : Nat) :
    ((corePlugins file n).map Plugin.space).Nodup := by
  rw [map_corePlugins fun _ => rfl]
  exact Evaluation.Library.nodup_spaces file

theorem checked_of_mem {p : Plugin} (hp : p ∈ corePlugins file n) : p.Checked := by
  obtain ⟨x, -, hx⟩ := List.mem_filterMap.mp hp
  cases hmade : Plugin.ofClass (n + x.2) none x.1 with
  | error e => simp [hmade, Except.toOption] at hx
  | ok q =>
    have hq : q = p := by simpa [hmade, Except.toOption] using hx
    exact ⟨n + x.2, none, .set x.1, hq ▸ hmade⟩

/-- The classes of the library are written in its file. -/
theorem unfiled?_of_mem {p : Plugin} (hp : p ∈ corePlugins file n) : p.cls.unfiled? = none := by
  have hcls : p.cls ∈ (corePlugins file n).map Plugin.cls := List.mem_map_of_mem hp
  rw [map_cls_corePlugins] at hcls
  revert hcls
  generalize p.cls = c
  intro hcls
  simp only [Core.classes, List.mem_cons, List.not_mem_nil, or_false] at hcls
  rcases hcls with rfl | rfl | rfl | rfl | rfl | rfl | rfl <;> rfl

theorem not_ambiguous_of_mem {p : Plugin} (hp : p ∈ corePlugins file n) : ¬ p.Ambiguous := by
  have hmem : p.anonymous ∈ (corePlugins file n).map Plugin.anonymous := List.mem_map_of_mem hp
  rw [map_anonymous_corePlugins] at hmem
  obtain ⟨q, hq, hqp⟩ := List.mem_map.mp hmem
  obtain ⟨c, hc, hmade⟩ := List.mem_filterMap.mp hq
  have hdescriptors : q.1.anonymous.descriptors = p.anonymous.descriptors := by rw [hqp]
  have hown := Evaluation.not_ambiguous hmade (Evaluation.Library.nodup_names hc)
  have hsame : q.1.descriptors = p.descriptors := hdescriptors
  rwa [Plugin.Ambiguous, hsame] at hown

end CorePlugins

/-! ## Runs over the library's sets -/

/-- The loop over the library's own sets. -/
theorem Represents.addMissing_library {r : Registry} {m : Catalogue} (h : Represents r m)
    (file : String) (disabled : List String) (n : Nat) :
    (r.addMissing disabled (corePlugins file n)).added = r.chosen disabled (corePlugins file n) ∧
      (r.addMissing disabled (corePlugins file n)).error =
        r.clash? disabled (corePlugins file n) ∧
      ∃ new : List CheckedPlugin, new.map (·.1) = r.chosen disabled (corePlugins file n) ∧
        Represents (r.addMissing disabled (corePlugins file n)).state (m ++ new) := by
  let ps : List CheckedPlugin :=
    (corePlugins file n).attachWith Plugin.Checked fun _ hp => CorePlugins.checked_of_mem hp
  have hps : ps.map (·.1) = corePlugins file n := List.attachWith_map_subtype_val _
  have hspaces : (ps.map (·.1.space)).Nodup := by
    have hnodup := CorePlugins.nodup_spaces_corePlugins file n
    rw [← hps, List.map_map] at hnodup
    exact hnodup
  have hown : ∀ p ∈ ps, ¬ p.1.Ambiguous := by
    intro p hp
    have hmem : p.1 ∈ corePlugins file n := hps ▸ List.mem_map_of_mem hp
    exact CorePlugins.not_ambiguous_of_mem hmem
  have hfile : ∀ p ∈ ps, p.1.cls.unfiled? = none := by
    intro p hp
    have hmem : p.1 ∈ corePlugins file n := hps ▸ List.mem_map_of_mem hp
    exact CorePlugins.unfiled?_of_mem hmem
  rw [← hps]
  exact h.addMissing hspaces hown hfile

/-- The same namespaces are held and the same functions are registered. The plugins that hold them may
differ in their identities. -/
structure Registry.SameFunctions (r r' : Registry) : Prop where
  namespaces : r.namespaces = r'.namespaces
  listed space : r.listed space = r'.listed space
  resolve space name arity : r.resolve space name arity = r'.resolve space name arity

theorem Represents.sameFunctions {r r' : Registry} {m m' : Catalogue} (h : Represents r m)
    (h' : Represents r' m')
    (hsame : m.map (fun p => p.1.anonymous) = m'.map fun p => p.1.anonymous) :
    r.SameFunctions r' := by
  have hspaces : m.spaces = m'.spaces := by
    have hspace := congrArg (List.map Plugin.space) hsame
    rw [List.map_map, List.map_map] at hspace
    exact hspace
  have hmem : ∀ {m m' : Catalogue}, m.map (fun p => p.1.anonymous) = m'.map (fun p => p.1.anonymous) →
      ∀ {k d}, (∃ p ∈ m, d ∈ p.1.descriptors ∧ d.key = k) →
        ∃ p ∈ m', d ∈ p.1.descriptors ∧ d.key = k := by
    intro m m' hsame k d hx
    obtain ⟨p, hp, hd, hk⟩ := hx
    have hp' : p.1.anonymous ∈ m.map fun p => p.1.anonymous := List.mem_map_of_mem hp
    rw [hsame] at hp'
    obtain ⟨q, hq, hqp⟩ := List.mem_map.mp hp'
    have hdescriptors : q.1.anonymous.descriptors = p.1.anonymous.descriptors := by rw [hqp]
    exact ⟨q, hq, hdescriptors.symm ▸ hd, hk⟩
  have hfunctions : ∀ k, r.functions.get? k = r'.functions.get? k := by
    intro k
    refine Option.ext fun d => ?_
    rw [h.functions, h'.functions]
    exact ⟨hmem hsame, hmem hsame.symm⟩
  have hcontains : ∀ space, r.sets.contains space = r'.sets.contains space := by
    intro space
    rw [Bool.eq_iff_iff, h.contains_sets_iff, h'.contains_sets_iff, hspaces]
  refine ⟨?_, Registry.listed_congr hfunctions, ?_⟩
  · show r.sets.keys = r'.sets.keys
    rw [h.keys_sets, h'.keys_sets, hspaces]
  · intro space name arity
    rw [Registry.resolve, Registry.resolve, hcontains, hfunctions]

theorem Registry.map_anonymous_chosen (r : Registry) (disabled : List String) (ps : List Plugin) :
    (r.chosen disabled ps).map Plugin.anonymous = r.chosen disabled (ps.map Plugin.anonymous) := by
  rw [Registry.chosen, Registry.chosen, List.takeWhile_map, List.filter_map]
  rfl

theorem Registry.clash?_anonymous (r : Registry) (disabled : List String) (ps : List Plugin) :
    r.clash? disabled (ps.map Plugin.anonymous) = r.clash? disabled ps := by
  induction ps with
  | nil => rfl
  | cons p ps ih =>
    rw [List.map_cons, Registry.clash?_cons, Registry.clash?_cons, ih]
    rfl

section Recovery

variable {file : String} {disabled : List String} {r : Registry} {m : Catalogue} {n : Nat}

theorem CorePlugins.exists_same {p : Plugin} {n' : Nat} (hp : p ∈ corePlugins file n') (n : Nat) :
    ∃ q ∈ corePlugins file n, q.anonymous = p.anonymous := by
  have hmem : p.anonymous ∈ (corePlugins file n').map Plugin.anonymous := List.mem_map_of_mem hp
  rw [map_anonymous_corePlugins, ← map_anonymous_corePlugins file n] at hmem
  exact List.mem_map.mp hmem

theorem CorePlugins.map_anonymous_chosen (r : Registry) (disabled : List String) (n n' : Nat) :
    (r.chosen disabled (corePlugins file n)).map Plugin.anonymous =
      (r.chosen disabled (corePlugins file n')).map Plugin.anonymous := by
  rw [Registry.map_anonymous_chosen, Registry.map_anonymous_chosen, map_anonymous_corePlugins,
    map_anonymous_corePlugins]

theorem CorePlugins.clash?_eq (r : Registry) (disabled : List String) (n n' : Nat) :
    r.clash? disabled (corePlugins file n) = r.clash? disabled (corePlugins file n') := by
  rw [← Registry.clash?_anonymous, map_anonymous_corePlugins,
    ← map_anonymous_corePlugins file n', Registry.clash?_anonymous]

/-- To register again what was registered without a clash changes nothing. -/
theorem Represents.addMissing_again (h : Represents r m)
    (hnone : (r.addMissing disabled (corePlugins file n)).error = none) (n' : Nat) :
    ∀ p ∈ corePlugins file n',
      isMissing disabled (r.addMissing disabled (corePlugins file n)).state p = false := by
  obtain ⟨-, herror, new, hnew, hstate⟩ := h.addMissing_library file disabled n
  have hfree := (Registry.clash?_eq_none_iff r disabled _).mp (herror.symm.trans hnone)
  rw [Registry.chosen_of_not_clashes hfree] at hnew
  intro p' hp'
  obtain ⟨p, hp, hsame⟩ := CorePlugins.exists_same hp' n
  have hpresent := h.not_isMissing_after hstate (hfree p hp) fun hlack =>
    hnew ▸ List.mem_filter.mpr ⟨hp, hlack⟩
  have hanonymous : isMissing disabled (r.addMissing disabled (corePlugins file n)).state
      p.anonymous = false := hpresent
  rw [hsame] at hanonymous
  exact hanonymous

/-- A registration that was stopped by a clash is completed by another one when the set that was in the
way is gone: it comes to what it would have come to without that set. -/
theorem Represents.addMissing_recovered (h : Represents r m) {before rest : List Plugin} {p : Plugin}
    (hps : corePlugins file n = before ++ p :: rest)
    (hbefore : ∀ x ∈ before, r.clashes disabled x = false) (hp : r.clashes disabled p = true)
    (n₁ n₂ : Nat) :
    let r₁ := (r.addMissing disabled (corePlugins file n)).state.without p.space
    let r₂ := r.without p.space
    (r₁.addMissing disabled (corePlugins file n₁)).error =
        (r₂.addMissing disabled (corePlugins file n₂)).error ∧
      (r₁.addMissing disabled (corePlugins file n₁)).state.SameFunctions
        (r₂.addMissing disabled (corePlugins file n₂)).state := by
  intro r₁ r₂
  obtain ⟨-, -, new, hnew, hstate⟩ := h.addMissing_library file disabled n
  rw [hps, Registry.chosen_of_clash hbefore hp] at hnew
  have hspaces := CorePlugins.nodup_spaces_corePlugins file n
  rw [hps] at hspaces
  have hkept : new.filter (fun x => x.1.space ≠ p.space) = new := by
    refine List.filter_eq_self.mpr ?_
    intro x hx
    exact decide_eq_true
      (Plugin.space_ne_of_nodup hspaces (Catalogue.mem_of_map_eq hnew hx) List.mem_cons_self)
  -- the sets in front of the clash are in their places already, and the others find there what they
  -- find in the registry without the first ones
  obtain ⟨hchosen, hclash⟩ :
      r₂.chosen disabled (before ++ p :: rest) = r.chosen disabled (before ++ p :: rest) ++
          r₁.chosen disabled (before ++ p :: rest) ∧
        r₂.clash? disabled (before ++ p :: rest) = r₁.clash? disabled (before ++ p :: rest) :=
    h.chosen_without hstate hspaces hbefore hp hnew
  rw [← hps] at hchosen hclash
  have hrep₁ : Represents r₁ _ := hstate.without p.space
  have hrep₂ : Represents r₂ _ := h.without p.space
  obtain ⟨-, herror₁, new₁, hnew₁, hstate₁⟩ := hrep₁.addMissing_library file disabled n₁
  obtain ⟨-, herror₂, new₂, hnew₂, hstate₂⟩ := hrep₂.addMissing_library file disabled n₂
  refine ⟨?_, hstate₁.sameFunctions hstate₂ ?_⟩
  · rw [herror₁, herror₂, CorePlugins.clash?_eq r₁ disabled n₁ n,
      CorePlugins.clash?_eq r₂ disabled n₂ n]
    exact hclash.symm
  · have hcome : (new ++ new₁).map (fun x => x.1.anonymous) = new₂.map fun x => x.1.anonymous := by
      have hnew₂' : (new₂.map (·.1)).map Plugin.anonymous =
          ((new ++ new₁).map (·.1)).map Plugin.anonymous := by
        rw [List.map_append, List.map_append, hnew, hnew₁, hnew₂,
          CorePlugins.map_anonymous_chosen r₁ disabled n₁ n,
          CorePlugins.map_anonymous_chosen r₂ disabled n₂ n, hchosen, List.map_append, hps,
          Registry.chosen_of_clash hbefore hp]
      rw [List.map_map, List.map_map] at hnew₂'
      exact hnew₂'.symm
    rw [List.filter_append, hkept, List.append_assoc, List.map_append, hcome, List.map_append]

end Recovery

/-! ## Whole runs -/

/-- What it comes to to add the sets of the library to a registry with a catalogue. -/
structure LibraryAdded (r : Registry) (m : Catalogue) (file : String) (disabled : List String)
    (n : Nat) (a : Added Registry) : Prop where
  /-- The table is that of the library's classes. -/
  table : (corePlugins file n).map Plugin.cls = Core.classes file
  /-- Nothing stops it exactly if each wanted namespace is free or held by the library's own class. -/
  error_eq_none_iff :
    a.error = none ↔ ∀ p ∈ corePlugins file n, p.space ∉ disabled →
      r.getSet p.space = .error (.unknownNamespace p.space) ∨
        ∃ q, r.getSet p.space = .ok q ∧ q.cls.id = p.cls.id
  /-- Behind what was held come the sets that were added. -/
  answers : ∃ new : Catalogue, new.map (·.1) = a.added ∧ Answers a.state (m ++ new)
  kept space q : r.getSet space = .ok q → a.state.getSet space = .ok q
  wanted p : p ∈ a.added → p.space ∉ disabled
  /-- If nothing stops it, all that is lacking is added, and there is nothing left to add. -/
  completed : a.error = none →
    a.added = (corePlugins file n).filter (r.lacks disabled) ∧
      ∀ n', a.state.addMissing disabled (corePlugins file n') = ⟨a.state, [], none⟩ ∧
        ∀ activated, DefaultRegistry.addMissing ⟨a.state, activated⟩ disabled (corePlugins file n') =
          ⟨⟨a.state, activated⟩, [], none⟩
  /-- Else the first clash stops it, behind all that is lacking in front of it; and once the set that
  clashes is gone, another run comes to what a run comes to that never met it. -/
  stopped e : a.error = some e →
    ∃ before p rest q, corePlugins file n = before ++ p :: rest ∧
      (∀ x ∈ before, r.clashes disabled x = false) ∧ r.clashes disabled p = true ∧
      r.getSet p.space = .ok q ∧ q.cls.id ≠ p.cls.id ∧
      (q.cls.unfiled? = none → (Changed.mk r (some e)).Refuses .duplicateNamespace) ∧
      (∀ why, q.cls.unfiled? = some why → e = .noFile why) ∧
      a.added = before.filter (r.lacks disabled) ∧
      ∃ r₁ r₂, a.state.unregister p.space = .ok r₁ ∧ r.unregister p.space = .ok r₂ ∧
        ∀ n₁ n₂, (r₁.addMissing disabled (corePlugins file n₁)).error =
            (r₂.addMissing disabled (corePlugins file n₂)).error ∧
          (r₁.addMissing disabled (corePlugins file n₁)).state.SameFunctions
            (r₂.addMissing disabled (corePlugins file n₂)).state
  /-- In the default registry the same comes of it, and the sets that were added are activated. -/
  activation activated :
    DefaultRegistry.addMissing ⟨r, activated⟩ disabled (corePlugins file n) =
      ⟨⟨a.state, (a.added.map Plugin.id).reverse ++ activated⟩, a.added, a.error⟩

/-- To add the library's own sets, after every history of a registry and with whatever namespaces
disabled: it succeeds exactly if none of them clashes, it adds what is lacking up to the first clash
and keeps what is there, and it can be repeated. -/
theorem library_registered (cs : List Change) (file : String) (disabled : List String) (n : Nat) :
    LibraryAdded (Registry.ofChanges cs) (Catalogue.ofChanges cs) file disabled n
      ((Registry.ofChanges cs).addMissing disabled (corePlugins file n)) := by
  have hrep := Represents.ofChanges cs
  generalize Registry.ofChanges cs = r at hrep ⊢
  generalize Catalogue.ofChanges cs = m at hrep ⊢
  obtain ⟨hadded, herror, new, hnew, hstate⟩ := hrep.addMissing_library file disabled n
  refine ⟨CorePlugins.map_cls_corePlugins file n, ?_, ⟨new, hnew.trans hadded.symm, hstate.answers⟩,
    ?_, ?_, ?_, ?_, fun activated => DefaultRegistry.addMissing_eq ⟨r, activated⟩ disabled _⟩
  · rw [herror, Registry.clash?_eq_none_iff]
    exact forall₂_congr fun p _ => Registry.clashes_eq_false_iff r disabled p
  · intro space q hq
    rw [getSet_eq_ok_iff] at hq ⊢
    rw [hrep.get?_sets_append hstate, hq, Option.some_or]
  · intro p hp
    rw [hadded] at hp
    have hlack : r.lacks disabled p = true := (List.mem_filter.mp hp).2
    simp only [Registry.lacks, Bool.and_eq_true, Bool.not_eq_true', List.contains_eq_mem,
      decide_eq_false_iff_not] at hlack
    exact hlack.1
  · intro hnone
    have hfree := (Registry.clash?_eq_none_iff r disabled _).mp (herror.symm.trans hnone)
    refine ⟨hadded.trans (Registry.chosen_of_not_clashes hfree), ?_⟩
    intro n'
    have hpresent := hrep.addMissing_again hnone n'
    exact ⟨addMissing_of_present hpresent, fun activated => addMissing_of_present hpresent⟩
  · intro e he
    rw [herror] at he
    obtain ⟨before, p, rest, q, hps, hbefore, hp, hq, rfl⟩ := Registry.exists_clash he
    have hq' : (r.addMissing disabled (corePlugins file n)).state.sets.get? p.space = some q := by
      rw [hrep.get?_sets_append hstate, hq, Option.some_or]
    have hfile : p.cls.unfiled? = none := CorePlugins.unfiled?_of_mem (hps ▸ List.mem_append_right _
      List.mem_cons_self)
    have hother : q.cls.id ≠ p.cls.id := by
      simp only [Registry.clashes, hq, Option.any_some, Bool.and_eq_true] at hp
      exact of_decide_eq_true hp.2
    refine ⟨before, p, rest, q, hps, hbefore, hp, (getSet_eq_ok_iff ..).mpr hq, hother, ?_, ?_, ?_, _,
      _, Registry.unregister_of_get? hq', Registry.unregister_of_get? hq,
      fun n₁ n₂ => hrep.addMissing_recovered hps hbefore hp n₁ n₂⟩
    · intro hholder
      exact (Registry.conflict_refuses_iff r _).mpr ⟨rfl, hfile, hholder⟩
    · intro why hwhy
      rw [Registry.conflict_eq_noFile_iff, hfile, Option.none_or]
      exact hwhy
    · rw [hadded, hps, Registry.chosen_of_clash hbefore hp]

/-- A set of a class without a file, under a namespace of the library. -/
def unfiledTask : CheckedPlugin :=
  barePlugin 100 "task" (by decide) (.error (.builtIn "<class 'gone.Bare'>"))

/-- It stands in the way, but the conflict is not what is raised. -/
theorem error_unfiledTask :
    let a := (Registry.ofChanges [.register unfiledTask]).addMissing [] (corePlugins "" 0)
    (∃ q, (Registry.ofChanges [.register unfiledTask]).getSet "task" = .ok q ∧
        ∀ c ∈ Core.classes "", c.id ≠ q.cls.id) ∧
      a.error = some (.noFile (.builtIn "<class 'gone.Bare'>")) ∧
      ¬ (Changed.mk a.state a.error).Refuses .duplicateNamespace := by
  have herror : ((Registry.ofChanges [.register unfiledTask]).addMissing []
      (corePlugins "" 0)).error = some (.noFile (.builtIn "<class 'gone.Bare'>")) := by
    decide
  refine ⟨⟨unfiledTask.1, rfl, by decide⟩, herror, ?_⟩
  rintro ⟨e, he, -⟩
  rw [herror] at he
  cases he

/-- A set of another class in the third place stops it behind the first two. -/
example :
    ((Registry.ofChanges [.register (barePlugin 100 "target" (by decide))]).addMissing ["nant"]
      (corePlugins "" 0)).added.map Plugin.space = ["project"] := by decide

end BuildScript
