import BuildScript.Proofs.Dispatch.Library

/-!
When a session offers the functions of a class. It offers those of every plugin that is registered at
its beginning (`offers_registering`), among them the sets of the library (`offers_library`), and goes
on to do so until the namespace is taken out (`Offers.append`).
-/

namespace BuildScript

namespace Evaluation

/-! ## A session that goes on -/

/-- A change leaves a namespace to its holder, unless it takes the namespace out. -/
theorem holder?_make {acts : List Act} {space : String} {p : Plugin}
    (hp : (catalogue acts).holder? space = some p) {c : Change} (hc : c ≠ .unregister space) :
    ((catalogue acts).make c).holder? space = some p := by
  cases c with
  | register q =>
    unfold Catalogue.holder? Catalogue.make at *
    obtain ⟨q', hq', rfl⟩ := Option.map_eq_some_iff.mp hp
    rw [List.find?_append, hq']
    rfl
  | unregister other =>
    have hother : space ≠ other := fun h => hc (by rw [h])
    obtain ⟨⟨q, hq, rfl⟩, rfl⟩ := Catalogue.holder?_mem hp
    have hleft := (represents_ofActs acts).unregister other
    exact hleft.holder?_of_mem (List.mem_filter.mpr ⟨hq, by simp [hother]⟩)

namespace Offers

variable {acts : List Act} {cls : SetClass} {space : String}

/-- No step ends it but the one that takes the namespace out. -/
theorem concat (h : Offers acts space cls) {a : Act} (ha : a ≠ .change (.unregister space)) :
    Offers (acts ++ [a]) space cls := by
  obtain ⟨⟨p, hp, hcls⟩, hown⟩ := h
  cases a with
  | call s c =>
    refine ⟨⟨p, ?_, hcls⟩, fun b hb => ?_⟩
    · rw [ofActs_concat]
      exact hp
    · rw [ofActs_concat] at hb
      rcases get?_bindings_invoke hb with ⟨b', hb', hsame⟩ | ⟨-, -, q, hq, hmade⟩
      · rw [hsame]
        exact hown b' hb'
      · obtain rfl : q = p := Except.ok.inj (hq.symm.trans hp)
        rw [hmade]
        exact hcls
  | change c =>
    refine ⟨⟨p, ?_, hcls⟩, fun b hb => hown b (by rw [ofActs_concat] at hb; exact hb)⟩
    have hc : c ≠ .unregister space := fun h => ha (by rw [h])
    rw [getSet_eq_ok_iff_holder] at hp ⊢
    rw [catalogue, changes_concat_change, Catalogue.ofChanges_concat, ← catalogue]
    split
    · exact holder?_make hp hc
    · exact hp

theorem append (h : Offers acts space cls) {rest : List Act}
    (hrest : ∀ a ∈ rest, a ≠ .change (.unregister space)) : Offers (acts ++ rest) space cls := by
  induction rest using List.reverseRecOn with
  | nil => rw [List.append_nil]; exact h
  | append_singleton rest a ih =>
    rw [← List.append_assoc]
    exact (ih fun a ha => hrest a (List.mem_append_left _ ha)).concat (hrest a (by simp))

end Offers

/-! ## A session that begins with registrations -/

/-- The registrations of plugins. -/
def registering (ps : List CheckedPlugin) : List Act := ps.map fun p => .change (.register p)

theorem bindings_registering (ps : List CheckedPlugin) :
    (ofActs (registering ps)).bindings = .empty := by
  induction ps using List.reverseRecOn with
  | nil => rfl
  | append_singleton ps p ih =>
    rw [registering, List.map_append, List.map_singleton, ofActs_concat]
    exact ih

/-- All of them are registered if none is refused for its namespace or for its own functions. -/
theorem catalogue_registering {ps : List CheckedPlugin} (hspaces : (ps.map (·.1.space)).Nodup)
    (hown : ∀ p ∈ ps, ¬ p.1.Ambiguous) : catalogue (registering ps) = ps := by
  induction ps using List.reverseRecOn with
  | nil => rfl
  | append_singleton ps p ih =>
    rw [List.map_append, List.nodup_append] at hspaces
    obtain ⟨hps, -, hapart⟩ := hspaces
    have hbefore := ih hps fun q hq => hown q (List.mem_append_left _ hq)
    have hfree : p.1.space ∉ Catalogue.spaces ps := fun hp => hapart _ hp _ (by simp) rfl
    have hallows : Catalogue.Allows ps (.register p) := ⟨hfree, hown p (by simp)⟩
    rw [registering, List.map_append, List.map_singleton, ← registering, catalogue,
      changes_concat_change, Catalogue.ofChanges_concat, ← catalogue, hbefore, if_pos hallows]
    rfl

theorem offers_registering {ps : List CheckedPlugin} (hspaces : (ps.map (·.1.space)).Nodup)
    (hown : ∀ p ∈ ps, ¬ p.1.Ambiguous) {p : CheckedPlugin} (hp : p ∈ ps) :
    Offers (registering ps) p.1.space p.1.cls := by
  refine ⟨⟨p.1, ?_, rfl⟩, fun b hb => ?_⟩
  · have hrep := represents_ofActs (registering ps)
    rw [catalogue_registering hspaces hown] at hrep
    rw [getSet_eq_ok_iff, hrep.get?_sets]
    exact hrep.holder?_of_mem hp
  · rw [bindings_registering] at hb
    cases hb

/-! ## The library -/

/-- The plugin of a class, if its declaration passes the check. -/
def checkedPlugin? (c : SetClass) : Option CheckedPlugin :=
  match h : Plugin.ofClass c.id none c with
  | .ok p => some ⟨p, c.id, none, .set c, h⟩
  | .error _ => none

/-- The plugins of the library's own sets. -/
def libraryPlugins (file : String) : List CheckedPlugin :=
  (Core.classes file).filterMap checkedPlugin?

variable {c : SetClass} {file : String}

theorem checkedPlugin?_eq_some {p : CheckedPlugin} (h : checkedPlugin? c = some p) :
    Plugin.ofClass c.id none c = .ok p.1 := by
  unfold checkedPlugin? at h
  split at h
  · rename_i q hq
    rw [← Option.some.inj h]
    exact hq
  · cases h

theorem isSome_checkedPlugin? {p : Plugin} (h : Plugin.ofClass c.id none c = .ok p) :
    (checkedPlugin? c).isSome = true := by
  unfold checkedPlugin?
  split
  · rfl
  · rename_i e he
    cases h.symm.trans he

theorem map_name_of_described {space : String} {es : List Entry} {ds : List Descriptor}
    (h : List.Forall₂ (fun e d => c.describe space e = .ok d) es ds) :
    es.map (·.name.name?) = ds.map fun d => some d.name := by
  induction h with
  | nil => rfl
  | cons hd _ ih => rw [List.map_cons, List.map_cons, ih, (describe_eq_ok hd).2.1]

/-- No function is ambiguous whose class has no other of the same name. -/
theorem not_ambiguous {p : CheckedPlugin} (h : checkedPlugin? c = some p)
    (hnames : (c.entries.map (·.name.name?)).Nodup) : ¬ p.1.Ambiguous := by
  obtain ⟨-, -, hdescribed⟩ := Plugin.ofClass_eq_ok (checkedPlugin?_eq_some h)
  rw [map_name_of_described hdescribed] at hnames
  have hpairs : (p.1.descriptors.map fun d => (d.name, d.arity)).Nodup := by
    refine List.Nodup.of_map (fun x => some x.1) ?_
    rw [List.map_map]
    exact hnames
  exact not_not.mpr hpairs

theorem map_space_filterMap {cs : List SetClass} (h : ∀ c ∈ cs, (checkedPlugin? c).isSome = true) :
    (cs.filterMap checkedPlugin?).map (fun p => some p.1.space) = cs.map (·.space.name?) := by
  induction cs with
  | nil => rfl
  | cons c cs ih =>
    obtain ⟨p, hp⟩ := Option.isSome_iff_exists.mp (h c List.mem_cons_self)
    obtain ⟨-, hspace, -⟩ := Plugin.ofClass_eq_ok (checkedPlugin?_eq_some hp)
    rw [List.filterMap_cons_some hp, List.map_cons, List.map_cons, hspace,
      ih fun c hc => h c (List.mem_cons_of_mem _ hc)]

namespace Library

/-- Every class of the library passes the check. -/
theorem isSome_of_mem (hc : c ∈ Core.classes file) : (checkedPlugin? c).isSome = true := by
  simp only [Core.classes, List.mem_cons, List.not_mem_nil, or_false] at hc
  rcases hc with rfl | rfl | rfl | rfl | rfl | rfl | rfl
  all_goals exact isSome_checkedPlugin? rfl

/-- The file of the library stands in no entry, so this can be looked up. -/
theorem nodup_names (hc : c ∈ Core.classes file) : (c.entries.map (·.name.name?)).Nodup := by
  have hall : ∀ es ∈ (Core.classes "").map (·.entries), (es.map (·.name.name?)).Nodup := by decide
  have hmem : c.entries ∈ (Core.classes file).map (·.entries) := List.mem_map_of_mem hc
  exact hall c.entries hmem

theorem nodup_spaces (file : String) : ((libraryPlugins file).map (·.1.space)).Nodup := by
  have hspaces : ((Core.classes "").map (·.space.name?)).Nodup := by decide
  have hmap : (libraryPlugins file).map (fun p => some p.1.space) =
      (Core.classes file).map (·.space.name?) := map_space_filterMap fun _ hc => isSome_of_mem hc
  have hsomes : (((libraryPlugins file).map (·.1.space)).map some).Nodup := by
    rw [List.map_map]
    show ((libraryPlugins file).map fun p => some p.1.space).Nodup
    rw [hmap]
    exact hspaces
  exact hsomes.of_map

end Library

/-- A session in which the library was registered offers all of its functions. -/
theorem offers_library (file : String) {space : String} (hc : c ∈ Core.classes file)
    (hspace : c.space.text? = some space) : Offers (registering (libraryPlugins file)) space c := by
  obtain ⟨p, hp⟩ := Option.isSome_iff_exists.mp (Library.isSome_of_mem hc)
  have hmem : p ∈ libraryPlugins file := List.mem_filterMap.mpr ⟨c, hc, hp⟩
  have hown : ∀ q ∈ libraryPlugins file, ¬ q.1.Ambiguous := by
    intro q hq
    obtain ⟨c', hc', hq'⟩ := List.mem_filterMap.mp hq
    exact not_ambiguous hq' (Library.nodup_names hc')
  obtain ⟨hcls, hname, -⟩ := Plugin.ofClass_eq_ok (checkedPlugin?_eq_some hp)
  rw [← hcls, ← name_of_name? hspace hname]
  exact offers_registering (Library.nodup_spaces file) hown hmem

end Evaluation

end BuildScript
