import BuildScript.Proofs.Dispatch.History

/-!
The order in which different namespaces are changed does not count. A change looks at what holds its own
namespace and at nothing else (`error_change`, `get?_sets_after`), so a namespace goes through its own
changes, one after the other, whatever happens to the others in between (`get?_sets_afterAll`,
`filter_report`). What holds the namespaces decides all that a registry answers (`sameAnswers_of_sets`). Main
statement: `order_irrelevant`, for any two interleavings of changes to any registry; and that a set which is
registered and taken out again leaves no trace.

Nothing is said of the order of `namespaces`, which is that of the registrations.
-/

namespace BuildScript

namespace Change

/-- The namespace that a change is about. -/
def space : Change → String
  | register p => p.1.space
  | unregister space => space

/-- What a change raises while this holds its namespace, if anything. -/
def error? (c : Change) (held : Option Plugin) : Option ChangeError :=
  match c, held with
  | register p, some holder => some (Registry.conflict p.1 holder)
  | register p, none =>
    match Registry.firstTwice [] p.1.descriptors with
    | some d => some (.refused (.twice p.1.space d.qualified d.arity))
    | none => p.1.cls.unfiled?.map .noFile
  | unregister _, some _ => none
  | unregister space, none => some (.refused (.notRegistered space))

/-- What holds the namespace of a change after it, if this held it before. -/
def heldAfter (c : Change) (held : Option Plugin) : Option Plugin :=
  match c, held with
  | register _, some holder => some holder
  | register p, none => if (Registry.firstTwice [] p.1.descriptors).isSome then none else some p.1
  | unregister _, _ => none

/-- Changes of one namespace, each with what it raises, from what holds the namespace first. -/
def reportFrom (held : Option Plugin) : List Change → List (Change × Option ChangeError)
  | [] => []
  | c :: cs => (c, c.error? held) :: reportFrom (c.heldAfter held) cs

end Change

/-- Two runs of changes in which each namespace has the same changes in the same order. -/
def Interleaved (as bs : List Change) : Prop :=
  ∀ space, as.filter (fun c => c.space = space) = bs.filter fun c => c.space = space

/-- Neighbours that are about different namespaces can change places. -/
theorem interleaved_swap {a b : Change} (h : a.space ≠ b.space) (before rest : List Change) :
    Interleaved (before ++ a :: b :: rest) (before ++ b :: a :: rest) := by
  intro space
  by_cases ha : a.space = space
  · have hb : b.space ≠ space := fun hb => h (ha.trans hb.symm)
    simp [ha, hb]
  · simp [List.filter_cons, ha]

namespace Registry

variable {r r' : Registry}

/-- The registry after some changes. -/
def afterAll (r : Registry) (cs : List Change) : Registry := cs.foldl after r

/-- Some changes, each with what it raises. -/
def report (r : Registry) : List Change → List (Change × Option ChangeError)
  | [] => []
  | c :: cs => (c, (r.change c).error) :: report (r.after c) cs

/-- Whatever is asked of the two registries is answered alike. -/
structure SameAnswers (r r' : Registry) : Prop where
  resolve space name arity : r.resolve space name arity = r'.resolve space name arity
  getSet space : r.getSet space = r'.getSet space
  listed space : r.listed space = r'.listed space
  contains space : r.sets.contains space = r'.sets.contains space
  size : r.sets.size = r'.sets.size

/-! ## One change -/

/-- What a change raises is decided by what holds its namespace, -/
theorem error_change (r : Registry) (c : Change) :
    (r.change c).error = c.error? (r.sets.get? c.space) := by
  unfold Change.error?
  cases c with
  | register p =>
    rw [change, Change.space, Registry.register]
    cases r.sets.get? p.1.space with
    | some q => rfl
    | none =>
      dsimp only
      cases firstTwice [] p.1.descriptors <;> rfl
  | unregister taken =>
    rw [change, Change.space, Registry.unregister, Table.contains]
    cases r.sets.get? taken <;> rfl

/-- and it changes nothing else of what is held. -/
theorem get?_sets_after (r : Registry) (c : Change) (space : String) :
    (r.after c).sets.get? space =
      if space = c.space then c.heldAfter (r.sets.get? c.space) else r.sets.get? space := by
  rw [after]
  unfold Change.heldAfter
  cases c with
  | register p =>
    rw [change, Change.space, Registry.register]
    cases hheld : r.sets.get? p.1.space with
    | some q =>
      show r.sets.get? space = if space = p.1.space then some q else r.sets.get? space
      by_cases hspace : space = p.1.space
      · rw [if_pos hspace, hspace, hheld]
      · rw [if_neg hspace]
    | none =>
      dsimp only
      cases firstTwice [] p.1.descriptors with
      | some d =>
        show r.sets.get? space = if space = p.1.space then none else r.sets.get? space
        by_cases hspace : space = p.1.space
        · rw [if_pos hspace, hspace, hheld]
        · rw [if_neg hspace]
      | none => exact Table.get?_put ..
  | unregister taken =>
    rw [change, Change.space, Registry.unregister, Table.contains]
    cases hheld : r.sets.get? taken with
    | none =>
      show r.sets.get? space = if space = taken then none else r.sets.get? space
      by_cases hspace : space = taken
      · rw [if_pos hspace, hspace, hheld]
      · rw [if_neg hspace]
    | some q => exact Table.get?_erase ..

/-! ## Runs of changes -/

/-- What holds a namespace after a run is what its own changes leave. -/
theorem get?_sets_afterAll (r : Registry) (cs : List Change) (space : String) :
    (r.afterAll cs).sets.get? space =
      (cs.filter fun c => c.space = space).foldl (fun held c => c.heldAfter held)
        (r.sets.get? space) := by
  induction cs generalizing r with
  | nil => rfl
  | cons c cs ih =>
    have hrest := ih (r.after c)
    rw [get?_sets_after] at hrest
    by_cases hc : c.space = space
    · subst hc
      rw [if_pos rfl] at hrest
      rw [List.filter_cons_of_pos (by simp), List.foldl_cons]
      exact hrest
    · rw [if_neg (Ne.symm hc)] at hrest
      rw [List.filter_cons_of_neg (by simpa using hc)]
      exact hrest

/-- What came of the changes of a namespace in a run is what comes of them alone. -/
theorem filter_report (r : Registry) (cs : List Change) (space : String) :
    (r.report cs).filter (fun x => x.1.space = space) =
      Change.reportFrom (r.sets.get? space) (cs.filter fun c => c.space = space) := by
  induction cs generalizing r with
  | nil => rfl
  | cons c cs ih =>
    have hrest := ih (r.after c)
    rw [get?_sets_after] at hrest
    rw [report]
    by_cases hc : c.space = space
    · subst hc
      rw [if_pos rfl] at hrest
      rw [List.filter_cons_of_pos (by simp), List.filter_cons_of_pos (by simp), hrest, error_change]
      rfl
    · rw [if_neg (Ne.symm hc)] at hrest
      rw [List.filter_cons_of_neg (by simpa using hc), List.filter_cons_of_neg (by simpa using hc)]
      exact hrest

theorem ofChanges_append (cs as : List Change) : ofChanges (cs ++ as) = (ofChanges cs).afterAll as :=
  List.foldl_append

/-! ## What is held decides the answers -/

/-- What is listed depends on the functions alone, and not on the order in which they came. -/
theorem listed_congr (h : ∀ k, r.functions.get? k = r'.functions.get? k) (space : Option String) :
    r.listed space = r'.listed space := by
  obtain ⟨es, hlist, hsorted, hmem⟩ := r.listed_eq_map space
  obtain ⟨es', hlist', hsorted', hmem'⟩ := r'.listed_eq_map space
  have hirrefl : ∀ a : FunctionKey × Descriptor, ¬ a.1.less a.1 = true := by
    intro a ha
    exact lt_irrefl _ ((FunctionKey.less_iff_parts_lt _ _).mp ha)
  have hnodup : ∀ {xs : List (FunctionKey × Descriptor)},
      (xs.Pairwise fun a b => a.1.less b.1 = true) → xs.Nodup := by
    intro xs hxs
    refine hxs.imp ?_
    intro a b hab heq
    exact hirrefl b (heq ▸ hab)
  have hperm : es.Perm es' := by
    refine (List.perm_ext_iff_of_nodup (hnodup hsorted) (hnodup hsorted')).mpr ?_
    intro e
    rw [hmem e.1 e.2, hmem' e.1 e.2, h]
  have heq : es = es' := by
    refine hperm.eq_of_pairwise ?_ hsorted hsorted'
    intro a b _ _ hab hba
    rw [FunctionKey.less_iff_parts_lt] at hab hba
    exact absurd hba (lt_asymm hab)
  rw [hlist, hlist', heq]

end Registry

section Held

variable {r r' : Registry} {m m' : Catalogue}

theorem Represents.functions_congr (h : Represents r m) (h' : Represents r' m')
    (hsets : ∀ space, r.sets.get? space = r'.sets.get? space) (k : FunctionKey) :
    r.functions.get? k = r'.functions.get? k := by
  refine Option.ext fun d => ?_
  rw [h.functions_iff_holder, h'.functions_iff_holder, ← h.get?_sets, ← h'.get?_sets, hsets]

theorem Represents.size_congr (h : Represents r m) (h' : Represents r' m')
    (hsets : ∀ space, r.sets.get? space = r'.sets.get? space) :
    r.sets.size = r'.sets.size := by
  have hperm : r.sets.keys.Perm r'.sets.keys := by
    refine (List.perm_ext_iff_of_nodup r.sets.nodup r'.sets.nodup).mpr ?_
    intro space
    show space ∈ r.sets.keys ↔ space ∈ r'.sets.keys
    rw [h.keys_sets, h'.keys_sets, h.mem_spaces_iff, h'.mem_spaces_iff, hsets]
  simpa only [Table.size, Table.keys, List.length_map] using hperm.length_eq

/-- Two registries in which every namespace is held by the same plugin answer alike. -/
theorem sameAnswers_of_sets (h : Represents r m) (h' : Represents r' m')
    (hsets : ∀ space, r.sets.get? space = r'.sets.get? space) : r.SameAnswers r' where
  resolve space name arity := by
    rw [Registry.resolve, Registry.resolve, Table.contains, Table.contains, hsets,
      h.functions_congr h' hsets]
  getSet space := by
    rw [Registry.getSet, Registry.getSet, hsets]
  listed space := Registry.listed_congr (h.functions_congr h' hsets) space
  contains space := by
    simp only [Table.contains, hsets]
  size := h.size_congr h' hsets

/-! ## A set that comes and goes -/

/-- The functions of a namespace that is taken out leave nothing behind. -/
theorem Registry.filter_foldl_put {space : String} (ds : List Descriptor)
    (t : Table FunctionKey Descriptor) (hds : ∀ d ∈ ds, d.space = space) :
    (ds.foldl (fun fs d => fs.put d.key d) t).filter (fun k => k.space ≠ space) =
      t.filter fun k => k.space ≠ space := by
  induction ds generalizing t with
  | nil => rfl
  | cons d ds ih =>
    have hd : d.space = space := hds d List.mem_cons_self
    rw [List.foldl_cons, ih _ fun x hx => hds x (List.mem_cons_of_mem _ hx)]
    exact Table.filter_put (by simp [hd]) t d

/-- No function stands under a namespace that is free. -/
theorem Represents.filter_functions (h : Represents r m) {space : String}
    (hfree : space ∉ m.spaces) :
    r.functions.filter (fun k => k.space ≠ space) = r.functions := by
  refine Table.filter_eq_self ?_
  intro k hk
  rw [← Table.contains_iff_mem_keys, Table.contains, Option.isSome_iff_exists] at hk
  obtain ⟨d, hd⟩ := hk
  obtain ⟨q, hq, hmem, rfl⟩ := (h.functions k d).mp hd
  have hne : q.1.space ≠ space := fun he => hfree (he ▸ List.mem_map_of_mem hq)
  simpa [q.2.space_of_mem hmem] using hne

/-- A set that is registered under a free namespace and taken out again leaves the registry as it was,
the order of its tables included. -/
theorem Represents.unregister_register (h : Represents r m) {p : CheckedPlugin}
    (hfree : p.1.space ∉ m.spaces) (hp : ¬ p.1.Ambiguous) :
    (r.register p.1).error = p.1.cls.unfiled?.map .noFile ∧
      (r.register p.1).state.unregister p.1.space = .ok r := by
  have hregister := Registry.register_of_takes ((h.takes_iff p).mpr ⟨hfree, hp⟩)
  have hheld : (r.add p.1).sets.contains p.1.space = true := by
    simp [Registry.add, Table.contains]
  have hsets : (r.add p.1).sets.erase p.1.space = r.sets := by
    rw [Registry.add, Table.erase, Table.filter_put (by simp)]
    refine Table.filter_eq_self ?_
    intro space hmem
    rw [h.keys_sets] at hmem
    have hne : space ≠ p.1.space := fun he => hfree (he ▸ hmem)
    simpa using hne
  have hfunctions : (r.add p.1).functions.filter (fun k => k.space ≠ p.1.space) = r.functions := by
    rw [Registry.add, Registry.filter_foldl_put _ _ fun d hd => p.2.space_of_mem hd,
      h.filter_functions hfree]
  rw [hregister]
  refine ⟨rfl, ?_⟩
  rw [Registry.unregister, if_pos hheld, hsets, hfunctions]

/-- Whether or not the set is refused for its own functions. -/
theorem Represents.after_register_unregister (h : Represents r m) {p : CheckedPlugin}
    (hfree : p.1.space ∉ m.spaces) :
    (r.after (.register p)).after (.unregister p.1.space) = r := by
  have hleft : ¬ m.Allows (.unregister p.1.space) := hfree
  by_cases hp : p.1.Ambiguous
  · obtain ⟨e, hkept⟩ := h.change_of_not_allows (c := .register p) fun hc => hc.2 hp
    obtain ⟨e', hkept'⟩ := h.change_of_not_allows hleft
    rw [Registry.after, Registry.after, hkept, hkept']
  · have hback := (h.unregister_register hfree hp).2
    rw [Registry.after, Registry.after, Registry.change, Registry.change, hback]

end Held

/-- From any registry that changes lead to, two interleavings of changes lead to registries that
answer alike; every change raises the same in the one as in the other, if anything; and a set that
comes under a free namespace and goes again leaves the registry as it was. -/
theorem order_irrelevant (cs : List Change) :
    (∀ as bs, Interleaved as bs →
      ((Registry.ofChanges cs).afterAll as).SameAnswers ((Registry.ofChanges cs).afterAll bs) ∧
        ∀ space, ((Registry.ofChanges cs).report as).filter (fun x => x.1.space = space) =
          ((Registry.ofChanges cs).report bs).filter fun x => x.1.space = space) ∧
      ∀ p : CheckedPlugin, p.1.space ∉ (Registry.ofChanges cs).namespaces →
        ((Registry.ofChanges cs).after (.register p)).after (.unregister p.1.space) =
            Registry.ofChanges cs ∧
          (¬ p.1.Ambiguous →
            ((Registry.ofChanges cs).register p.1).error = p.1.cls.unfiled?.map .noFile ∧
              ((Registry.ofChanges cs).register p.1).state.unregister p.1.space =
                .ok (Registry.ofChanges cs)) := by
  refine ⟨?_, ?_⟩
  · intro as bs hsame
    have hrep := Represents.ofChanges (cs ++ as)
    have hrep' := Represents.ofChanges (cs ++ bs)
    rw [Registry.ofChanges_append] at hrep hrep'
    refine ⟨sameAnswers_of_sets hrep hrep' ?_, ?_⟩
    · intro space
      rw [Registry.get?_sets_afterAll, Registry.get?_sets_afterAll, hsame space]
    · intro space
      rw [Registry.filter_report, Registry.filter_report, hsame space]
  · intro p hfree
    have hrep := Represents.ofChanges cs
    have hspaces : p.1.space ∉ (Catalogue.ofChanges cs).spaces := by
      rw [← hrep.keys_sets]
      exact hfree
    exact ⟨hrep.after_register_unregister hspaces, hrep.unregister_register hspaces⟩

/-- Two sets come, in the one order and in the other, and a third one comes and goes. -/
theorem order_irrelevant_two :
    let m : CheckedPlugin := barePlugin 1 "m" (by decide)
    let n : CheckedPlugin := solePlugin 2 [] (.ok (.text ""))
    let as : List Change := [.register m, .register n, .register m]
    let bs : List Change := [.register n, .register m, .register m]
    Interleaved as bs ∧ (Registry.afterAll {} as).SameAnswers (Registry.afterAll {} bs) ∧
      (Registry.afterAll {} as).namespaces = ["m", "n"] ∧
      (Registry.afterAll {} bs).namespaces = ["n", "m"] ∧
      n.1.space ∉ (Registry.ofChanges [.register m]).namespaces ∧ ¬ n.1.Ambiguous ∧
      ((Registry.ofChanges [.register m]).register n.1).error = none ∧
        ((Registry.ofChanges [.register m]).register n.1).state.unregister "n" =
          .ok (Registry.ofChanges [.register m]) := by
  intro m n as bs
  have hswap : Interleaved as bs := interleaved_swap (by decide) [] [.register m]
  have hfree : n.1.space ∉ (Registry.ofChanges [.register m]).namespaces := by decide
  have hown : ¬ n.1.Ambiguous := by decide
  exact ⟨hswap, ((order_irrelevant []).1 as bs hswap).1, rfl, rfl, hfree, hown,
    ((order_irrelevant [.register m]).2 n hfree).2 hown⟩

end BuildScript
