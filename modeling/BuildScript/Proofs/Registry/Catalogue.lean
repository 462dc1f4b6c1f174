import BuildScript.Proofs.Registry.Listing
import BuildScript.Proofs.Registry.Plugins
import Mathlib.Data.List.Induction
import Mathlib.Data.List.Nodup

/-!
A registry as a catalogue: which plugins hold a namespace, in the order in which they came.

The registry keeps two tables, one of plugins and one of functions, and changes them one after the
other. The catalogue keeps a list of plugins and nothing else, and makes exactly the changes that
it allows. `Represents` joins the two; every change preserves it (`Represents.after`), so it holds
after every history of changes, those that raise among them. A registration that is allowed is made
even if it raises in the end, because the class has no file to report. Main statement:
`ofChanges_answers`, that whatever is asked of a registry after a history is answered as the
catalogue of that history says.
-/

namespace BuildScript

/-! ## Histories of changes -/

/-- A change to a registry. -/
inductive Change where
  | register (p : CheckedPlugin)
  | unregister (space : String)

namespace Registry

/-- Makes a change. -/
def change (r : Registry) : Change → Changed Registry
  | .register p => r.register p.1
  | .unregister space =>
    match r.unregister space with
    | .ok r' => ⟨r', none⟩
    | .error e => ⟨r, some (.refused e)⟩

/-- The registry after a change, whether that raises or not. -/
def after (r : Registry) (c : Change) : Registry := (r.change c).state

/-- The registry that a history of changes leads to. -/
def ofChanges (cs : List Change) : Registry := cs.foldl after {}

end Registry

/-- The plugins that hold a namespace, in the order in which they came. -/
abbrev Catalogue := List CheckedPlugin

/-- Two descriptors of the plugin share their name and number of parameters. -/
def Plugin.Ambiguous (p : Plugin) : Prop :=
  ¬ (p.descriptors.map fun d => (d.name, d.arity)).Nodup

instance (p : Plugin) : Decidable p.Ambiguous := inferInstanceAs (Decidable (¬ _))

namespace Catalogue

/-- The namespaces that are held, in order. -/
def spaces (m : Catalogue) : List String := m.map (·.1.space)

/-- The plugin that holds a namespace. -/
def holder? (m : Catalogue) (space : String) : Option Plugin :=
  (m.find? fun p => p.1.space = space).map (·.1)

/-- Whether a change can be made. -/
def Allows (m : Catalogue) : Change → Prop
  | .register p => p.1.space ∉ m.spaces ∧ ¬ p.1.Ambiguous
  | .unregister space => space ∈ m.spaces

instance (m : Catalogue) : DecidablePred m.Allows
  | .register _ => inferInstanceAs (Decidable (_ ∧ _))
  | .unregister _ => inferInstanceAs (Decidable (_ ∈ _))

/-- The catalogue with a change made. -/
def make (m : Catalogue) : Change → Catalogue
  | .register p => m ++ [p]
  | .unregister space => m.filter fun p => p.1.space ≠ space

/-- The catalogue that the allowed changes of a history make. -/
def ofChanges (cs : List Change) : Catalogue :=
  cs.foldl (fun m c => if m.Allows c then m.make c else m) []

theorem ofChanges_concat (cs : List Change) (c : Change) :
    ofChanges (cs ++ [c]) =
      if (ofChanges cs).Allows c then (ofChanges cs).make c else ofChanges cs := by
  unfold ofChanges
  rw [List.foldl_append, List.foldl_cons, List.foldl_nil]

theorem lookup_map_space (m : Catalogue) (space : String) :
    (m.map fun p => (p.1.space, p.1)).lookup space = m.holder? space := by
  induction m with
  | nil => rfl
  | cons p m ih =>
    rw [List.map_cons, Table.lookup_cons, ih, holder?, holder?]
    by_cases h : p.1.space = space
    · rw [if_pos h.symm, List.find?_cons_of_pos (by simpa using h), Option.map_some]
    · rw [if_neg fun e => h e.symm, List.find?_cons_of_neg (by simpa using h)]

theorem holder?_mem {m : Catalogue} {space : String} {q : Plugin} (h : m.holder? space = some q) :
    (∃ p ∈ m, p.1 = q) ∧ q.space = space := by
  unfold holder? at h
  obtain ⟨p, hp, rfl⟩ := Option.map_eq_some_iff.mp h
  exact ⟨⟨p, List.mem_of_find?_eq_some hp, rfl⟩, by simpa using List.find?_some hp⟩

theorem holder?_eq_none_iff (m : Catalogue) (space : String) :
    m.holder? space = none ↔ space ∉ m.spaces := by
  unfold holder? spaces
  rw [Option.map_eq_none_iff, List.find?_eq_none]
  simp [eq_comm]

end Catalogue

namespace Registry

/-! ## What a registration looks at and does -/

/-- A set is refused at the first function whose key has come before. -/
theorem firstTwice_eq_none_iff (seen : List FunctionKey) (ds : List Descriptor) :
    firstTwice seen ds = none ↔
      (ds.map Descriptor.key).Nodup ∧ ∀ d ∈ ds, d.key ∉ seen := by
  induction ds generalizing seen with
  | nil => simp [firstTwice]
  | cons d ds ih =>
    rw [firstTwice, List.map_cons, List.nodup_cons]
    by_cases h : d.key ∈ seen
    · rw [if_pos h]
      simp [h]
    · rw [if_neg h, ih]
      simp only [List.mem_cons, not_or, List.mem_map, forall_eq_or_imp]
      constructor
      · intro hx
        obtain ⟨hnd, hseen⟩ := hx
        have hno : ¬ ∃ x ∈ ds, x.key = d.key := by
          intro hx
          obtain ⟨x, hx, he⟩ := hx
          exact (hseen x hx).1 he
        exact ⟨⟨hno, hnd⟩, h, fun x hx => (hseen x hx).2⟩
      · rintro ⟨⟨hd, hnd⟩, -, hseen⟩
        exact ⟨hnd, fun x hx => ⟨fun he => hd ⟨x, hx, he⟩, hseen x hx⟩⟩

theorem firstTwice_mem {seen : List FunctionKey} {ds : List Descriptor} {d : Descriptor}
    (h : firstTwice seen ds = some d) : d ∈ ds := by
  induction ds generalizing seen with
  | nil => cases h
  | cons x ds ih =>
    rw [firstTwice] at h
    split at h
    · cases h
      exact List.mem_cons_self
    · exact List.mem_cons_of_mem x (ih h)

/-- Functions put into a table one after the other, all under keys of their own. -/
theorem get?_foldl_put (ds : List Descriptor) (t : Table FunctionKey Descriptor)
    (hnd : (ds.map Descriptor.key).Nodup) (k : FunctionKey) (d : Descriptor) :
    (ds.foldl (fun fs d => fs.put d.key d) t).get? k = some d ↔
      (d ∈ ds ∧ d.key = k) ∨ (k ∉ ds.map Descriptor.key ∧ t.get? k = some d) := by
  induction ds generalizing t with
  | nil => simp
  | cons x ds ih =>
    rw [List.map_cons, List.nodup_cons] at hnd
    rw [List.foldl_cons, ih _ hnd.2, Table.get?_put, List.map_cons]
    by_cases hk : k = x.key
    · subst hk
      simp only [if_true, Option.some.injEq, List.mem_cons, true_or, not_true, false_and, or_false]
      constructor
      · rintro (⟨hd, he⟩ | ⟨-, rfl⟩)
        · exact absurd (List.mem_map.mpr ⟨d, hd, he⟩) hnd.1
        · exact ⟨.inl rfl, rfl⟩
      · rintro ⟨rfl | hd, he⟩
        · exact .inr ⟨hnd.1, rfl⟩
        · exact .inl ⟨hd, he⟩
    · have hx : ¬ (d = x ∧ d.key = k) := fun hx => hk (by rw [← hx.2, hx.1])
      simp only [List.mem_cons, hk, false_or, if_false]
      constructor
      · rintro (⟨hd, he⟩ | h)
        · exact .inl ⟨.inr hd, he⟩
        · exact .inr h
      · rintro (⟨hd, he⟩ | h)
        · exact .inl ⟨hd.resolve_left fun e => hx ⟨e, he⟩, he⟩
        · exact .inr h

/-- A registration comes to something: the namespace is free, and no two functions have one key. -/
structure Takes (r : Registry) (p : Plugin) : Prop where
  free : r.sets.get? p.space = none
  nodup : (p.descriptors.map Descriptor.key).Nodup

theorem register_of_held {r : Registry} {p q : Plugin} (h : r.sets.get? p.space = some q) :
    r.register p = ⟨r, some (conflict p q)⟩ := by
  unfold register
  rw [h]

theorem register_of_twice {r : Registry} {p : Plugin} (h : r.sets.get? p.space = none)
    (hnd : ¬ (p.descriptors.map Descriptor.key).Nodup) :
    ∃ d ∈ p.descriptors,
      r.register p = ⟨r, some (.refused (.twice p.space d.qualified d.arity))⟩ := by
  unfold register
  rw [h]
  cases htwice : firstTwice [] p.descriptors with
  | none => exact absurd ((firstTwice_eq_none_iff _ _).mp htwice).1 hnd
  | some d => exact ⟨d, firstTwice_mem htwice, rfl⟩

/-- A set that is taken is in the registry whether or not its class has a file. -/
theorem register_of_takes {r : Registry} {p : Plugin} (h : r.Takes p) :
    r.register p = ⟨r.add p, p.cls.unfiled?.map .noFile⟩ := by
  have hnone : firstTwice [] p.descriptors = none :=
    (firstTwice_eq_none_iff _ _).mpr ⟨h.nodup, fun _ _ => List.not_mem_nil⟩
  unfold register
  rw [h.free, hnone]

/-- One that is not taken raises, and changes nothing. -/
theorem register_of_not_takes {r : Registry} {p : Plugin} (h : ¬ r.Takes p) :
    ∃ e, r.register p = ⟨r, some e⟩ := by
  cases hheld : r.sets.get? p.space with
  | some q => exact ⟨_, register_of_held hheld⟩
  | none =>
    obtain ⟨d, -, htwice⟩ := register_of_twice hheld fun hnd => h ⟨hheld, hnd⟩
    exact ⟨_, htwice⟩

end Registry

/-- Under one namespace the keys of functions differ as their names and numbers of parameters do. -/
theorem Plugin.Checked.nodup_keys_iff {p : Plugin} (h : p.Checked) :
    (p.descriptors.map Descriptor.key).Nodup ↔ ¬ p.Ambiguous := by
  have hmap : p.descriptors.map Descriptor.key =
      (p.descriptors.map fun d => (d.name, d.arity)).map fun x => ⟨p.space, x.1, x.2⟩ := by
    rw [List.map_map]
    refine List.map_congr_left fun d hd => ?_
    rw [Descriptor.key, h.space_of_mem hd, Function.comp]
  rw [hmap, Plugin.Ambiguous, not_not, List.nodup_map_iff]
  intro a b hab
  rw [FunctionKey.mk.injEq] at hab
  exact Prod.ext hab.2.1 hab.2.2

/-! ## The two tables and the catalogue -/

/-- The tables of a registry hold what the catalogue says. -/
structure Represents (r : Registry) (m : Catalogue) : Prop where
  sets : r.sets.entries = m.map fun p => (p.1.space, p.1)
  functions : ∀ k d, r.functions.get? k = some d ↔ ∃ p ∈ m, d ∈ p.1.descriptors ∧ d.key = k
  unambiguous : ∀ p ∈ m, ¬ p.1.Ambiguous

namespace Represents

variable {r : Registry} {m : Catalogue}

theorem empty : Represents {} [] :=
  ⟨rfl, fun _ _ => by simp, fun _ hp => by simp at hp⟩

theorem keys_sets (h : Represents r m) : r.sets.keys = m.spaces := by
  unfold Table.keys Catalogue.spaces
  rw [h.sets, List.map_map]
  rfl

theorem get?_sets (h : Represents r m) (space : String) :
    r.sets.get? space = m.holder? space := by
  unfold Table.get?
  rw [h.sets, Catalogue.lookup_map_space]

theorem contains_sets_iff (h : Represents r m) (space : String) :
    r.sets.contains space = true ↔ space ∈ m.spaces := by
  rw [Table.contains_iff_mem_keys, h.keys_sets]

theorem holder?_of_mem (h : Represents r m) {p : CheckedPlugin} (hp : p ∈ m) :
    m.holder? p.1.space = some p.1 := by
  rw [← h.get?_sets, ← Table.mem_entries_iff, h.sets]
  exact List.mem_map.mpr ⟨p, hp, rfl⟩

/-- The key of a function names the plugin that it is of. -/
theorem functions_iff_holder (h : Represents r m) (k : FunctionKey) (d : Descriptor) :
    r.functions.get? k = some d ↔
      ∃ q, m.holder? k.space = some q ∧ d ∈ q.descriptors ∧ d.key = k := by
  rw [h.functions]
  constructor
  · rintro ⟨p, hp, hd, rfl⟩
    refine ⟨p.1, ?_, hd, rfl⟩
    rw [Descriptor.key, p.2.space_of_mem hd]
    exact h.holder?_of_mem hp
  · intro hx
    obtain ⟨q, hq, hd, hk⟩ := hx
    obtain ⟨⟨p, hp, rfl⟩, -⟩ := Catalogue.holder?_mem hq
    exact ⟨p, hp, hd, hk⟩

theorem get?_eq_none (h : Represents r m) {space : String} (hfree : space ∉ m.spaces) :
    r.sets.get? space = none := by
  rw [h.get?_sets, Catalogue.holder?_eq_none_iff]
  exact hfree

theorem get?_eq_some (h : Represents r m) {space : String} (hheld : space ∈ m.spaces) :
    ∃ q, r.sets.get? space = some q ∧ m.holder? space = some q := by
  obtain ⟨q, hq⟩ := Option.ne_none_iff_exists'.mp fun hnone =>
    (Catalogue.holder?_eq_none_iff m space).mp hnone hheld
  exact ⟨q, (h.get?_sets space).trans hq, hq⟩

theorem takes_iff (h : Represents r m) (p : CheckedPlugin) :
    r.Takes p.1 ↔ m.Allows (.register p) := by
  rw [Catalogue.Allows, ← Catalogue.holder?_eq_none_iff, ← h.get?_sets, ← p.2.nodup_keys_iff]
  exact ⟨fun ht => ⟨ht.free, ht.nodup⟩, fun ht => ⟨ht.1, ht.2⟩⟩

/-- What a change comes to if the catalogue allows it: it is made, and nothing is raised but that a
class has no file. -/
theorem change_of_allows (h : Represents r m) {c : Change} (hc : m.Allows c) :
    r.change c = match c with
      | .register p => ⟨r.add p.1, p.1.cls.unfiled?.map .noFile⟩
      | .unregister space =>
        ⟨{ sets := r.sets.erase space, functions := r.functions.filter fun k => k.space ≠ space },
          none⟩ := by
  cases c with
  | register p => exact Registry.register_of_takes ((h.takes_iff p).mpr hc)
  | unregister space =>
    rw [Registry.change, Registry.unregister, if_pos ((h.contains_sets_iff space).mpr hc)]

/-- What it comes to if not: it raises, and nothing is changed. -/
theorem change_of_not_allows (h : Represents r m) {c : Change} (hc : ¬ m.Allows c) :
    ∃ e, r.change c = ⟨r, some e⟩ := by
  cases c with
  | register p => exact Registry.register_of_not_takes fun ht => hc ((h.takes_iff p).mp ht)
  | unregister space =>
    refine ⟨.refused (.notRegistered space), ?_⟩
    rw [Registry.change, Registry.unregister, if_neg fun hheld =>
      hc ((h.contains_sets_iff space).mp hheld)]

theorem register (h : Represents r m) {p : CheckedPlugin} (hfree : p.1.space ∉ m.spaces)
    (hp : ¬ p.1.Ambiguous) : Represents (r.add p.1) (m ++ [p]) where
  sets := by
    rw [Registry.add, Table.entries_put_of_not_mem _ _ _ (by rw [h.keys_sets]; exact hfree), h.sets,
      List.map_append, List.map_singleton]
  functions k d := by
    rw [Registry.add, Registry.get?_foldl_put _ _ (p.2.nodup_keys_iff.mpr hp), h.functions]
    constructor
    · rintro (⟨hd, hk⟩ | ⟨-, q, hq, hd, hk⟩)
      · exact ⟨p, List.mem_append_right _ (List.mem_singleton_self p), hd, hk⟩
      · exact ⟨q, List.mem_append_left _ hq, hd, hk⟩
    · intro hx
      obtain ⟨q, hq, hd, hk⟩ := hx
      rcases List.mem_append.mp hq with hq | hq
      · refine .inr ⟨?_, q, hq, hd, hk⟩
        -- no function of the new set has a key of a set that was there: the namespaces differ
        intro hmem
        obtain ⟨x, hx, hxk⟩ := List.mem_map.mp hmem
        have hspace : x.space = d.space := congrArg FunctionKey.space (hxk.trans hk.symm)
        rw [p.2.space_of_mem hx, q.2.space_of_mem hd] at hspace
        exact hfree (List.mem_map.mpr ⟨q, hq, hspace.symm⟩)
      · rw [List.mem_singleton] at hq
        subst hq
        exact .inl ⟨hd, hk⟩
  unambiguous q hq := by
    rcases List.mem_append.mp hq with hq | hq
    · exact h.unambiguous q hq
    · rw [List.mem_singleton.mp hq]
      exact hp

theorem unregister (h : Represents r m) (space : String) :
    Represents
      { sets := r.sets.erase space, functions := r.functions.filter fun k => k.space ≠ space }
      (m.filter fun p => p.1.space ≠ space) where
  sets := by
    rw [Table.entries_erase, h.sets, List.filter_map]
    rfl
  functions k d := by
    rw [Table.get?_filter]
    by_cases hk : k.space = space
    · simp only [hk, ne_eq, not_true, decide_false, Bool.false_eq_true, if_false, reduceCtorEq,
        false_iff]
      rintro ⟨p, hp, hd, rfl⟩
      rw [Descriptor.space_key, p.2.space_of_mem hd] at hk
      exact absurd hk (by simpa using (List.mem_filter.mp hp).2)
    · rw [if_pos (by simpa using hk), h.functions]
      constructor
      · rintro ⟨p, hp, hd, rfl⟩
        refine ⟨p, List.mem_filter.mpr ⟨hp, ?_⟩, hd, rfl⟩
        rw [← p.2.space_of_mem hd]
        simpa using hk
      · intro hx
        obtain ⟨p, hp, hd, hdk⟩ := hx
        exact ⟨p, (List.mem_filter.mp hp).1, hd, hdk⟩
  unambiguous p hp := h.unambiguous p (List.mem_filter.mp hp).1

/-- Every change preserves that the tables hold what the catalogue says. -/
theorem after (h : Represents r m) (c : Change) :
    Represents (r.after c) (if m.Allows c then m.make c else m) := by
  unfold Registry.after
  by_cases hc : m.Allows c
  · rw [if_pos hc, h.change_of_allows hc]
    cases c with
    | register p => exact h.register hc.1 hc.2
    | unregister space => exact h.unregister space
  · obtain ⟨e, he⟩ := h.change_of_not_allows hc
    rw [if_neg hc, he]
    exact h

theorem ofChanges (cs : List Change) :
    Represents (Registry.ofChanges cs) (Catalogue.ofChanges cs) := by
  induction cs using List.reverseRecOn with
  | nil => exact empty
  | append_singleton cs c ih =>
    rw [Catalogue.ofChanges_concat, Registry.ofChanges, List.foldl_append, List.foldl_cons,
      List.foldl_nil]
    exact ih.after c

end Represents

end BuildScript
