import BuildScript.Activation
import BuildScript.Proofs.Registry.Answers

/-!
Adding sets to a registry where they are missing. A set is lacking if its namespace is wanted and free
(`lacks`), and it clashes if another class holds the namespace (`clashes`). The loop adds what is
lacking, in the order of the sets, up to the first that clashes (`Represents.addMissing`): it asks
about each namespace once, so what it adds on the way never changes what it finds later. The classes
of the sets have files here, as those of the library do. Activation
differs in nothing but the flags (`DefaultRegistry.addMissing_eq`).
-/

namespace BuildScript

/-! ## What is lacking and what clashes -/

namespace Registry

variable {disabled : List String} {r r' : Registry}

/-- A set is lacking: its namespace is wanted, and nothing holds it. -/
def lacks (r : Registry) (disabled : List String) (p : Plugin) : Bool :=
  !disabled.contains p.space && (r.sets.get? p.space).isNone

/-- A set clashes: its namespace is wanted, and a plugin of another class holds it. -/
def clashes (r : Registry) (disabled : List String) (p : Plugin) : Bool :=
  !disabled.contains p.space && (r.sets.get? p.space).any fun holder => holder.cls.id ≠ p.cls.id

/-- Of some sets those that are lacking, up to the first that clashes. -/
def chosen (r : Registry) (disabled : List String) (ps : List Plugin) : List Plugin :=
  (ps.takeWhile fun p => !r.clashes disabled p).filter (r.lacks disabled)

/-- How the first set that clashes is refused. -/
def clash? (r : Registry) (disabled : List String) (ps : List Plugin) : Option ChangeError :=
  (ps.find? (r.clashes disabled)).bind fun p =>
    (r.sets.get? p.space).map (conflict p)

theorem isMissing_eq (p : Plugin) :
    isMissing disabled r p = (r.lacks disabled p || r.clashes disabled p) := by
  unfold isMissing lacks clashes
  cases r.sets.get? p.space <;> simp

theorem lacks_congr {p : Plugin} (h : r'.sets.get? p.space = r.sets.get? p.space) :
    r'.lacks disabled p = r.lacks disabled p := by
  rw [lacks, lacks, h]

theorem clashes_congr {p : Plugin} (h : r'.sets.get? p.space = r.sets.get? p.space) :
    r'.clashes disabled p = r.clashes disabled p := by
  rw [clashes, clashes, h]

theorem holder_of_clashes {p : Plugin} (h : r.clashes disabled p = true) :
    ∃ q, r.sets.get? p.space = some q := by
  rw [clashes, Bool.and_eq_true, Option.any_eq_true] at h
  obtain ⟨-, q, hq, -⟩ := h
  exact ⟨q, hq⟩

theorem isMissing_congr {p : Plugin} (h : r'.sets.get? p.space = r.sets.get? p.space) :
    isMissing disabled r' p = isMissing disabled r p := by
  rw [isMissing, isMissing, h]

theorem chosen_cons (p : Plugin) (ps : List Plugin) :
    r.chosen disabled (p :: ps) =
      if r.clashes disabled p then []
      else if r.lacks disabled p then p :: r.chosen disabled ps else r.chosen disabled ps := by
  unfold chosen
  cases hclash : r.clashes disabled p <;> cases hlack : r.lacks disabled p <;> simp [hclash, hlack]

theorem clash?_cons (p : Plugin) (ps : List Plugin) :
    r.clash? disabled (p :: ps) =
      if r.clashes disabled p then
        (r.sets.get? p.space).map (conflict p)
      else r.clash? disabled ps := by
  unfold clash?
  cases hclash : r.clashes disabled p <;> simp [hclash]

theorem chosen_congr {ps : List Plugin}
    (h : ∀ p ∈ ps, r'.sets.get? p.space = r.sets.get? p.space) :
    r'.chosen disabled ps = r.chosen disabled ps := by
  induction ps with
  | nil => rfl
  | cons p ps ih =>
    have hp := h p List.mem_cons_self
    rw [chosen_cons, chosen_cons, clashes_congr hp, lacks_congr hp,
      ih fun q hq => h q (List.mem_cons_of_mem _ hq)]

theorem clash?_congr {ps : List Plugin}
    (h : ∀ p ∈ ps, r'.sets.get? p.space = r.sets.get? p.space) :
    r'.clash? disabled ps = r.clash? disabled ps := by
  induction ps with
  | nil => rfl
  | cons p ps ih =>
    have hp := h p List.mem_cons_self
    rw [clash?_cons, clash?_cons, clashes_congr hp, hp,
      ih fun q hq => h q (List.mem_cons_of_mem _ hq)]

/-- In front of the first clash everything that is lacking is chosen. -/
theorem chosen_append {before : List Plugin} (h : ∀ p ∈ before, r.clashes disabled p = false)
    (rest : List Plugin) :
    r.chosen disabled (before ++ rest) =
      before.filter (r.lacks disabled) ++ r.chosen disabled rest := by
  unfold chosen
  rw [List.takeWhile_append_of_pos (by simpa using h), List.filter_append]

theorem clash?_append {before : List Plugin} (h : ∀ p ∈ before, r.clashes disabled p = false)
    (rest : List Plugin) :
    r.clash? disabled (before ++ rest) = r.clash? disabled rest := by
  unfold clash?
  rw [List.find?_append, List.find?_eq_none.mpr (by simpa using h), Option.none_or]

theorem chosen_of_not_clashes {ps : List Plugin} (h : ∀ p ∈ ps, r.clashes disabled p = false) :
    r.chosen disabled ps = ps.filter (r.lacks disabled) := by
  have happend := chosen_append h []
  simpa [chosen] using happend

theorem chosen_of_clash {before : List Plugin} (h : ∀ x ∈ before, r.clashes disabled x = false)
    {p : Plugin} (hp : r.clashes disabled p = true) (rest : List Plugin) :
    r.chosen disabled (before ++ p :: rest) = before.filter (r.lacks disabled) := by
  rw [chosen_append h, chosen_cons, hp, if_pos rfl, List.append_nil]

/-- The sets that were in front of the clash are added first, and those from the clash on by a second
run, which finds the first ones in their places. -/
theorem chosen_resumed {r₁ r₂ : Registry} {before rest : List Plugin} {p : Plugin}
    (hbefore : ∀ x ∈ before, r.clashes disabled x = false) (hp : r.clashes disabled p = true)
    (hpresent : ∀ x ∈ before, isMissing disabled r₁ x = false)
    (hfront : ∀ x ∈ before, r₂.sets.get? x.space = r.sets.get? x.space)
    (hrest : ∀ x ∈ p :: rest, r₂.sets.get? x.space = r₁.sets.get? x.space) :
    r₂.chosen disabled (before ++ p :: rest) =
        r.chosen disabled (before ++ p :: rest) ++ r₁.chosen disabled (before ++ p :: rest) ∧
      r₂.clash? disabled (before ++ p :: rest) = r₁.clash? disabled (before ++ p :: rest) := by
  have hpresent' : ∀ x ∈ before, r₁.lacks disabled x = false ∧ r₁.clashes disabled x = false := by
    intro x hx
    have hmissing := hpresent x hx
    rwa [isMissing_eq, Bool.or_eq_false_iff] at hmissing
  have hclash₁ : ∀ x ∈ before, r₁.clashes disabled x = false := fun x hx => (hpresent' x hx).2
  have hclash₂ : ∀ x ∈ before, r₂.clashes disabled x = false := by
    intro x hx
    rw [clashes_congr (hfront x hx)]
    exact hbefore x hx
  have hnothing : before.filter (r₁.lacks disabled) = [] := by
    refine List.filter_eq_nil_iff.mpr ?_
    intro x hx
    rw [(hpresent' x hx).1]
    exact Bool.false_ne_true
  have hsame : before.filter (r₂.lacks disabled) = before.filter (r.lacks disabled) :=
    List.filter_congr fun x hx => lacks_congr (hfront x hx)
  rw [chosen_append hclash₂, chosen_of_clash hbefore hp, chosen_append hclash₁, hnothing, hsame,
    List.nil_append, clash?_append hclash₂, clash?_append hclash₁]
  exact ⟨congrArg _ (chosen_congr hrest), clash?_congr hrest⟩

theorem clash?_eq_none_iff (r : Registry) (disabled : List String) (ps : List Plugin) :
    r.clash? disabled ps = none ↔ ∀ p ∈ ps, r.clashes disabled p = false := by
  induction ps with
  | nil => simp [clash?]
  | cons p ps ih =>
    rw [clash?_cons, List.forall_mem_cons, ← ih]
    cases hclash : r.clashes disabled p with
    | false => simp
    | true =>
      obtain ⟨q, hq⟩ := holder_of_clashes hclash
      simp [hq]

/-- What stops a run is the first set that clashes. -/
theorem exists_clash {ps : List Plugin} {e : ChangeError} (h : r.clash? disabled ps = some e) :
    ∃ before p rest q, ps = before ++ p :: rest ∧
      (∀ x ∈ before, r.clashes disabled x = false) ∧ r.clashes disabled p = true ∧
      r.sets.get? p.space = some q ∧ e = conflict p q := by
  obtain ⟨p, hfind, hheld⟩ := Option.bind_eq_some_iff.mp h
  obtain ⟨q, hq, he⟩ := Option.map_eq_some_iff.mp hheld
  obtain ⟨hp, before, rest, rfl, hbefore⟩ := List.find?_eq_some_iff_append.mp hfind
  exact ⟨before, p, rest, q, rfl, by simpa using hbefore, hp, hq, he.symm⟩

/-- What does not clash is not wanted, or its namespace is free or held by its own class. -/
theorem clashes_eq_false_iff (r : Registry) (disabled : List String) (p : Plugin) :
    r.clashes disabled p = false ↔ (p.space ∉ disabled →
      r.getSet p.space = .error (.unknownNamespace p.space) ∨
        ∃ q, r.getSet p.space = .ok q ∧ q.cls.id = p.cls.id) := by
  unfold clashes getSet
  cases r.sets.get? p.space <;> simp [or_iff_not_imp_left]

/-- What is left without the set of a namespace. -/
def without (r : Registry) (space : String) : Registry :=
  { sets := r.sets.erase space, functions := r.functions.filter fun k => k.space ≠ space }

theorem unregister_of_get? {space : String} {q : Plugin} (h : r.sets.get? space = some q) :
    r.unregister space = .ok (r.without space) := by
  have hheld : r.sets.contains space = true := by
    rw [Table.contains, h]
    rfl
  exact if_pos hheld

theorem get?_sets_without (r : Registry) (space other : String) :
    (r.without space).sets.get? other = if other = space then none else r.sets.get? other :=
  r.sets.get?_erase space other

end Registry

theorem Represents.without {r : Registry} {m : Catalogue} (h : Represents r m) (space : String) :
    Represents (r.without space) (m.filter fun p => p.1.space ≠ space) :=
  h.unregister space

theorem Plugin.space_ne_of_nodup {before rest : List Plugin}
    (h : ((before ++ rest).map Plugin.space).Nodup) {x y : Plugin} (hx : x ∈ before)
    (hy : y ∈ rest) : x.space ≠ y.space := by
  rw [List.map_append, List.nodup_append] at h
  exact h.2.2 _ (List.mem_map_of_mem hx) _ (List.mem_map_of_mem hy)

theorem Catalogue.mem_of_map_eq {new : Catalogue} {before : List Plugin} {keep : Plugin → Bool}
    (h : new.map (·.1) = before.filter keep) {x : CheckedPlugin} (hx : x ∈ new) : x.1 ∈ before := by
  have hmem : x.1 ∈ new.map (·.1) := List.mem_map_of_mem hx
  rw [h] at hmem
  exact (List.mem_filter.mp hmem).1

/-! ## The loop -/

section Loop

variable {σ : Type} {registry : σ → Registry} {add : σ → Plugin → Changed σ}
  {disabled : List String} {s : σ} {p : Plugin} {ps : List Plugin}

theorem addMissing_cons_of_present (h : isMissing disabled (registry s) p = false) :
    addMissing registry add disabled s (p :: ps) = addMissing registry add disabled s ps := by
  simp [addMissing, h]

theorem addMissing_cons_of_error (h : isMissing disabled (registry s) p = true)
    {s' : σ} {e : ChangeError} (he : add s p = ⟨s', some e⟩) :
    addMissing registry add disabled s (p :: ps) = ⟨s', [], some e⟩ := by
  simp [addMissing, h, he]

theorem addMissing_cons_of_ok (h : isMissing disabled (registry s) p = true)
    {s' : σ} (hs : add s p = ⟨s', none⟩) :
    addMissing registry add disabled s (p :: ps) =
      ⟨(addMissing registry add disabled s' ps).state,
        p :: (addMissing registry add disabled s' ps).added,
        (addMissing registry add disabled s' ps).error⟩ := by
  simp [addMissing, h, hs]

theorem addMissing_of_present (h : ∀ p ∈ ps, isMissing disabled (registry s) p = false) :
    addMissing registry add disabled s ps = ⟨s, [], none⟩ := by
  induction ps with
  | nil => rfl
  | cons p ps ih =>
    rw [addMissing_cons_of_present (h p List.mem_cons_self)]
    exact ih fun q hq => h q (List.mem_cons_of_mem _ hq)

end Loop

namespace Registry

variable {disabled : List String} {r r' : Registry} {p : Plugin}

theorem addMissing_of_kept (h : isMissing disabled r p = false) (ps : List Plugin) :
    r.addMissing disabled (p :: ps) = r.addMissing disabled ps :=
  addMissing_cons_of_present h

theorem addMissing_of_raised (h : isMissing disabled r p = true) {e : ChangeError}
    (he : r.register p = ⟨r', some e⟩) (ps : List Plugin) :
    r.addMissing disabled (p :: ps) = ⟨r', [], some e⟩ :=
  addMissing_cons_of_error h he

theorem addMissing_of_registered (h : isMissing disabled r p = true)
    (hr : r.register p = ⟨r', none⟩) (ps : List Plugin) :
    r.addMissing disabled (p :: ps) =
      ⟨(r'.addMissing disabled ps).state, p :: (r'.addMissing disabled ps).added,
        (r'.addMissing disabled ps).error⟩ :=
  addMissing_cons_of_ok h hr

end Registry

/-- Activation registers what is missing, and marks what it has registered. -/
theorem DefaultRegistry.addMissing_eq (d : DefaultRegistry) (disabled : List String)
    (ps : List Plugin) :
    d.addMissing disabled ps =
      ⟨⟨(d.registry.addMissing disabled ps).state,
          ((d.registry.addMissing disabled ps).added.map Plugin.id).reverse ++ d.activated⟩,
        (d.registry.addMissing disabled ps).added, (d.registry.addMissing disabled ps).error⟩ := by
  induction ps generalizing d with
  | nil => rfl
  | cons p ps ih =>
    unfold DefaultRegistry.addMissing at ih ⊢
    cases hmissing : isMissing disabled d.registry p with
    | false =>
      rw [addMissing_cons_of_present hmissing, Registry.addMissing_of_kept hmissing]
      exact ih d
    | true =>
      rcases hregister : d.registry.register p with ⟨r, _ | e⟩
      case some =>
        have hactivate : d.activate p = ⟨{ d with registry := r }, some e⟩ := by
          rw [DefaultRegistry.activate, hregister]
        rw [addMissing_cons_of_error hmissing hactivate,
          Registry.addMissing_of_raised hmissing hregister]
        rfl
      case none =>
        have hactivate : d.activate p = ⟨⟨r, p.id :: d.activated⟩, none⟩ := by
          rw [DefaultRegistry.activate, hregister]
        rw [addMissing_cons_of_ok hmissing hactivate,
          Registry.addMissing_of_registered hmissing hregister, ih]
        simp

namespace Represents

variable {disabled : List String} {r : Registry} {m : Catalogue}

/-- What comes to a registry leaves those there are where they are. -/
theorem get?_sets_append (h : Represents r m) {new : Catalogue} {r' : Registry}
    (h' : Represents r' (m ++ new)) (space : String) :
    r'.sets.get? space = (r.sets.get? space).or (new.holder? space) := by
  rw [h'.get?_sets, h.get?_sets, Catalogue.holder?, Catalogue.holder?, Catalogue.holder?,
    List.find?_append, Option.map_or]

theorem register_of_lacks (h : Represents r m) {p : CheckedPlugin}
    (hlack : r.lacks disabled p.1 = true) (hp : ¬ p.1.Ambiguous) (hfile : p.1.cls.unfiled? = none) :
    ∃ r', r.register p.1 = ⟨r', none⟩ ∧ Represents r' (m ++ [p]) := by
  have hfree : r.sets.get? p.1.space = none := by
    simp only [Registry.lacks, Bool.and_eq_true, Option.isNone_iff_eq_none] at hlack
    exact hlack.2
  have htakes : r.Takes p.1 := ⟨hfree, p.2.nodup_keys_iff.mpr hp⟩
  have hregister := Registry.register_of_takes htakes
  rw [hfile] at hregister
  exact ⟨_, hregister, h.register ((h.takes_iff p).mp htakes).1 hp⟩

/-- The loop adds what is chosen, and is stopped by the first clash. -/
theorem addMissing (h : Represents r m) {ps : List CheckedPlugin}
    (hspaces : (ps.map (·.1.space)).Nodup) (hown : ∀ p ∈ ps, ¬ p.1.Ambiguous)
    (hfile : ∀ p ∈ ps, p.1.cls.unfiled? = none) :
    (r.addMissing disabled (ps.map (·.1))).added = r.chosen disabled (ps.map (·.1)) ∧
      (r.addMissing disabled (ps.map (·.1))).error = r.clash? disabled (ps.map (·.1)) ∧
      ∃ new : List CheckedPlugin, new.map (·.1) = r.chosen disabled (ps.map (·.1)) ∧
        Represents (r.addMissing disabled (ps.map (·.1))).state (m ++ new) := by
  induction ps generalizing r m with
  | nil => exact ⟨rfl, rfl, [], rfl, by rwa [List.append_nil]⟩
  | cons p ps ih =>
    rw [List.map_cons, List.nodup_cons] at hspaces
    have hown' : ∀ q ∈ ps, ¬ q.1.Ambiguous := fun q hq => hown q (List.mem_cons_of_mem _ hq)
    have hp : ¬ p.1.Ambiguous := hown p List.mem_cons_self
    have hfile' : ∀ q ∈ ps, q.1.cls.unfiled? = none := fun q hq => hfile q (List.mem_cons_of_mem _ hq)
    rw [List.map_cons, Registry.chosen_cons, Registry.clash?_cons]
    have hmissing : isMissing disabled r p.1 = (r.lacks disabled p.1 || r.clashes disabled p.1) :=
    Registry.isMissing_eq p.1
    cases hclash : r.clashes disabled p.1 with
    | true =>
      obtain ⟨q, hq⟩ := Registry.holder_of_clashes hclash
      rw [hclash, Bool.or_true] at hmissing
      rw [Registry.addMissing_of_raised hmissing (Registry.register_of_held hq), hq]
      exact ⟨rfl, rfl, [], rfl, by rwa [List.append_nil]⟩
    | false =>
      cases hlack : r.lacks disabled p.1 with
      | false =>
        rw [hclash, hlack, Bool.or_false] at hmissing
        rw [Registry.addMissing_of_kept hmissing]
        exact ih h hspaces.2 hown' hfile'
      | true =>
        rw [hlack, Bool.true_or] at hmissing
        obtain ⟨r', hregister, hrep⟩ := h.register_of_lacks hlack hp (hfile p List.mem_cons_self)
        obtain ⟨hadded, herror, new, hnew, hstate⟩ := ih hrep hspaces.2 hown' hfile'
        -- the rest is asked about other namespaces, which are as they were
        have hrest : ∀ q ∈ ps.map (·.1), r'.sets.get? q.space = r.sets.get? q.space := by
          intro q hq
          obtain ⟨x, hx, rfl⟩ := List.mem_map.mp hq
          have hother : Catalogue.holder? [p] x.1.space = none := by
            rw [Catalogue.holder?_eq_none_iff]
            intro he
            have hsame : x.1.space = p.1.space := List.mem_singleton.mp he
            exact hspaces.1 (hsame ▸ List.mem_map_of_mem hx)
          rw [h.get?_sets_append hrep, hother, Option.or_none]
        rw [Registry.chosen_congr hrest] at hadded hnew
        rw [Registry.clash?_congr hrest] at herror
        rw [Registry.addMissing_of_registered hmissing hregister]
        refine ⟨congrArg (p.1 :: ·) hadded, herror, p :: new, congrArg (p.1 :: ·) hnew, ?_⟩
        rwa [List.append_cons]

/-- Nothing is missing any more that was not in the way and was added if it was lacking. -/
theorem not_isMissing_after (h : Represents r m) {new : List CheckedPlugin} {r' : Registry}
    (h' : Represents r' (m ++ new)) {p : Plugin} (hclash : r.clashes disabled p = false)
    (hadded : r.lacks disabled p = true → p ∈ new.map (·.1)) :
    isMissing disabled r' p = false := by
  cases hwanted : disabled.contains p.space with
  | true => rw [isMissing, hwanted, Bool.not_true, Bool.false_and]
  | false =>
    cases hheld : r.sets.get? p.space with
    | some q =>
      have hsame : q.cls.id = p.cls.id := by
        simpa only [Registry.clashes, hheld, hwanted, Bool.not_false, Bool.true_and, Option.any_some,
          decide_eq_false_iff_not, ne_eq, not_not] using hclash
      have hkept : r'.sets.get? p.space = some q := by
        rw [h.get?_sets_append h', hheld, Option.some_or]
      simp [isMissing, hkept, hsame]
    | none =>
      have hlack : r.lacks disabled p = true := by
        rw [Registry.lacks, hheld, hwanted]
        rfl
      obtain ⟨x, hx, rfl⟩ := List.mem_map.mp (hadded hlack)
      have hheld' : r'.sets.get? x.1.space = some x.1 := by
        rw [h'.get?_sets]
        exact h'.holder?_of_mem (List.mem_append_right m hx)
      simp [isMissing, hheld']

/-- What was added is behind, and so is the set that was in the way: of the rest a run chooses what it
would have chosen without that set. -/
theorem chosen_without (h : Represents r m) {new : Catalogue} {r' : Registry}
    (h' : Represents r' (m ++ new)) {before rest : List Plugin} {p : Plugin}
    (hspaces : ((before ++ p :: rest).map Plugin.space).Nodup)
    (hbefore : ∀ x ∈ before, r.clashes disabled x = false) (hp : r.clashes disabled p = true)
    (hnew : new.map (·.1) = before.filter (r.lacks disabled)) :
    (r.without p.space).chosen disabled (before ++ p :: rest) =
        r.chosen disabled (before ++ p :: rest) ++
          (r'.without p.space).chosen disabled (before ++ p :: rest) ∧
      (r.without p.space).clash? disabled (before ++ p :: rest) =
        (r'.without p.space).clash? disabled (before ++ p :: rest) := by
  have hbefore_ne : ∀ x ∈ before, x.space ≠ p.space := fun x hx =>
    Plugin.space_ne_of_nodup hspaces hx List.mem_cons_self
  refine Registry.chosen_resumed hbefore hp ?_ ?_ ?_
  · intro x hx
    have hkept : (r'.without p.space).sets.get? x.space = r'.sets.get? x.space := by
      rw [Registry.get?_sets_without, if_neg (hbefore_ne x hx)]
    rw [Registry.isMissing_congr hkept]
    exact h.not_isMissing_after h' (hbefore x hx) fun hlack =>
      hnew ▸ List.mem_filter.mpr ⟨hx, hlack⟩
  · intro x hx
    rw [Registry.get?_sets_without, if_neg (hbefore_ne x hx)]
  · intro x hx
    have hnone : Catalogue.holder? new x.space = none := by
      rw [Catalogue.holder?_eq_none_iff]
      intro he
      obtain ⟨y, hy, hyx⟩ := List.mem_map.mp he
      exact Plugin.space_ne_of_nodup hspaces (Catalogue.mem_of_map_eq hnew hy) hx hyx
    rw [Registry.get?_sets_without, Registry.get?_sets_without, h.get?_sets_append h', hnone,
      Option.or_none]

end Represents

end BuildScript
