import BuildScript.Proofs.Registry.Activation
import BuildScript.Proofs.Registry.Missing

/-!
Taking all sets out of the default registry. A set goes by the deactivation of its plugin if that is activated, and else
by its namespace; either way the set is gone and its plugin is not activated (`remove_eq`). The namespaces are looked up
once, before the first set goes, and each of them is still held when its turn comes. Main statement: `reset_eq`, that
the reset succeeds and leaves the empty registry, with those activations that are of no plugin that was held.
-/

namespace BuildScript

namespace Represents

variable {r : Registry} {m : Catalogue}

theorem nodup_spaces (h : Represents r m) : m.spaces.Nodup := by
  rw [← h.keys_sets]
  exact r.sets.nodup

/-- Tables that hold nothing are the empty registry. -/
theorem eq_empty (h : Represents r []) : r = {} := by
  have hsets : r.sets = .empty := Table.eq_of_entries h.sets
  have hfunctions : r.functions = .empty := by
    refine Table.eq_of_entries (List.eq_nil_iff_forall_not_mem.mpr fun e he => ?_)
    obtain ⟨k, d⟩ := e
    obtain ⟨p, hp, -⟩ := (h.functions k d).mp ((r.functions.mem_entries_iff k d).mp he)
    cases hp
  calc r = ⟨r.sets, r.functions⟩ := rfl
    _ = {} := by rw [hsets, hfunctions]

/-- Without the set of its first plugin a registry holds the others. -/
theorem without_head {p : CheckedPlugin} (h : Represents r (p :: m)) : Represents (r.without p.1.space) m := by
  obtain ⟨hfirst, -⟩ := List.nodup_cons.mp h.nodup_spaces
  have hothers : (p :: m).filter (fun q => q.1.space ≠ p.1.space) = m := by
    rw [List.filter_cons_of_neg (by simp)]
    exact List.filter_eq_self.mpr fun q hq => decide_eq_true fun hsame => hfirst (List.mem_map.mpr ⟨q, hq, hsame⟩)
  have hwithout := h.without p.1.space
  rwa [hothers] at hwithout

end Represents

namespace DefaultRegistry

variable {d : DefaultRegistry} {m : Catalogue}

/-- The set of a namespace is taken out, and its plugin is not activated afterwards. -/
theorem remove_eq {space : String} {p : Plugin} (hspace : p.space = space)
    (h : d.registry.sets.get? space = some p) :
    d.remove space = .ok ⟨d.registry.without space, d.activated.filter (· ≠ p.id)⟩ := by
  have hset : d.registry.getSet space = .ok p := by
    unfold Registry.getSet
    rw [h]
  have hout := Registry.unregister_of_get? h
  unfold remove
  rw [hset]
  simp only [bind, Except.bind]
  split
  · rw [deactivate, hspace, hout]
    rfl
  · -- the flag of the plugin is down already, so that taking its activations out takes out nothing
    rename_i hidle
    have hidle' : p.id ∉ d.activated := fun hmem => hidle ((isActivated_iff d p).mpr hmem)
    have hall : d.activated.filter (· ≠ p.id) = d.activated :=
      List.filter_eq_self.mpr fun i hi => decide_eq_true fun hsame => hidle' (hsame ▸ hi)
    rw [hout, hall]
    rfl

/-- The loop over the namespaces that are held. -/
theorem foldlM_remove (h : Represents d.registry m) :
    m.spaces.foldlM remove d = .ok ⟨{}, d.activated.filter fun i => i ∉ m.map (·.1.id)⟩ := by
  induction m generalizing d with
  | nil =>
    have hall : d.activated.filter (fun i => i ∉ ([] : Catalogue).map (·.1.id)) = d.activated :=
      List.filter_eq_self.mpr fun i _ => decide_eq_true List.not_mem_nil
    rw [hall, ← h.eq_empty]
    rfl
  | cons p m ih =>
    have hheld : d.registry.sets.get? p.1.space = some p.1 := by
      rw [h.get?_sets]
      exact h.holder?_of_mem List.mem_cons_self
    -- what is left holds the plugins behind the first one, so the loop goes on as for these alone
    have hrest := ih (d := ⟨d.registry.without p.1.space, d.activated.filter (· ≠ p.1.id)⟩) h.without_head
    have hboth : (d.activated.filter (· ≠ p.1.id)).filter (fun i => i ∉ m.map (·.1.id)) =
        d.activated.filter fun i => i ∉ (p :: m).map (·.1.id) := by
      rw [List.filter_filter]
      refine List.filter_congr fun i _ => ?_
      rw [List.map_cons]
      simp only [List.mem_cons, not_or, Bool.decide_and, Bool.and_comm]
    rw [← hboth, ← hrest, Catalogue.spaces, List.map_cons, List.foldlM_cons, remove_eq rfl hheld]
    rfl

theorem reset_eq (h : Represents d.registry m) :
    d.reset = .ok ⟨{}, d.activated.filter fun i => i ∉ m.map (·.1.id)⟩ := by
  have hspaces : d.registry.namespaces = m.spaces := h.keys_sets
  rw [reset, hspaces]
  exact foldlM_remove h

/-- The one plugin was registered without being activated, and the other is activated without being held. -/
example :
    let p : CheckedPlugin := solePlugin 1 [] (.ok (.text ""))
    DefaultRegistry.reset ⟨Registry.ofChanges [.register p], [2]⟩ = .ok ⟨{}, [2]⟩ := by
  rfl

end DefaultRegistry

end BuildScript
