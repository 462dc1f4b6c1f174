import BuildScript.Activation
import BuildScript.Proofs.Dispatch.History

/-!
Activation flags against what the default registry holds, after every history of activations and
deactivations, those that raise among them.

A plugin whose class has a file is activated while it is held (`activated_of_holds`). The converse
fails: a deactivation takes out whatever set holds the namespace, be it that of another plugin, whose
flag stays. `Ousted` names the histories in which this has happened to a plugin. A plugin whose class
has no file is never marked as activated: its activation raises, though it comes to be held. Main
statement: `isActivated_iff_holds`, that the flag of a plugin tells the truth exactly if the plugin
has not been ousted, or that it is never set.
-/

namespace BuildScript

/-- A plugin is activated or deactivated. -/
inductive Switch where
  | on (p : Plugin)
  | off (p : Plugin)

/-- The plugin that is activated or deactivated. -/
def Switch.plugin : Switch → Plugin
  | .on p => p
  | .off p => p

namespace DefaultRegistry

/-- Activates or deactivates a plugin. -/
def switch (d : DefaultRegistry) : Switch → Changed DefaultRegistry
  | .on p => d.activate p
  | .off p =>
    match d.deactivate p with
    | .ok d' => ⟨d', none⟩
    | .error e => ⟨d, some (.refused e)⟩

/-- The state after a plugin is activated or deactivated, whether that raises or not. -/
def after (d : DefaultRegistry) (a : Switch) : DefaultRegistry := (d.switch a).state

/-- The state that a history of activations and deactivations leads to. -/
def ofSwitches (as : List Switch) : DefaultRegistry := as.foldl after {}

/-- The registry holds this very plugin under its namespace. -/
def Holds (d : DefaultRegistry) (p : Plugin) : Prop := d.registry.sets.get? p.space = some p

/-- Activating or deactivating the plugin raises. -/
def Raises (d : DefaultRegistry) (a : Switch) : Prop := ∃ e, (d.switch a).error = some e

/-- Another plugin of the namespace was deactivated while this one was held, and since then every
activation or deactivation of this one raised. -/
def Ousted (as : List Switch) (p : Plugin) : Prop :=
  ∃ before q rest, as = before ++ .off q :: rest ∧ q ≠ p ∧ q.space = p.space ∧
    (ofSwitches before).Holds p ∧
    ∀ mid a more, rest = mid ++ a :: more → a.plugin = p →
      (ofSwitches (before ++ .off q :: mid)).Raises a

theorem ofSwitches_concat (as : List Switch) (a : Switch) :
    ofSwitches (as ++ [a]) = (ofSwitches as).after a := by
  unfold ofSwitches
  rw [List.foldl_append, List.foldl_cons, List.foldl_nil]

/-! ## One activation or deactivation -/

section Step

variable {d : DefaultRegistry} {p : Plugin}

theorem activate_of_takes (h : d.registry.Takes p) :
    d.activate p =
      ⟨{ registry := d.registry.add p
         activated := if p.cls.unfiled? = none then p.id :: d.activated else d.activated },
        p.cls.unfiled?.map .noFile⟩ := by
  unfold activate
  rw [Registry.register_of_takes h]
  cases p.cls.unfiled? <;> rfl

theorem activate_of_not_takes (h : ¬ d.registry.Takes p) : ∃ e, d.activate p = ⟨d, some e⟩ := by
  obtain ⟨e, he⟩ := Registry.register_of_not_takes h
  refine ⟨e, ?_⟩
  unfold activate
  rw [he]

theorem switch_on (d : DefaultRegistry) (p : Plugin) : d.switch (.on p) = d.activate p := rfl

theorem switch_off (d : DefaultRegistry) (p : Plugin) :
    d.switch (.off p) =
      if d.registry.sets.contains p.space then
        ⟨{ registry :=
            { sets := d.registry.sets.erase p.space
              functions := d.registry.functions.filter fun k => k.space ≠ p.space }
           activated := d.activated.filter (· ≠ p.id) }, none⟩
      else ⟨d, some (.refused (.notRegistered p.space))⟩ := by
  rw [switch, deactivate, Registry.unregister]
  by_cases h : d.registry.sets.contains p.space = true
  · rw [if_pos h, if_pos h]
    rfl
  · rw [if_neg h, if_neg h]
    rfl

/-- An activation that raises may yet have registered the plugin: it does not if the set is taken
and its file is found. -/
theorem raises_on_iff : d.Raises (.on p) ↔ ¬ (d.registry.Takes p ∧ p.cls.unfiled? = none) := by
  unfold Raises
  rw [switch_on]
  by_cases h : d.registry.Takes p
  · rw [activate_of_takes h]
    cases p.cls.unfiled? <;> simp [h]
  · obtain ⟨e, he⟩ := activate_of_not_takes h
    rw [he]
    simp [h]

theorem raises_off_iff : d.Raises (.off p) ↔ ¬ d.registry.sets.contains p.space = true := by
  unfold Raises
  rw [switch_off]
  by_cases h : d.registry.sets.contains p.space = true
  · rw [if_pos h]
    simp [h]
  · rw [if_neg h]
    simp [h]

theorem isActivated_iff (d : DefaultRegistry) (p : Plugin) :
    d.isActivated p = true ↔ p.id ∈ d.activated := by
  unfold isActivated
  rw [List.contains_iff_mem]

theorem isActivated_after_on (d : DefaultRegistry) (p r : Plugin) :
    (d.after (.on p)).isActivated r = true ↔
      (r.id = p.id ∧ d.registry.Takes p ∧ p.cls.unfiled? = none) ∨ d.isActivated r = true := by
  rw [isActivated_iff, isActivated_iff, after, switch_on]
  by_cases h : d.registry.Takes p
  · rw [activate_of_takes h]
    by_cases hfile : p.cls.unfiled? = none
    · simp [h, hfile]
    · simp [hfile]
  · obtain ⟨e, he⟩ := activate_of_not_takes h
    rw [he]
    simp [h]

theorem isActivated_after_off (d : DefaultRegistry) (p r : Plugin) :
    (d.after (.off p)).isActivated r = true ↔
      d.isActivated r = true ∧ ¬ (r.id = p.id ∧ d.registry.sets.contains p.space = true) := by
  rw [isActivated_iff, isActivated_iff, after, switch_off]
  by_cases h : d.registry.sets.contains p.space = true
  · rw [if_pos h]
    simp [h]
  · rw [if_neg h]
    simp [h]

/-- A plugin that is taken is held, whether its activation raises or not. -/
theorem holds_after_on (d : DefaultRegistry) (p r : Plugin) :
    (d.after (.on p)).Holds r ↔ (r = p ∧ d.registry.Takes p) ∨ d.Holds r := by
  rw [Holds, Holds, after, switch_on]
  by_cases h : d.registry.Takes p
  · rw [activate_of_takes h, Registry.add, Table.get?_put]
    by_cases hspace : r.space = p.space
    · rw [if_pos hspace, hspace, h.free]
      simp [h, eq_comm]
    · have hne : r ≠ p := fun e => hspace (congrArg Plugin.space e)
      rw [if_neg hspace]
      simp [hne]
  · obtain ⟨e, he⟩ := activate_of_not_takes h
    rw [he]
    simp [h]

/-- A deactivation takes out whatever the namespace holds, and nothing else. -/
theorem holds_after_off (d : DefaultRegistry) (p r : Plugin) :
    (d.after (.off p)).Holds r ↔ d.Holds r ∧ r.space ≠ p.space := by
  rw [Holds, Holds, after, switch_off]
  by_cases h : d.registry.sets.contains p.space = true
  · rw [if_pos h, Table.get?_erase]
    by_cases hspace : r.space = p.space <;> simp [hspace]
  · rw [if_neg h]
    refine ⟨fun hr => ⟨hr, fun hspace => h ?_⟩, fun hr => hr.1⟩
    rw [← hspace, Table.contains, hr]
    rfl

/-- A plugin can be deactivated while its namespace is held, by whichever plugin. -/
theorem contains_of_holds {q : Plugin} (h : d.Holds q) (hspace : p.space = q.space) :
    d.registry.sets.contains p.space = true := by
  rw [hspace, Table.contains, h]
  rfl

end Step

/-! ## Histories -/

/-- A step of a history with one more at its end is that one, or one before it. -/
theorem concat_eq_append_cons {α : Type} {as before rest : List α} {a b : α}
    (h : as ++ [a] = before ++ b :: rest) :
    (as = before ∧ a = b ∧ rest = []) ∨ ∃ mid, rest = mid ++ [a] ∧ as = before ++ b :: mid := by
  rcases List.eq_nil_or_concat' rest with rfl | ⟨mid, z, rfl⟩
  · obtain ⟨rfl, hlast⟩ := List.append_inj' h rfl
    exact .inl ⟨rfl, List.singleton_inj.mp hlast, rfl⟩
  · rw [← List.cons_append, ← List.append_assoc] at h
    obtain ⟨rfl, hlast⟩ := List.append_inj' h rfl
    exact .inr ⟨mid, by rw [List.singleton_inj.mp hlast], rfl⟩

/-- After one more step a plugin is ousted if it was and has not been touched, or if this step has
done it. -/
theorem ousted_concat_iff (as : List Switch) (a : Switch) (p : Plugin) :
    Ousted (as ++ [a]) p ↔
      (Ousted as p ∧ (a.plugin = p → (ofSwitches as).Raises a)) ∨
        ∃ q, a = .off q ∧ q ≠ p ∧ q.space = p.space ∧ (ofSwitches as).Holds p := by
  constructor
  · rintro ⟨before, q, rest, hsplit, hne, hspace, hheld, hsince⟩
    rcases concat_eq_append_cons hsplit with ⟨rfl, rfl, -⟩ | ⟨mid, rfl, rfl⟩
    · exact .inr ⟨q, rfl, hne, hspace, hheld⟩
    · refine .inl ⟨⟨before, q, mid, rfl, hne, hspace, hheld, ?_⟩, hsince mid a [] rfl⟩
      rintro mid' b more rfl hb
      refine hsince mid' b (more ++ [a]) ?_ hb
      rw [List.append_assoc, List.cons_append]
  · rintro (⟨⟨before, q, rest, rfl, hne, hspace, hheld, hsince⟩, hlast⟩ |
      ⟨q, rfl, hne, hspace, hheld⟩)
    · refine ⟨before, q, rest ++ [a], by simp, hne, hspace, hheld, ?_⟩
      intro mid b more hsplit hb
      rcases concat_eq_append_cons hsplit with ⟨rfl, rfl, -⟩ | ⟨more', -, rfl⟩
      · exact hlast hb
      · exact hsince mid b more' rfl hb
    · refine ⟨as, q, [], rfl, hne, hspace, hheld, ?_⟩
      intro mid b more hsplit
      exact absurd hsplit (by simp)

/-- What a history says of the flag of a plugin and of what is held. -/
structure Accounts (as : List Switch) (p : Plugin) : Prop where
  filed_of_activated : (ofSwitches as).isActivated p = true → p.cls.unfiled? = none
  activated_of_holds :
    p.cls.unfiled? = none → (ofSwitches as).Holds p → (ofSwitches as).isActivated p = true
  ousted_iff : p.cls.unfiled? = none →
    (Ousted as p ↔ (ofSwitches as).isActivated p = true ∧ ¬ (ofSwitches as).Holds p)

theorem Accounts.nil (p : Plugin) : Accounts [] p where
  filed_of_activated h := by cases h
  activated_of_holds _ h := by cases h
  ousted_iff _ := by
    have hflag : (ofSwitches []).isActivated p = false := rfl
    have hno : ¬ Ousted [] p := by
      rintro ⟨before, q, rest, h, -⟩
      exact absurd h (by simp)
    simp [hflag, hno]

section Concat

variable {as : List Switch} {p q : Plugin}

/-- A step of the plugin itself that does not raise leaves it not ousted. -/
theorem not_ousted_concat {a : Switch} (ha : ¬ (ofSwitches as).Raises a) (hp : a.plugin = p) :
    ¬ Ousted (as ++ [a]) p := by
  rw [ousted_concat_iff]
  rintro (⟨-, hlast⟩ | ⟨r, rfl, hne, -⟩)
  · exact ha (hlast hp)
  · exact hne hp

theorem Accounts.on_self (h : Accounts as p) : Accounts (as ++ [.on p]) p := by
  have hflag := isActivated_after_on (ofSwitches as) p p
  have hholds := holds_after_on (ofSwitches as) p p
  rw [← ofSwitches_concat] at hflag hholds
  refine ⟨?_, ?_, ?_⟩
  · rw [hflag]
    rintro (⟨-, -, hfile⟩ | hact)
    · exact hfile
    · exact h.filed_of_activated hact
  · intro hfile
    rw [hflag, hholds]
    rintro (⟨-, htakes⟩ | hheld)
    · exact .inl ⟨rfl, htakes, hfile⟩
    · exact .inr (h.activated_of_holds hfile hheld)
  · intro hfile
    by_cases htakes : (ofSwitches as).registry.Takes p
    · -- it is taken and marked, so it is held from now on
      refine iff_of_false ?_ fun hx => hx.2 (hholds.mpr (.inl ⟨rfl, htakes⟩))
      exact not_ousted_concat (fun hr => raises_on_iff.mp hr ⟨htakes, hfile⟩) rfl
    · have hraises : (ofSwitches as).Raises (.on p) := raises_on_iff.mpr fun hx => htakes hx.1
      rw [hflag, hholds, ousted_concat_iff, h.ousted_iff hfile]
      simp [htakes, hraises]

theorem Accounts.on_other (h : Accounts as p) (hid : q.id ≠ p.id) : Accounts (as ++ [.on q]) p := by
  have hne : q ≠ p := fun e => hid (congrArg Plugin.id e)
  have hflag := isActivated_after_on (ofSwitches as) q p
  have hholds := holds_after_on (ofSwitches as) q p
  rw [← ofSwitches_concat] at hflag hholds
  simp only [hid.symm, hne.symm, false_and, false_or] at hflag hholds
  refine ⟨by rw [hflag]; exact h.filed_of_activated, ?_, ?_⟩
  · rw [hflag, hholds]
    exact h.activated_of_holds
  · intro hfile
    rw [hflag, hholds, ousted_concat_iff, h.ousted_iff hfile]
    simp [Switch.plugin, hne]

theorem Accounts.off_self (h : Accounts as p) : Accounts (as ++ [.off p]) p := by
  have hflag := isActivated_after_off (ofSwitches as) p p
  have hholds := holds_after_off (ofSwitches as) p p
  rw [← ofSwitches_concat] at hflag hholds
  refine ⟨fun hact => h.filed_of_activated (hflag.mp hact).1,
    fun _ hheld => absurd rfl (hholds.mp hheld).2, ?_⟩
  intro hfile
  by_cases hheld : (ofSwitches as).registry.sets.contains p.space = true
  · refine iff_of_false ?_ fun hx => (hflag.mp hx.1).2 ⟨rfl, hheld⟩
    exact not_ousted_concat (fun hr => raises_off_iff.mp hr hheld) rfl
  · -- nothing is held under the namespace, so nothing has changed
    have hno : ¬ (ofSwitches as).Holds p := fun hp => hheld (contains_of_holds hp rfl)
    have hraises : (ofSwitches as).Raises (.off p) := raises_off_iff.mpr hheld
    rw [hflag, hholds, ousted_concat_iff, h.ousted_iff hfile]
    simp [hheld, hno, hraises]

theorem Accounts.off_other (h : Accounts as p) (hid : q.id ≠ p.id) :
    Accounts (as ++ [.off q]) p := by
  have hne : q ≠ p := fun e => hid (congrArg Plugin.id e)
  have hflag := isActivated_after_off (ofSwitches as) q p
  have hholds := holds_after_off (ofSwitches as) q p
  rw [← ofSwitches_concat] at hflag hholds
  simp only [hid.symm, false_and, not_false_iff, and_true] at hflag
  refine ⟨by rw [hflag]; exact h.filed_of_activated, ?_, ?_⟩
  · rw [hflag, hholds]
    exact fun hfile hheld => h.activated_of_holds hfile hheld.1
  · intro hfile
    -- the plugin was ousted before, or it is held and goes out with this step
    rw [hflag, hholds, ousted_concat_iff, h.ousted_iff hfile]
    have hact := h.activated_of_holds hfile
    have hspace : q.space = p.space ↔ p.space = q.space := eq_comm
    simp only [Switch.plugin, hne, Switch.off.injEq, exists_eq_left', hspace]
    tauto

theorem Accounts.concat (h : Accounts as p) (a : Switch) (hid : a.plugin.id = p.id → a.plugin = p) :
    Accounts (as ++ [a]) p := by
  by_cases hsame : a.plugin.id = p.id
  · obtain rfl : a.plugin = p := hid hsame
    cases a with
    | on q => exact h.on_self
    | off q => exact h.off_self
  · cases a with
    | on q => exact h.on_other hsame
    | off q => exact h.off_other hsame

end Concat

/-- What is said of a plugin holds after every history of plugins that are told apart. -/
theorem accounts_of_history {ps : Set Plugin} (hps : ps.InjOn Plugin.id) {as : List Switch}
    (has : ∀ a ∈ as, a.plugin ∈ ps) {p : Plugin} (hp : p ∈ ps) : Accounts as p := by
  induction as using List.reverseRecOn with
  | nil => exact .nil p
  | append_singleton as a ih =>
    have hbefore : ∀ b ∈ as, b.plugin ∈ ps := fun b hb => has b (List.mem_append_left _ hb)
    have hlast : a.plugin ∈ ps := has a (List.mem_append_right _ (List.mem_singleton_self a))
    exact (ih hbefore).concat a fun hid => hps hlast hp hid

/-- After every history of activations and deactivations of a collection of plugins, those that raised
among them: the flag of a plugin whose class has a file says whether the registry holds it, exactly if
it has not been ousted, and the plugin is activated in any case while it is held; the flag of one
whose class has no file is not set; an activation leaves a plugin held if it was held or is taken,
whether it raises or not; and a deactivation takes out the plugin that is held under its namespace,
and none under any other. -/
theorem isActivated_iff_holds (ps : Set Plugin) (hps : ps.InjOn Plugin.id) (as : List Switch)
    (has : ∀ a ∈ as, a.plugin ∈ ps) (p : Plugin) (hp : p ∈ ps) :
    (p.cls.unfiled? = none →
      (((ofSwitches as).isActivated p = true ↔ (ofSwitches as).Holds p) ↔ ¬ Ousted as p) ∧
        ((ofSwitches as).Holds p → (ofSwitches as).isActivated p = true)) ∧
      (p.cls.unfiled? ≠ none → (ofSwitches as).isActivated p = false) ∧
      (((ofSwitches as).after (.on p)).Holds p ↔
        (ofSwitches as).registry.Takes p ∨ (ofSwitches as).Holds p) ∧
      ∀ q, (ofSwitches as).Holds p →
        (((ofSwitches as).after (.off q)).Holds p ↔ p.space ≠ q.space) := by
  have h : Accounts as p := accounts_of_history hps has hp
  refine ⟨?_, ?_, ?_, ?_⟩
  · intro hfile
    refine ⟨?_, h.activated_of_holds hfile⟩
    have hact := h.activated_of_holds hfile
    rw [h.ousted_iff hfile]
    tauto
  · intro hfile
    exact Bool.eq_false_iff.mpr fun hact => hfile (h.filed_of_activated hact)
  · rw [holds_after_on]
    exact or_congr_left (and_iff_right rfl)
  · intro q hheld
    rw [holds_after_off]
    exact and_iff_right hheld

/-- Two plugins of one namespace: the one that comes to be held, -/
def holder : Plugin := (solePlugin 1 [] (.ok (.text ""))).1

/-- and the one that is only deactivated. -/
def rival : Plugin := (solePlugin 2 [] (.ok (.text ""))).1

/-- The first is activated, and then the other is deactivated. -/
def rivalry : List Switch := [.on holder, .off rival]

theorem ousted_rivalry : Ousted rivalry holder := by
  refine (ousted_concat_iff [.on holder] (.off rival) holder).mpr (.inr ⟨rival, rfl, ?_, rfl, rfl⟩)
  intro h
  have hid : (2 : Nat) = 1 := congrArg Plugin.id h
  cases hid

/-- The two are told apart, and the first is ousted; so its flag does not say what is held. -/
theorem rivalry_isActivated :
    Set.InjOn Plugin.id {holder, rival} ∧
      (∀ a ∈ rivalry, a.plugin ∈ ({holder, rival} : Set Plugin)) ∧ Ousted rivalry holder ∧
      ¬ ((ofSwitches rivalry).isActivated holder = true ↔ (ofSwitches rivalry).Holds holder) := by
  have hids : Set.InjOn Plugin.id {holder, rival} := by
    rintro p (rfl | rfl) q (rfl | rfl) h
    · rfl
    · cases h
    · cases h
    · rfl
  have hmem : ∀ a ∈ rivalry, a.plugin ∈ ({holder, rival} : Set Plugin) := by
    intro a ha
    rcases List.mem_pair.mp ha with rfl | rfl
    · exact .inl rfl
    · exact .inr rfl
  refine ⟨hids, hmem, ousted_rivalry, ?_⟩
  intro h
  exact ((isActivated_iff_holds _ hids rivalry hmem holder (.inl rfl)).1 rfl).1.mp h ousted_rivalry

/-- The plugin that was activated is marked as such, and the registry does not hold it. -/
theorem not_holds_activated :
    (ofSwitches rivalry).isActivated holder = true ∧ ¬ (ofSwitches rivalry).Holds holder := by
  refine ⟨rfl, ?_⟩
  intro h
  cases h

end DefaultRegistry

end BuildScript
