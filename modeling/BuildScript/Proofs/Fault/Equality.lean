import BuildScript.Fault.Equal
import Mathlib.Data.List.Forall2

/-!
How far the equality of faults reaches. Two faults that are equal hold the same at the head, and what
led directly to them is of one class and says the same (`eq_iff`). The data of what led to them, and
all that lies behind it, is not looked at: unless a fault equals nothing at all, equality reaches its
whole chain exactly if no other fault of the library led to it. Main statement: `eq_reaches_chain`.
-/

namespace BuildScript

/-! ## Classes -/

namespace FaultClass

theorem mem_all (c : FaultClass) : c ∈ all := by
  cases c <;> decide

/-- Of two classes that are special cases of one another each is the other. -/
theorem below_antisymm {a b : FaultClass} (hab : a.below b = true) (hba : b.below a = true) :
    a = b := by
  have hall : ∀ a ∈ all, ∀ b ∈ all, a.below b = true → b.below a = true → a = b := by decide
  exact hall a (mem_all a) b (mem_all b) hab hba

end FaultClass

/-- The names of the library's own classes of errors and failures. -/
def ownNames : List String := "CallFailure" :: "FunctionCallError" :: FaultClass.all.map FaultClass.name

/-- The error is of none of the library's classes. -/
def OtherError.Foreign (e : OtherError) : Prop := e.className ∉ ownNames

/-- The error at the end of the chain, if there is one, comes from outside. -/
def Fault.ForeignRoot (f : Fault) : Prop := ∀ e ∈ f.root, e.Foreign

namespace Link

/-- Two links are of one class, with the same message and equal data. -/
structure Alike (a b : Link) : Prop where
  className : a.className = b.className
  message : a.message = b.message
  data : Value.eq a.data b.data = true

theorem className_mem (l : Link) : l.className ∈ ownNames := by
  cases l with
  | own c m d =>
    have hname : c.name ∈ FaultClass.all.map FaultClass.name :=
      List.mem_map_of_mem (FaultClass.mem_all c)
    exact List.mem_cons_of_mem _ (List.mem_cons_of_mem _ hname)
  | call f d => exact List.mem_cons_of_mem _ List.mem_cons_self

/-- What agrees with a link of whose class it is is like it. -/
theorem alike_of_agrees {a b : Link} (hab : a.below b = true) (hba : b.below a = true)
    (h : a.agrees b = true) : a.Alike b := by
  cases a with
  | own c m d =>
    cases b with
    | own c' m' d' =>
      have hclass : c = c' := FaultClass.below_antisymm hab hba
      simp only [agrees, Bool.and_eq_true, decide_eq_true_eq] at h
      exact ⟨congrArg FaultClass.name hclass, h.1, h.2⟩
    | call f d' => cases hab
  | call f d =>
    cases b with
    | own c' m' d' => cases h
    | call f' d' =>
      simp only [agrees, Bool.and_eq_true, decide_eq_true_eq] at h
      exact ⟨rfl, h.1.2, h.2⟩

end Link

/-! ## What is compared -/

namespace Fault

variable {a b : Fault}

/-- Two faults are equal if their heads are of one class and agree, and what led directly to them is the
same. -/
theorem eq_iff (a b : Fault) :
    a.eq b = true ↔ a.head.below b.head = true ∧ b.head.below a.head = true ∧
      a.head.agrees b.head = true ∧ sameCause a.cause? b.cause? = true := by
  unfold eq accepts
  cases hba : b.head.below a.head <;> cases hab : a.head.below b.head <;> simp

theorem head_alike (h : a.eq b = true) : a.head.Alike b.head := by
  obtain ⟨hab, hba, hagrees, -⟩ := (eq_iff a b).mp h
  exact Link.alike_of_agrees hab hba hagrees

/-- The class and arguments of the error at the end of the chain. -/
def rootCause? (f : Fault) : Option (String × List Value) :=
  f.root.map fun e => (e.className, e.args)

theorem cause?_of_nil (h : a.priors = []) : a.cause? = a.rootCause? := by
  unfold cause? rootCause?
  rw [h]
  cases a.root <;> rfl

theorem cause?_of_cons {l : Link} {ls : List Link} (h : a.priors = l :: ls) :
    a.cause? = some (l.className, [.text l.message]) := by
  unfold cause?
  rw [h]

theorem class_of_sameCause {c c' : Option (String × List Value)} (h : sameCause c c' = true) :
    c.map Prod.fst = c'.map Prod.fst := by
  cases c <;> cases c' <;> simp_all [sameCause]

/-- The error at the end of a chain is of the class of no link. -/
theorem ForeignRoot.class_ne (ha : a.ForeignRoot) (l : Link) :
    a.rootCause?.map Prod.fst ≠ some l.className := by
  intro h
  rw [rootCause?, Option.map_map, Option.map_eq_some_iff] at h
  obtain ⟨e, he, hname⟩ := h
  have hsame : e.className = l.className := hname
  exact ha e he (hsame ▸ l.className_mem)

/-- What led directly to two faults is of one class and has one message. -/
theorem direct_alike {l : Link} {ls : List Link} (hb : b.ForeignRoot) (ha : a.priors = l :: ls)
    (h : a.eq b = true) :
    ∃ l' ls', b.priors = l' :: ls' ∧ l.className = l'.className ∧ l.message = l'.message := by
  obtain ⟨-, -, -, hcause⟩ := (eq_iff a b).mp h
  rw [cause?_of_cons ha] at hcause
  cases hpriors : b.priors with
  | cons l' ls' =>
    rw [cause?_of_cons hpriors] at hcause
    simp only [sameCause, Value.eqAll, Value.eq, Value.eqText, Value.bare, List.isEmpty_nil, Bool.and_true,
      Bool.and_eq_true, decide_eq_true_eq] at hcause
    exact ⟨l', ls', rfl, hcause⟩
  | nil =>
    rw [cause?_of_nil hpriors] at hcause
    exact absurd (class_of_sameCause hcause).symm (hb.class_ne l)

/-- If nothing but an error from outside led to a fault, then the same led to a fault that it equals. -/
theorem priors_eq_nil (ha : a.ForeignRoot) (hnil : a.priors = []) (h : a.eq b = true) :
    b.priors = [] := by
  obtain ⟨-, -, -, hcause⟩ := (eq_iff a b).mp h
  rw [cause?_of_nil hnil] at hcause
  cases hpriors : b.priors with
  | nil => rfl
  | cons l' ls' =>
    rw [cause?_of_cons hpriors] at hcause
    exact absurd (class_of_sameCause hcause) (ha.class_ne l')

/-! ## The whole chain -/

/-- Two chains are of one length and alike at every depth, down to the errors from outside at their
ends. -/
structure ChainAlike (a b : Fault) : Prop where
  links : List.Forall₂ Link.Alike (a.head :: a.priors) (b.head :: b.priors)
  roots : sameCause a.rootCause? b.rootCause? = true

theorem chainAlike_of_nil (ha : a.ForeignRoot) (hnil : a.priors = []) (h : a.eq b = true) :
    a.ChainAlike b := by
  have hnil' : b.priors = [] := priors_eq_nil ha hnil h
  obtain ⟨-, -, -, hcause⟩ := (eq_iff a b).mp h
  rw [cause?_of_nil hnil, cause?_of_nil hnil'] at hcause
  refine ⟨?_, hcause⟩
  rw [hnil, hnil']
  exact .cons (head_alike h) .nil

/-- Whatever led to the direct cause of the right-hand fault, the two are equal all the same. -/
theorem eq_of_priors {l : Link} {ls ls' : List Link} {root : Option OtherError}
    (hb : b.priors = l :: ls) (h : a.eq b = true) :
    a.eq { head := b.head, priors := l :: ls', root } = true := by
  have hcause : ({ head := b.head, priors := l :: ls', root } : Fault).cause? = b.cause? := by
    rw [cause?_of_cons hb]
    rfl
  rw [eq_iff] at h ⊢
  rw [hcause]
  exact h

/-- Equality of faults reaches the head and what led directly to it, and no further: it makes sure that
whole chains are alike exactly if no other fault of the library led to the left-hand one, or if that
equals nothing at all. -/
theorem eq_reaches_chain (a : Fault) (ha : a.ForeignRoot) :
    (∀ b : Fault, b.ForeignRoot → a.eq b = true →
      a.head.Alike b.head ∧ ∀ l ls, a.priors = l :: ls →
        ∃ l' ls', b.priors = l' :: ls' ∧ l.className = l'.className ∧ l.message = l'.message) ∧
    ((∀ b : Fault, b.ForeignRoot → a.eq b = true → a.ChainAlike b) ↔
      a.priors = [] ∨ ∀ b : Fault, b.ForeignRoot → a.eq b = false) := by
  refine ⟨fun b hb h => ⟨head_alike h, fun l ls hl => direct_alike hb hl h⟩, ?_, ?_⟩
  · intro hreaches
    by_contra hnot
    simp only [not_or, not_forall, Bool.not_eq_false] at hnot
    obtain ⟨hpriors, b, hb, h⟩ := hnot
    obtain ⟨l, ls, hl⟩ := List.exists_cons_of_ne_nil hpriors
    obtain ⟨l', ls', hl', -⟩ := direct_alike hb hl h
    -- another chain behind the direct cause, and a longer one
    let c : Fault := { head := b.head, priors := l' :: (l :: ls), root := none }
    have hc : c.ForeignRoot := fun e he => nomatch he
    have halike := hreaches c hc (eq_of_priors hl' h)
    have hlength := halike.links.length_eq
    rw [hl] at hlength
    simp [c] at hlength
  · intro hcases b hb h
    rcases hcases with hnil | hnever
    · exact chainAlike_of_nil ha hnil h
    · rw [hnever b hb] at h
      cases h

/-- Two faults that nothing but an error from outside led to. -/
theorem eq_reaches_chain_value :
    let a := because .config "No file." (.other (.ofText "ValueError" "no"))
    a.ForeignRoot ∧ a.eq a = true ∧ a.priors = [] ∧ a.ChainAlike a := by
  intro a
  have ha : a.ForeignRoot := by
    intro e he
    obtain rfl : OtherError.ofText "ValueError" "no" = e := Option.some.inj he
    exact (by decide : "ValueError" ∉ ownNames)
  have hsame : a.eq a = true := by decide
  exact ⟨ha, hsame, rfl, ((eq_reaches_chain a ha).2.mpr (.inl rfl)) a ha hsame⟩

/-- A fault with two others that led to it, the last of which says `text`. -/
def nested (text : String) : Fault :=
  because .config "outer" (.fault (because .config "inner" (.fault (of .config text))))

/-- Two faults whose chains differ at their ends, and which are equal. -/
theorem eq_of_ends_apart :
    (nested "first").eq (nested "second") = true ∧ (nested "first").text = "outer: inner: first" ∧
      (nested "second").text = "outer: inner: second" ∧
      ¬ (nested "first").ChainAlike (nested "second") := by
  refine ⟨by decide, by decide, by decide, ?_⟩
  intro h
  obtain - | ⟨-, hpriors⟩ := h.links
  obtain - | ⟨-, hpriors⟩ := hpriors
  obtain - | ⟨hlast, -⟩ := hpriors
  exact absurd hlast.message (by decide)

end Fault

end BuildScript
