import BuildScript.FunctionSet.Core
import BuildScript.Proofs.Dispatch.Stages

/-!
Sets that remember nothing. Whether a session has such a set already or makes one in the call, the
set is the same, so a call of its namespace comes to the same in a session without any sets
(`outcome_invoke_empty`), and leaves the set as it was (`Pristine.invoke`). The sets of the library
are of this kind (`Core.forgetful_of_mem`).
-/

namespace BuildScript

/-- Sets of the class remember nothing: a new one has no memory, and no method adds to it. -/
structure SetClass.Forgetful (c : SetClass) : Prop where
  construct_eq : ∀ s, c.construct s = .ok .empty
  memory_run : ∀ name m, c.find? name = some (.method m) →
    ∀ s memory args, (m.run s memory args).memory = memory

/-- The registry holds nothing but this class under a namespace, if it holds anything. -/
def Registry.HoldsOnly (r : Registry) (space : String) (c : SetClass) : Prop :=
  ∀ p, r.getSet space = .ok p → p.cls = c

/-- A session has no set of a namespace, or one of this class as it is when it is new. -/
def Pristine (bs : Bindings) (space : String) (c : SetClass) : Prop :=
  ∀ b, bs.get? space = some b → b = ⟨c, .empty⟩

theorem pristine_empty (space : String) (c : SetClass) : Pristine .empty space c := by
  intro b hb
  cases hb

namespace SetClass.Forgetful

variable {cls : SetClass} {r : Registry} {bs : Bindings} {space : String} {s : Scene}

/-! ## The set of a call -/

theorem eq_of_provides (hcls : cls.Forgetful) (hr : r.HoldsOnly space cls)
    (hbs : Pristine bs space cls) {b : BoundSet} (h : Provides r s bs space b) :
    b = ⟨cls, .empty⟩ := by
  cases h with
  | had hb => exact hbs b hb
  | made _ hp hmade =>
    obtain rfl := hr _ hp
    rw [hcls.construct_eq] at hmade
    rw [← Except.ok.inj hmade]

theorem provides (hcls : cls.Forgetful) (hr : r.HoldsOnly space cls) (hbs : Pristine bs space cls)
    {p : Plugin} (hp : r.getSet space = .ok p) : Provides r s bs space ⟨cls, .empty⟩ := by
  cases hb : bs.get? space with
  | some b =>
    obtain rfl := hbs b hb
    exact .had hb
  | none =>
    obtain rfl := hr p hp
    exact .made hb hp (hcls.construct_eq s)

/-- What is run on a set of the class leaves its memory as it is. -/
theorem memory_run_set {b : BoundSet} (hcls : b.cls.Forgetful) {name : String} {m : Found}
    (hm : b.lookup s name = some m) (args : List Value) :
    (b.run s name m args).memory = b.memory := by
  cases m with
  | uncallable typeName => rfl
  | method m =>
    unfold BoundSet.run
    dsimp only
    split
    · rfl
    · exact hcls.memory_run name m (find?_of_lookup hm) s b.memory args

/-! ## The outcome of a call -/

/-- What a call comes to does not depend on whether the session has the set. -/
theorem performs_of_performs (hcls : cls.Forgetful) {c : Call} {bs' : Bindings}
    (hr : r.HoldsOnly c.space cls) (hbs : Pristine bs c.space cls)
    (hbs' : Pristine bs' c.space cls) {res : Except (Escape ⊕ Fault) Value}
    (h : Performs r s bs c res) : Performs r s bs' c res := by
  have hreach : ∀ {d args b}, Reaches r s bs c d args b → Reaches r s bs' c d args b := by
    intro d args b hb
    obtain ⟨p, hp⟩ := getSet_of_resolve hb.resolved
    obtain rfl := hcls.eq_of_provides hr hbs hb.provided
    exact ⟨hb.resolved, hb.coerced, hcls.provides hr hbs' hp⟩
  cases h with
  | unresolved h => exact .unresolved h
  | refused hd h => exact .refused hd h
  | unmade hd hargs hnone hp h =>
    rw [hr _ hp, hcls.construct_eq] at h
    cases h
  | missing h hno => exact .missing (hreach h) hno
  | ran h hm => exact .ran (hreach h) hm

theorem outcome_perform_empty (hcls : cls.Forgetful) {c : Call} (hr : r.HoldsOnly c.space cls)
    (hbs : Pristine bs c.space cls) :
    (perform r s bs c).outcome = (perform r s .empty c).outcome := by
  have hempty := performs_perform r s .empty c
  exact (hcls.performs_of_performs hr (pristine_empty _ _) hbs hempty).outcome_eq

/-- A call comes to what it comes to in a session without sets. -/
theorem outcome_invoke_empty (hcls : cls.Forgetful) {c : Call} (hr : r.HoldsOnly c.space cls)
    (hbs : Pristine bs c.space cls) :
    (invoke r s bs c).outcome = (invoke r s .empty c).outcome := by
  have houtcome := hcls.outcome_perform_empty (s := s) hr hbs
  unfold invoke
  dsimp only
  rw [houtcome]
  split <;> [rfl; rfl; split <;> rfl]

end SetClass.Forgetful

/-! ## What the session has then -/

namespace Pristine

variable {cls : SetClass} {r : Registry} {bs : Bindings} {space : String}

theorem put (hbs : Pristine bs space cls) {other : String} {b : BoundSet}
    (hb : other = space → b = ⟨cls, .empty⟩) : Pristine (bs.put other b) space cls := by
  intro b' hb'
  rw [Table.get?_put] at hb'
  by_cases hs : space = other
  · rw [if_pos hs, Option.some.injEq] at hb'
    rw [← hb', hb hs.symm]
  · rw [if_neg hs] at hb'
    exact hbs b' hb'

theorem bindSet (hcls : cls.Forgetful) (hr : r.HoldsOnly space cls) (hbs : Pristine bs space cls)
    (s : Scene) (other : String) : Pristine (bindSet r s bs other).bindings space cls := by
  cases hb : bs.get? other with
  | some b =>
    rw [bindSet_of_had r s bs other hb]
    exact hbs
  | none =>
    cases hp : r.getSet other with
    | error e =>
      rw [bindSet_of_free r s bs other hb hp]
      exact hbs
    | ok p =>
      cases hmade : p.cls.construct s with
      | error e =>
        rw [bindSet_of_unmade r s bs other hb hp hmade]
        exact hbs
      | ok memory =>
        rw [bindSet_of_made r s bs other hb hp hmade]
        refine hbs.put fun hs => ?_
        subst hs
        exact hcls.eq_of_provides hr hbs (.made hb hp hmade)

/-- A call leaves the set of the namespace as it was. -/
theorem invoke (hcls : cls.Forgetful) (hr : r.HoldsOnly space cls) (hbs : Pristine bs space cls)
    (s : Scene) (c : Call) : Pristine (invoke r s bs c).bindings space cls := by
  have hbound := hbs.bindSet hcls hr s c.space
  rw [bindings_invoke]
  rcases stage_cases r s bs c with
    ⟨e, h⟩ | ⟨d, hd, ⟨i, a, t, e, h⟩ | ⟨args, hargs, ⟨p, e, hnone, hp, h⟩ | ⟨b, hb⟩⟩⟩
  · rw [perform_of_unresolved h]
    exact hbs
  · rw [perform_of_refused hd h]
    exact hbs
  · rw [perform_of_coerced hd hargs, runFunction_of_unmade _ hnone hp h]
    exact hbs
  · have hreach : Reaches r s bs c d args b := ⟨hd, hargs, hb⟩
    cases hm : b.lookup s d.method with
    | none =>
      rw [hreach.perform_of_missing hm]
      exact hbound
    | some m =>
      rw [hreach.perform_of_found hm]
      refine hbound.put fun hs => ?_
      subst hs
      obtain rfl := hcls.eq_of_provides hr hbs hb
      rw [hcls.memory_run_set hm]

theorem callAll (hcls : cls.Forgetful) (hr : r.HoldsOnly space cls) (hbs : Pristine bs space cls)
    (s : Scene) (cs : List Call) : Pristine (callAll r s bs cs).bindings space cls := by
  induction cs generalizing bs with
  | nil => exact hbs
  | cons c cs ih =>
    have hcall : Pristine (call r s bs c).bindings space cls := hbs.invoke hcls hr s c
    unfold BuildScript.callAll
    dsimp only
    split
    · exact hcall
    · exact ih hcall

end Pristine

/-! ## The sets of the library -/

namespace Core

theorem mem_of_foldl_put {methods : List (String × Method)} {t : Table String Attribute}
    {name : String} {m : Method}
    (h : (methods.foldl (fun t m => t.put m.1 (.method m.2)) t).get? name = some (.method m)) :
    (∃ e ∈ methods, e.2 = m) ∨ t.get? name = some (.method m) := by
  induction methods generalizing t with
  | nil => exact .inr h
  | cons e rest ih =>
    rcases ih h with ⟨e', he', hm⟩ | ht
    · exact .inl ⟨e', List.mem_cons_of_mem _ he', hm⟩
    · rw [Table.get?_put] at ht
      by_cases hname : name = e.1
      · rw [if_pos hname, Option.some.injEq, Attribute.method.injEq] at ht
        exact .inl ⟨e, List.mem_cons_self, ht⟩
      · rw [if_neg hname] at ht
        exact .inr ht

/-- What every set inherits leaves the memory as it is. -/
theorem memory_run_shared (shownBuiltin : String → String) :
    ∀ e ∈ Inherited.shared shownBuiltin, ∀ s memory args, (e.2.run s memory args).memory = memory := by
  simp only [Inherited.shared, List.forall_mem_cons]
  and_intros
  all_goals first
    | exact fun _ _ _ => rfl
    | exact fun _ h => absurd h List.not_mem_nil

/-- The sets of a class of the library remember nothing if each of its methods leaves the memory
as it is. -/
theorem forgetful_setClass (id : Nat) (name file space doc : String) (entries : List Entry)
    {methods : List (String × Method)}
    (h : ∀ e ∈ methods, ∀ s memory args, (e.2.run s memory args).memory = memory) :
    (setClass id name file space doc entries methods).Forgetful where
  construct_eq _ := rfl
  memory_run name m hm := by
    unfold SetClass.find? at hm
    split at hm
    · rename_i hattr
      cases hm
      rcases mem_of_foldl_put hattr with ⟨e, he, rfl⟩ | hnone
      · exact h e he
      · cases hnone
    · cases hm
    · split at hm
      · rename_i hshared
        cases hm
        exact memory_run_shared _ _ (mem_of_lookup hshared)
      · rw [Option.map_eq_some_iff] at hm
        obtain ⟨x, -, hx⟩ := hm
        cases hx

theorem forgetful_of_mem {file : String} {c : SetClass} (h : c ∈ classes file) : c.Forgetful := by
  simp only [classes, List.mem_cons, List.not_mem_nil, or_false] at h
  rcases h with rfl | rfl | rfl | rfl | rfl | rfl | rfl
  all_goals
    refine forgetful_setClass _ _ _ _ _ _ ?_
    simp only [List.forall_mem_cons]
    and_intros
    all_goals first
      | exact fun _ _ _ => rfl
      | exact fun _ h => absurd h List.not_mem_nil

end Core

end BuildScript
