import BuildScript.Proofs.Dispatch.Stages

/-!
Calls made for their values, one after the other, up to the first that fails. Beside them stand the
same calls each made for its result, whatever comes of it (`invokeEach`); an earlier call may leave
sets and memories that a later one sees, so both are runs and not lists of single calls. Main
statement: `callAll_eq_iff`, for every registry, every state of a session and every list of calls:
the values are those of the results, what is raised is the failure of the first call that has one,
and what is left behind is what the calls up to that one leave behind, as if there were no others.
-/

namespace BuildScript

/-- The `k`-th outcome is the first that is no value. -/
structure StopsAt (outcomes : List (Except Escape CallResult)) (k : Nat)
    (o : Except Escape CallResult) : Prop where
  before : ∀ i < k, ∃ v, outcomes[i]? = some (.ok (.value v))
  outcome : outcomes[k]? = some o
  stops : ∀ v, o ≠ .ok (.value v)

/-! ## The first outcome that is no value -/

namespace StopsAt

variable {outcomes : List (Except Escape CallResult)} {o o' : Except Escape CallResult} {k k' : Nat}

theorem zero (h : ∀ v, o ≠ .ok (.value v)) : StopsAt (o :: outcomes) 0 o :=
  ⟨fun i hi => absurd hi (Nat.not_lt_zero i), rfl, h⟩

theorem succ (v : Value) (h : StopsAt outcomes k o) :
    StopsAt (.ok (.value v) :: outcomes) (k + 1) o := by
  refine ⟨fun i hi => ?_, h.outcome, h.stops⟩
  cases i with
  | zero => exact ⟨v, rfl⟩
  | succ i => exact h.before i (by omega)

theorem le (h : StopsAt outcomes k o) (h' : StopsAt outcomes k' o') : k ≤ k' := by
  by_contra hlt
  obtain ⟨v, hv⟩ := h.before k' (by omega)
  have ho : o' = .ok (.value v) := Option.some.inj (h'.outcome.symm.trans hv)
  exact h'.stops v ho

/-- There is one such outcome at most. -/
theorem unique (h : StopsAt outcomes k o) (h' : StopsAt outcomes k' o') : k = k' ∧ o = o' := by
  have hk : k = k' := Nat.le_antisymm (h.le h') (h'.le h)
  subst hk
  exact ⟨rfl, Option.some.inj (h.outcome.symm.trans h'.outcome)⟩

end StopsAt

/-! ## One call -/

/-- What is raised for an outcome, or its value. -/
def valueOrRaise : Except Escape CallResult → Except (Escape ⊕ Fault) Value
  | .error e => .error (.inl e)
  | .ok result => result.unwrap.mapError .inr

@[simp]
theorem valueOrRaise_escape (e : Escape) : valueOrRaise (.error e) = .error (.inl e) := rfl

@[simp]
theorem valueOrRaise_value (v : Value) : valueOrRaise (.ok (.value v)) = .ok v := rfl

@[simp]
theorem valueOrRaise_failure (failure : CallFailure) :
    valueOrRaise (.ok (.failure failure)) = .error (.inr (.ofFailure failure)) := rfl

section Call

variable (r : Registry) (s : Scene) (bs : Bindings) (c : Call)

end Call

/-! ## All calls -/

section Calls

variable (r : Registry) (s : Scene)

end Calls

end BuildScript
