import BuildScript.Proofs.Dispatch.History

/-!
What escapes from a call. Everything that goes wrong is meant to come back as a failure of the
call; five things do not, and `Escapes` names them: an integer that is too large for a
floating-point parameter, a set that was made before another was registered and lacks the method, a
method that only classes have, an error from outside that has no text, and an argument that the message
of a failure cannot show. Main statement: `exists_result_iff`, that after every history a call has a
result exactly if none of the five is the case.
-/

namespace BuildScript

/-- A call raises something: the constructor of its set does, or what is found under the name of
its method. The text is what is said of it. -/
inductive Raises (r : Registry) (s : Scene) (bs : Bindings) (c : Call) :
    String → Raised → Prop where
  | making {d : Descriptor} {args : List Value} {p : Plugin} {e : Raised}
      (hd : r.resolve c.space c.function c.args.length = .ok d)
      (hargs : Coerced c.args d.params args) (hnone : bs.get? c.space = none)
      (hp : r.getSet c.space = .ok p) (h : p.cls.construct s = .error e) :
      Raises r s bs c ("Could not create the '" ++ c.space ++ "' function set") e
  | running {d : Descriptor} {args : List Value} {b : BoundSet} {m : Found} {e : Raised}
      (h : Reaches r s bs c d args b) (hm : b.lookup s d.method = some m)
      (hrun : (b.run s d.method m args).result = .error e) :
      Raises r s bs c "Function call failed" e

/-- A call goes wrong in a way that a failure is meant for. -/
inductive Fails (r : Registry) (s : Scene) (bs : Bindings) (c : Call) : Prop where
  | unresolved {e : RegistryError} (h : r.resolve c.space c.function c.args.length = .error e)
  | mismatch {d : Descriptor} {i : Nat} {a : Value} {t : TypeName} {m : Mismatch}
      (hd : r.resolve c.space c.function c.args.length = .ok d)
      (h : FirstRefused c.args d.params i a t (.mismatch m))
  | raised {what : String} {e : Raised} (h : Raises r s bs c what e)

/-- Why a call has no result. -/
inductive Escapes (r : Registry) (s : Scene) (bs : Bindings) (c : Call) : Prop where
  /-- The leftmost argument that is not coerced is an integer too large for its parameter. -/
  | tooLarge {d : Descriptor} {i : Nat} {a : Value} {n : Int} {e : CoercionError}
      (hd : r.resolve c.space c.function c.args.length = .ok d)
      (h : FirstRefused c.args d.params i a .float e) (ha : a.bare = .int n)
      (hn : Number.Binary64.ofInt? n = none)
  /-- The session has a set of another class than the one that is held, and it lacks the method. -/
  | stale {d : Descriptor} {args : List Value} {b : BoundSet} {p : Plugin}
      (hd : r.resolve c.space c.function c.args.length = .ok d)
      (hargs : Coerced c.args d.params args) (hb : bs.get? c.space = some b)
      (hp : r.getSet c.space = .ok p) (hcls : b.cls ≠ p.cls) (hno : b.lookup s d.method = none)
  /-- The method is one that the language gives to classes only, and no set has it. -/
  | unshared {d : Descriptor} {args : List Value} {b : BoundSet} {p : Plugin}
      (h : Reaches r s bs c d args b) (hp : r.getSet c.space = .ok p)
      (hname : d.method ∈ p.cls.classNames) (hno : b.lookup s d.method = none)
  /-- What was raised is no fault of a function, and its text cannot be shown. -/
  | textless {what : String} {e : Raised} {o : Obstacle} (h : Raises r s bs c what e)
      (hf : e.functionFault? = none) (ho : e.obstacle? = some o)
  /-- The call fails, and one of its arguments cannot be shown. -/
  | unshown {a : Value} {o : Obstacle} (h : Fails r s bs c) (ha : a ∈ c.args)
      (ho : a.obstacle? = some o)

section Stages

variable {r : Registry} {s : Scene} {bs : Bindings} {c : Call}

theorem Call.obstacle?_eq_none_iff (c : Call) :
    c.obstacle? = none ↔ ∀ a ∈ c.args, a.obstacle? = none :=
  Value.obstacleAll?_eq_none_iff c.args

/-- Some argument cannot be shown exactly if the call cannot. -/
theorem Call.exists_obstacle {c : Call} {a : Value} {o : Obstacle} (ha : a ∈ c.args)
    (ho : a.obstacle? = some o) : ∃ o', c.obstacle? = some o' := by
  rw [← Option.ne_none_iff_exists']
  intro hnone
  have h := c.obstacle?_eq_none_iff.mp hnone a ha
  rw [ho] at h
  cases h

/-! ## What becomes of what is raised -/

theorem Raised.wrapped_of_fault {e : Raised} {f : Fault} (what : String)
    (h : e.functionFault? = some f) : e.wrapped what = .inr f := by
  unfold Raised.wrapped
  rw [h]

theorem Raised.wrapped_of_obstacle {e : Raised} {o : Obstacle} (what : String)
    (h : e.functionFault? = none) (ho : e.obstacle? = some o) :
    e.wrapped what = .inl (.unshowable o) := by
  unfold Raised.wrapped
  rw [h, ho]

theorem Raised.wrapped_of_text {e : Raised} (what : String) (h : e.functionFault? = none)
    (ho : e.obstacle? = none) :
    e.wrapped what = .inr (.because .invocation (what ++ ": " ++ e.text) e) := by
  unfold Raised.wrapped
  rw [h, ho]

/-- What escapes of what is raised is that it has no text. -/
theorem Raised.wrapped_eq_inl {e : Raised} {what : String} {x : Escape}
    (h : e.wrapped what = .inl x) : e.functionFault? = none ∧ ∃ o, e.obstacle? = some o := by
  unfold Raised.wrapped at h
  split at h
  · cases h
  · rename_i o hf ho
    exact ⟨hf, o, ho⟩
  · cases h

theorem Raises.outcome_eq {what : String} {e : Raised} (h : Raises r s bs c what e) :
    (perform r s bs c).outcome = .error (e.wrapped what) := by
  cases h with
  | making hd hargs hnone hp h => exact (Performs.unmade hd hargs hnone hp h).outcome_eq
  | running h hm hrun =>
    rw [(Performs.ran h hm).outcome_eq, hrun]
    rfl

theorem Fails.outcome_eq (h : Fails r s bs c) : ∃ x, (perform r s bs c).outcome = .error x := by
  cases h with
  | unresolved h => exact ⟨_, (Performs.unresolved h).outcome_eq⟩
  | mismatch hd h => exact ⟨_, (Performs.refused hd h).outcome_eq⟩
  | raised h => exact ⟨_, h.outcome_eq⟩

/-- Where a call goes wrong. -/
theorem perform_error_cases {x : Escape ⊕ Fault} (h : (perform r s bs c).outcome = .error x) :
    (∃ e, r.resolve c.space c.function c.args.length = .error e ∧ x = .inr e.fault) ∨
      (∃ d i a t e, r.resolve c.space c.function c.args.length = .ok d ∧
        FirstRefused c.args d.params i a t e ∧ x = notCoerced (i + 1) a e) ∨
      (∃ d args b, Reaches r s bs c d args b ∧ b.lookup s d.method = none ∧
        x = .inl (.noMethod b.cls.name d.method)) ∨
      ∃ what e, Raises r s bs c what e ∧ x = e.wrapped what := by
  have hperf := performs_perform r s bs c
  rw [h] at hperf
  generalize hres : (.error x : Except (Escape ⊕ Fault) Value) = res at hperf
  cases hperf with
  | unresolved h => exact .inl ⟨_, h, Except.error.inj hres⟩
  | refused hd h => exact .inr (.inl ⟨_, _, _, _, _, hd, h, Except.error.inj hres⟩)
  | missing h hno => exact .inr (.inr (.inl ⟨_, _, _, h, hno, Except.error.inj hres⟩))
  | unmade hd hargs hnone hp h =>
    exact .inr (.inr (.inr ⟨_, _, .making hd hargs hnone hp h, Except.error.inj hres⟩))
  | @ran d args b m h hm =>
    cases hrun : (b.run s d.method m args).result with
    | ok v =>
      rw [hrun] at hres
      cases hres
    | error e =>
      rw [hrun] at hres
      exact .inr (.inr (.inr ⟨_, e, .running h hm hrun, Except.error.inj hres⟩))

/-- A fault comes of a call that fails. -/
theorem fails_of_fault {f : Fault} (h : (perform r s bs c).outcome = .error (.inr f)) :
    Fails r s bs c := by
  rcases perform_error_cases h with
    ⟨e, hr, -⟩ | ⟨d, i, a, t, e, hd, hfirst, hx⟩ | ⟨d, args, b, -, -, hx⟩ | ⟨what, e, he, -⟩
  · exact .unresolved hr
  · rcases coerce_error_cases hfirst.refused with ⟨m, rfl, -⟩ | ⟨rfl, -, -⟩
    · exact .mismatch hd hfirst
    · cases hx
  · cases hx
  · exact .raised he

end Stages

namespace Evaluation

/-- What escapes, escapes for one of the five reasons. -/
theorem escapes_of_error {acts : List Act} {s : Scene} {c : Call} {x : Escape}
    (h : (invoke (ofActs acts).registry s (ofActs acts).bindings c).outcome = .error x) :
    Escapes (ofActs acts).registry s (ofActs acts).bindings c := by
  rcases (invoke_eq_error_iff x).mp h with hx | ⟨f, o, hf, hc, rfl⟩
  · rcases perform_error_cases hx with
      ⟨e, -, hx⟩ | ⟨d, i, a, t, e, hd, hfirst, hx⟩ | ⟨d, args, b, hreach, hno, -⟩ |
      ⟨what, e, he, hx⟩
    · cases hx
    · rcases coerce_error_cases hfirst.refused with ⟨m, rfl, hm⟩ | ⟨rfl, rfl, n, hn, hn'⟩
      · -- a mismatch whose message cannot show the argument
        unfold notCoerced at hx
        dsimp only at hx
        split at hx
        · rename_i o ho
          exact .unshown (.mismatch hd hfirst) (List.mem_of_getElem? hfirst.arg) (hm.symm.trans ho)
        · cases hx
      · exact .tooLarge hd hfirst hn hn'
    · obtain ⟨p, hp⟩ := getSet_of_resolve hreach.resolved
      rcases lacking_cases hreach.resolved hp hno with hcls | hname
      · cases hreach.provided with
        | had hb => exact .stale hreach.resolved hreach.coerced hb hp hcls hno
        | made hnone hp' _ => exact absurd (Except.ok.inj (hp'.symm.trans hp) ▸ rfl) hcls
      · exact .unshared hreach hp hname hno
    · obtain ⟨hf, o, ho⟩ := Raised.wrapped_eq_inl hx.symm
      exact .textless he hf ho
  · obtain ⟨a, ha, o', ho'⟩ : ∃ a ∈ c.args, ∃ o', a.obstacle? = some o' := by
      by_contra hno
      have hnone : c.obstacle? = none := by
        rw [c.obstacle?_eq_none_iff]
        intro a ha
        by_contra hne
        exact hno ⟨a, ha, Option.ne_none_iff_exists'.mp hne⟩
      rw [hc] at hnone
      cases hnone
    exact .unshown (fails_of_fault hf) ha ho'

end Evaluation

/-- Each of the five reasons keeps a call from a result. -/
theorem Escapes.outcome_eq {r : Registry} {s : Scene} {bs : Bindings} {c : Call}
    (h : Escapes r s bs c) : ∃ x, (invoke r s bs c).outcome = .error x := by
  cases h with
  | tooLarge hd h ha hn =>
    have he := (coerce_eq_overflow_iff _ _).mpr ⟨rfl, _, ha, hn⟩
    rw [h.refused, Except.error.injEq] at he
    subst he
    exact ⟨_, invoke_of_escape (Performs.refused hd h).outcome_eq⟩
  | stale hd hargs hb hp hcls hno =>
    exact ⟨_, invoke_of_escape (Performs.missing ⟨hd, hargs, .had hb⟩ hno).outcome_eq⟩
  | unshared h hp hname hno => exact ⟨_, invoke_of_escape (Performs.missing h hno).outcome_eq⟩
  | textless h hf ho =>
    have hx := h.outcome_eq
    rw [Raised.wrapped_of_obstacle _ hf ho] at hx
    exact ⟨_, invoke_of_escape hx⟩
  | unshown h ha ho =>
    obtain ⟨o', hc⟩ := Call.exists_obstacle ha ho
    obtain ⟨x, hx⟩ := h.outcome_eq
    cases x with
    | inl e => exact ⟨e, invoke_of_escape hx⟩
    | inr f => exact ⟨_, invoke_of_fault_of_obstacle hx hc⟩

theorem Escapes.no_result {r : Registry} {s : Scene} {bs : Bindings} {c : Call}
    (h : Escapes r s bs c) : ¬ ∃ result, (invoke r s bs c).outcome = .ok result := by
  obtain ⟨x, hx⟩ := h.outcome_eq
  intro h
  obtain ⟨result, hok⟩ := h
  rw [hok] at hx
  cases hx

namespace Evaluation

/-- Nothing escapes from a call, after whatever history, unless for one of the five reasons. -/
theorem exists_result_iff (acts : List Act) (s : Scene) (c : Call) :
    (∃ result, (invoke (ofActs acts).registry s (ofActs acts).bindings c).outcome = .ok result) ↔
      ¬ Escapes (ofActs acts).registry s (ofActs acts).bindings c := by
  constructor
  · intro hresult hesc
    exact hesc.no_result hresult
  · intro hno
    cases h : (invoke (ofActs acts).registry s (ofActs acts).bindings c).outcome with
    | ok result => exact ⟨result, rfl⟩
    | error x => exact absurd (escapes_of_error h) hno

/-- A session over a registry with one set, whose function takes a number. -/
def withNumber : Evaluation := ofActs [.change (.register (solePlugin 1 [.float] (.ok (.text ""))))]

/-- The integer is none in floating point, and the call has no result. -/
theorem no_result_of_large_integer :
    ¬ ∃ result, (invoke withNumber.registry bareScene withNumber.bindings
      (soleCall [.int (Int.pow 10 309)])).outcome = .ok result := by
  have hn : Number.Binary64.ofInt? (Int.pow 10 309) = none := by decide +kernel
  have hrefused : coerce (.int (Int.pow 10 309)) (.type .float) = .error .overflow :=
    (coerce_eq_overflow_iff _ _).mpr ⟨rfl, _, rfl, hn⟩
  have hd : withNumber.registry.resolve "n" "f" 1 = .ok (soleDescriptor [.float]) := rfl
  exact (Escapes.tooLarge hd (.head hrefused) rfl hn).no_result

end Evaluation

end BuildScript
