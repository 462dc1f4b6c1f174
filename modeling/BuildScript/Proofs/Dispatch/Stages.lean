import BuildScript.Proofs.Dispatch.Arguments
import BuildScript.Proofs.Dispatch.Places
import BuildScript.Proofs.Registry.Declarations

/-!
The stages of a call: resolution, coercion, the set of the namespace, its method, and what the
method comes to. `Performs` says for each stage what a call comes to that ends there; main
statement: `perform_eq_iff`, that a call comes to nothing else. What a call leaves behind is one
set at most (`get?_bindings_perform`), of the class that it was before.
-/

namespace BuildScript

/-! ## Registries -/

theorem getSet_eq_ok_iff (r : Registry) (space : String) (p : Plugin) :
    r.getSet space = .ok p ↔ r.sets.get? space = some p := by
  unfold Registry.getSet
  cases r.sets.get? space <;> simp

/-- A function is found only where a set is held. -/
theorem getSet_of_resolve {r : Registry} {space name : String} {arity : Nat} {d : Descriptor}
    (h : r.resolve space name arity = .ok d) : ∃ p, r.getSet space = .ok p := by
  unfold Registry.resolve at h
  split at h
  · rename_i hheld
    obtain ⟨p, hp⟩ := Option.isSome_iff_exists.mp hheld
    exact ⟨p, (getSet_eq_ok_iff r space p).mpr hp⟩
  · cases h

/-! ## The set of a namespace -/

/-- The set that a call finds for its namespace: the one that the session has, or else a new one. -/
inductive Provides (r : Registry) (s : Scene) (bs : Bindings) (space : String) : BoundSet → Prop where
  | had {b : BoundSet} (hb : bs.get? space = some b) : Provides r s bs space b
  | made {p : Plugin} {memory : Memory} (hnone : bs.get? space = none)
      (hp : r.getSet space = .ok p) (hmade : p.cls.construct s = .ok memory) :
      Provides r s bs space ⟨p.cls, memory⟩

section Binding

variable (r : Registry) (s : Scene) (bs : Bindings) (space : String)

theorem bindSet_of_had {b : BoundSet} (hb : bs.get? space = some b) :
    bindSet r s bs space = ⟨.ok b, bs, []⟩ := by
  rw [bindSet, hb]

theorem bindSet_of_made {p : Plugin} {memory : Memory} (hnone : bs.get? space = none)
    (hp : r.getSet space = .ok p) (hmade : p.cls.construct s = .ok memory) :
    bindSet r s bs space =
      ⟨.ok ⟨p.cls, memory⟩, bs.put space ⟨p.cls, memory⟩, [.constructed p.cls.id]⟩ := by
  unfold bindSet SetClass.bind
  rw [hnone, hp]
  simp only [hmade, Except.map]

theorem bindSet_of_unmade {p : Plugin} {e : Raised} (hnone : bs.get? space = none)
    (hp : r.getSet space = .ok p) (hmade : p.cls.construct s = .error e) :
    bindSet r s bs space = ⟨.error e, bs, [.constructed p.cls.id]⟩ := by
  unfold bindSet SetClass.bind
  rw [hnone, hp]
  simp only [hmade, Except.map]

theorem bindSet_of_free {e : RegistryError} (hnone : bs.get? space = none)
    (hp : r.getSet space = .error e) : bindSet r s bs space = ⟨.error (.fault e.fault), bs, []⟩ := by
  unfold bindSet
  rw [hnone, hp]

/-- Where a set is held, the session has one, makes one, or cannot make one. -/
theorem bindSet_cases {p : Plugin} (hp : r.getSet space = .ok p) :
    (∃ b, Provides r s bs space b ∧ (bindSet r s bs space).outcome = .ok b) ∨
      (∃ e, bs.get? space = none ∧ p.cls.construct s = .error e ∧
        (bindSet r s bs space).outcome = .error e) := by
  cases hb : bs.get? space with
  | some b => exact .inl ⟨b, .had hb, by rw [bindSet_of_had r s bs space hb]⟩
  | none =>
    cases hmade : p.cls.construct s with
    | error e =>
      exact .inr ⟨e, rfl, rfl, by rw [bindSet_of_unmade r s bs space hb hp hmade]⟩
    | ok memory =>
      exact .inl ⟨_, .made hb hp hmade, by rw [bindSet_of_made r s bs space hb hp hmade]⟩

variable {r s bs space}

theorem Provides.outcome_eq {b : BoundSet} (h : Provides r s bs space b) :
    (bindSet r s bs space).outcome = .ok b := by
  cases h with
  | had hb => rw [bindSet_of_had r s bs space hb]
  | made hnone hp hmade => rw [bindSet_of_made r s bs space hnone hp hmade]

/-- The session has the set from then on, and the sets of other namespaces as before. -/
theorem Provides.get?_bindings {b : BoundSet} (h : Provides r s bs space b) (other : String) :
    (bindSet r s bs space).bindings.get? other = if other = space then some b else bs.get? other := by
  cases h with
  | had hb =>
    rw [bindSet_of_had r s bs space hb]
    by_cases ho : other = space
    · rw [if_pos ho, ho, hb]
    · rw [if_neg ho]
  | made hnone hp hmade => rw [bindSet_of_made r s bs space hnone hp hmade, Table.get?_put]

end Binding

/-! ## Names in a bound set -/

/-- The names that the language gives to classes, but not to their sets. -/
def SetClass.classNames (c : SetClass) : List String :=
  (Inherited.ofClasses c.shownBuiltin).map (·.1)

theorem mem_of_lookup {α : Type} {name : String} {a : α} {l : List (String × α)}
    (h : l.lookup name = some a) : (name, a) ∈ l := by
  induction l with
  | nil => cases h
  | cons e rest ih =>
    rw [List.lookup_cons] at h
    by_cases hname : name = e.1
    · rw [hname, beq_self_eq_true] at h
      rw [hname, ← Option.some.inj h]
      exact List.mem_cons_self
    · rw [beq_eq_false_iff_ne.mpr hname] at h
      exact List.mem_cons_of_mem _ (ih h)

theorem SetClass.inherited?_eq (c : SetClass) (name : String) :
    c.inherited? name = ((Inherited.shared c.shownBuiltin).lookup name).or
      ((Inherited.ofClasses c.shownBuiltin).lookup name) :=
  List.lookup_append

/-- What a class writes down, its sets have. -/
theorem SetClass.find?_of_own {c : SetClass} {name : String} {m : Method}
    (h : c.attributes.get? name = some (.method m)) : c.find? name = some (.method m) := by
  rw [find?, h]

/-- What a name means to a class it means to its sets, unless only classes have it. -/
theorem SetClass.Means.find?_or_mem {c : SetClass} {name : String} {m : Method} (h : c.Means name m)
    (htells : m.Tells) : c.find? name = some (.method m) ∨
      name ∈ c.classNames ∧ c.attributes.get? name ≠ some (.method m) := by
  by_cases hown : c.attributes.get? name = some (.method m)
  · exact .inl (find?_of_own hown)
  cases h with
  | own _ h => exact absurd h hown
  | inherited hname h =>
    rw [inherited?_eq, Option.or_eq_some_iff] at h
    rcases h with hshared | ⟨-, hclass⟩
    · left
      rcases hname with hfixed | hnone
      · -- of the fixed names only that of the class of a set is shared, and that does not tell its parameters
        simp only [Inherited.fixedNames, List.mem_cons, List.not_mem_nil, or_false] at hfixed
        rcases hfixed with rfl | rfl | rfl | rfl | rfl | rfl | rfl | rfl | rfl | rfl | rfl | rfl | rfl <;>
          first
          | cases hshared; done
          | (obtain rfl := Option.some.inj hshared; cases htells.asked)
      · rw [find?, hnone]
        simp only [hshared]
    · exact .inr ⟨List.mem_map_of_mem (mem_of_lookup hclass), hown⟩

/-- Where its sets have nothing under a name that means something to a class, only classes have it. -/
theorem SetClass.Means.mem_classNames {c : SetClass} {name : String} {m : Method} (h : c.Means name m)
    (hno : c.find? name = none) : name ∈ c.classNames := by
  have hnone : c.attributes.get? name = none := by
    cases hown : c.attributes.get? name with
    | none => rfl
    | some a => cases a <;> simp [find?, hown] at hno
  cases h with
  | own _ h =>
    rw [hnone] at h
    cases h
  | inherited _ h =>
    rw [inherited?_eq, Option.or_eq_some_iff] at h
    rcases h with hshared | ⟨-, hclass⟩
    · simp [find?, hnone, hshared] at hno
    · exact List.mem_map_of_mem (mem_of_lookup hclass)

/-- What a set has under a name that it has nothing of its own under is what its class gives it. -/
theorem BoundSet.lookup_eq_find? (b : BoundSet) (s : Scene) (name : String) :
    b.lookup s name = b.cls.find? name ∨ ∃ typeName, b.lookup s name = some (.uncallable typeName) := by
  unfold BoundSet.lookup
  split
  · exact .inr ⟨_, rfl⟩
  · split
    · exact .inr ⟨_, rfl⟩
    · cases b.memory.get? name with
      | some v => exact .inr ⟨_, rfl⟩
      | none => exact .inl rfl

/-- What is found as a method is one of the class. -/
theorem find?_of_lookup {b : BoundSet} {s : Scene} {name : String} {m : Method}
    (h : b.lookup s name = some (.method m)) : b.cls.find? name = some (.method m) := by
  rcases b.lookup_eq_find? s name with hfind | ⟨typeName, hfind⟩
  · rw [← hfind, h]
  · rw [h] at hfind
    cases hfind

/-! ## What a call comes to -/

/-- A call comes to a set: it is resolved, its arguments are coerced, and there is a set for it. -/
structure Reaches (r : Registry) (s : Scene) (bs : Bindings) (c : Call) (d : Descriptor) (args : List Value)
    (b : BoundSet) : Prop where
  resolved : r.resolve c.space c.function c.args.length = .ok d
  coerced : Coerced c.args d.params args
  provided : Provides r s bs c.space b

/-- What a call comes to, by the stage at which it ends. -/
inductive Performs (r : Registry) (s : Scene) (bs : Bindings) (c : Call) :
    Except (Escape ⊕ Fault) Value → Prop where
  | unresolved {e : RegistryError} (h : r.resolve c.space c.function c.args.length = .error e) :
      Performs r s bs c (.error (.inr e.fault))
  | refused {d : Descriptor} {i : Nat} {a : Value} {t : TypeName} {e : CoercionError}
      (hd : r.resolve c.space c.function c.args.length = .ok d)
      (h : FirstRefused c.args d.params i a t e) :
      Performs r s bs c (.error (notCoerced (i + 1) a e))
  | unmade {d : Descriptor} {args : List Value} {p : Plugin} {e : Raised}
      (hd : r.resolve c.space c.function c.args.length = .ok d)
      (hargs : Coerced c.args d.params args) (hnone : bs.get? c.space = none)
      (hp : r.getSet c.space = .ok p) (h : p.cls.construct s = .error e) :
      Performs r s bs c
        (.error (e.wrapped ("Could not create the '" ++ c.space ++ "' function set")))
  | missing {d : Descriptor} {args : List Value} {b : BoundSet} (h : Reaches r s bs c d args b)
      (hno : b.lookup s d.method = none) :
      Performs r s bs c (.error (.inl (.noMethod b.cls.name d.method)))
  | ran {d : Descriptor} {args : List Value} {b : BoundSet} {m : Found}
      (h : Reaches r s bs c d args b) (hm : b.lookup s d.method = some m) :
      Performs r s bs c
        ((b.run s d.method m args).result.mapError (·.wrapped "Function call failed"))

section Performing

variable {r : Registry} {s : Scene} {bs : Bindings} {c : Call} {d : Descriptor}

theorem perform_of_unresolved {e : RegistryError}
    (h : r.resolve c.space c.function c.args.length = .error e) :
    perform r s bs c = ⟨.error (.inr e.fault), bs, []⟩ := by
  rw [perform, h]

theorem perform_of_refused {i : Nat} {a : Value} {t : TypeName} {e : CoercionError}
    (hd : r.resolve c.space c.function c.args.length = .ok d)
    (h : FirstRefused c.args d.params i a t e) :
    perform r s bs c = ⟨.error (notCoerced (i + 1) a e), bs, []⟩ := by
  have hargs : coerceArgs 1 c.args d.params = .error (notCoerced (i + 1) a e) :=
    (coerceArgs_eq_error_iff ..).mpr ⟨i, a, t, e, h, by rw [Nat.add_comm]⟩
  rw [perform, hd]
  simp only [hargs]

theorem perform_of_coerced {args : List Value}
    (hd : r.resolve c.space c.function c.args.length = .ok d)
    (hargs : Coerced c.args d.params args) : perform r s bs c = runFunction r s bs c d args := by
  rw [perform, hd]
  simp only [(coerceArgs_eq_ok_iff 1 _ _ _).mpr hargs]

theorem runFunction_of_unmade (args : List Value) {p : Plugin} {e : Raised}
    (hnone : bs.get? c.space = none) (hp : r.getSet c.space = .ok p)
    (h : p.cls.construct s = .error e) :
    runFunction r s bs c d args =
      ⟨.error (e.wrapped ("Could not create the '" ++ c.space ++ "' function set")), bs,
        [.constructed p.cls.id]⟩ := by
  unfold runFunction
  simp only [bindSet_of_unmade r s bs c.space hnone hp h]

theorem Reaches.perform_of_missing {args : List Value} {b : BoundSet}
    (h : Reaches r s bs c d args b) (hno : b.lookup s d.method = none) :
    perform r s bs c =
      ⟨.error (.inl (.noMethod b.cls.name d.method)), (bindSet r s bs c.space).bindings,
        (bindSet r s bs c.space).events⟩ := by
  rw [perform_of_coerced h.resolved h.coerced]
  unfold runFunction
  simp only [h.provided.outcome_eq, hno]

theorem Reaches.perform_of_found {args : List Value} {b : BoundSet} {m : Found}
    (h : Reaches r s bs c d args b) (hm : b.lookup s d.method = some m) :
    perform r s bs c =
      ⟨(b.run s d.method m args).result.mapError (·.wrapped "Function call failed"),
        (bindSet r s bs c.space).bindings.put c.space
          { b with memory := (b.run s d.method m args).memory },
        (bindSet r s bs c.space).events ++ d.warning ++ (b.run s d.method m args).events⟩ := by
  rw [perform_of_coerced h.resolved h.coerced]
  unfold runFunction
  simp only [h.provided.outcome_eq, hm]

theorem Performs.outcome_eq {res : Except (Escape ⊕ Fault) Value} (h : Performs r s bs c res) :
    (perform r s bs c).outcome = res := by
  cases h with
  | unresolved h => rw [perform_of_unresolved h]
  | refused hd h => rw [perform_of_refused hd h]
  | unmade hd hargs hnone hp h =>
    rw [perform_of_coerced hd hargs, runFunction_of_unmade _ hnone hp h]
  | missing h hno => rw [h.perform_of_missing hno]
  | ran h hm => rw [h.perform_of_found hm]

/-- A call is not resolved, or has an argument that is not coerced, or its set cannot be made, or
it comes to a set. -/
theorem stage_cases (r : Registry) (s : Scene) (bs : Bindings) (c : Call) :
    (∃ e, r.resolve c.space c.function c.args.length = .error e) ∨
      ∃ d, r.resolve c.space c.function c.args.length = .ok d ∧
        ((∃ i a t e, FirstRefused c.args d.params i a t e) ∨
          ∃ args, Coerced c.args d.params args ∧
            ((∃ p e, bs.get? c.space = none ∧ r.getSet c.space = .ok p ∧
                p.cls.construct s = .error e) ∨
              ∃ b, Provides r s bs c.space b)) := by
  cases hd : r.resolve c.space c.function c.args.length with
  | error e => exact .inl ⟨e, rfl⟩
  | ok d =>
    refine .inr ⟨d, rfl, ?_⟩
    cases hargs : coerceArgs 1 c.args d.params with
    | error x =>
      obtain ⟨i, a, t, e, h, -⟩ := (coerceArgs_eq_error_iff ..).mp hargs
      exact .inl ⟨i, a, t, e, h⟩
    | ok args =>
      refine .inr ⟨args, (coerceArgs_eq_ok_iff ..).mp hargs, ?_⟩
      obtain ⟨p, hp⟩ := getSet_of_resolve hd
      rcases bindSet_cases r s bs c.space hp with ⟨b, hb, -⟩ | ⟨e, hnone, hmade, -⟩
      · exact .inr ⟨b, hb⟩
      · exact .inl ⟨p, e, hnone, hp, hmade⟩

theorem performs_perform (r : Registry) (s : Scene) (bs : Bindings) (c : Call) :
    Performs r s bs c (perform r s bs c).outcome := by
  rcases stage_cases r s bs c with
    ⟨e, h⟩ | ⟨d, hd, ⟨i, a, t, e, h⟩ | ⟨args, hargs, ⟨p, e, hnone, hp, h⟩ | ⟨b, hb⟩⟩⟩
  · rw [perform_of_unresolved h]
    exact .unresolved h
  · rw [perform_of_refused hd h]
    exact .refused hd h
  · rw [perform_of_coerced hd hargs, runFunction_of_unmade _ hnone hp h]
    exact .unmade hd hargs hnone hp h
  · have hreach : Reaches r s bs c d args b := ⟨hd, hargs, hb⟩
    cases hm : b.lookup s d.method with
    | none =>
      rw [hreach.perform_of_missing hm]
      exact .missing hreach hm
    | some m =>
      rw [hreach.perform_of_found hm]
      exact .ran hreach hm

theorem perform_eq_iff (res : Except (Escape ⊕ Fault) Value) :
    (perform r s bs c).outcome = res ↔ Performs r s bs c res := by
  constructor
  · rintro rfl
    exact performs_perform r s bs c
  · exact Performs.outcome_eq

end Performing

/-! ## What a call leaves behind -/

/-- A call leaves the sets as they are, or it comes to a set, and leaves one of that class. -/
theorem get?_bindings_perform (r : Registry) (s : Scene) (bs : Bindings) (c : Call) :
    (perform r s bs c).bindings = bs ∨
      ∃ d args b b', Reaches r s bs c d args b ∧ b'.cls = b.cls ∧
        ∀ space, (perform r s bs c).bindings.get? space =
          if space = c.space then some b' else bs.get? space := by
  rcases stage_cases r s bs c with
    ⟨e, h⟩ | ⟨d, hd, ⟨i, a, t, e, h⟩ | ⟨args, hargs, ⟨p, e, hnone, hp, h⟩ | ⟨b, hb⟩⟩⟩
  · rw [perform_of_unresolved h]
    exact .inl rfl
  · rw [perform_of_refused hd h]
    exact .inl rfl
  · rw [perform_of_coerced hd hargs, runFunction_of_unmade _ hnone hp h]
    exact .inl rfl
  · have hreach : Reaches r s bs c d args b := ⟨hd, hargs, hb⟩
    cases hm : b.lookup s d.method with
    | none =>
      rw [hreach.perform_of_missing hm]
      exact .inr ⟨d, args, b, b, hreach, rfl, hb.get?_bindings⟩
    | some m =>
      rw [hreach.perform_of_found hm]
      -- what the set remembers has changed, but not its class
      refine .inr ⟨d, args, b, { b with memory := (b.run s d.method m args).memory }, hreach, rfl,
        fun space => ?_⟩
      rw [Table.get?_put, hb.get?_bindings]
      by_cases hs : space = c.space
      · rw [if_pos hs, if_pos hs]
      · rw [if_neg hs, if_neg hs, if_neg hs]

/-! ## Results -/

section Result

variable (r : Registry) (s : Scene) (bs : Bindings) (c : Call)

theorem bindings_invoke : (invoke r s bs c).bindings = (perform r s bs c).bindings := by
  unfold invoke
  dsimp only
  split
  · rfl
  · rfl
  · split <;> rfl

variable {r s bs c}

theorem invoke_of_ok {v : Value} (h : (perform r s bs c).outcome = .ok v) :
    (invoke r s bs c).outcome = .ok (.value v) := by
  unfold invoke
  simp only [h]

theorem invoke_of_escape {e : Escape} (h : (perform r s bs c).outcome = .error (.inl e)) :
    (invoke r s bs c).outcome = .error e := by
  unfold invoke
  simp only [h]

theorem invoke_of_fault {f : Fault} (h : (perform r s bs c).outcome = .error (.inr f))
    (hc : c.obstacle? = none) : (invoke r s bs c).outcome = .ok (.failure (c.failure f)) := by
  unfold invoke
  simp only [h, hc]

theorem invoke_of_fault_of_obstacle {f : Fault} {o : Obstacle}
    (h : (perform r s bs c).outcome = .error (.inr f)) (hc : c.obstacle? = some o) :
    (invoke r s bs c).outcome = .error (.unshowable o) := by
  unfold invoke
  simp only [h, hc]

/-- A result is a value that the stages came to, or the failure for their fault. -/
theorem invoke_ok_cases {result : CallResult} (h : (invoke r s bs c).outcome = .ok result) :
    (∃ v, (perform r s bs c).outcome = .ok v ∧ result = .value v) ∨
      ∃ f, (perform r s bs c).outcome = .error (.inr f) ∧ result = .failure (c.failure f) := by
  cases hp : (perform r s bs c).outcome with
  | ok v =>
    rw [invoke_of_ok hp] at h
    exact .inl ⟨v, rfl, (Except.ok.inj h).symm⟩
  | error x =>
    cases x with
    | inl e =>
      rw [invoke_of_escape hp] at h
      cases h
    | inr f =>
      cases hc : c.obstacle? with
      | none =>
        rw [invoke_of_fault hp hc] at h
        exact .inr ⟨f, rfl, (Except.ok.inj h).symm⟩
      | some o =>
        rw [invoke_of_fault_of_obstacle hp hc] at h
        cases h

/-- What escapes is what escapes from the stages, or the obstacle to showing a call that has
failed. -/
theorem invoke_eq_error_iff (e : Escape) :
    (invoke r s bs c).outcome = .error e ↔
      (perform r s bs c).outcome = .error (.inl e) ∨
        ∃ f o, (perform r s bs c).outcome = .error (.inr f) ∧ c.obstacle? = some o ∧
          e = .unshowable o := by
  cases h : (perform r s bs c).outcome with
  | ok v => simp [invoke_of_ok h]
  | error x =>
    cases x with
    | inl e' => simp [invoke_of_escape h]
    | inr f =>
      cases hc : c.obstacle? with
      | none => simp [invoke_of_fault h hc]
      | some o => simp [invoke_of_fault_of_obstacle h hc, eq_comm]

end Result

/-- A call leaves a session the sets that it had, of the classes that they were of, and at most one
more: for the namespace of the call, of the class that is held. -/
theorem get?_bindings_invoke {r : Registry} {s : Scene} {bs : Bindings} {c : Call} {space : String}
    {b' : BoundSet} (h : (invoke r s bs c).bindings.get? space = some b') :
    (∃ b, bs.get? space = some b ∧ b'.cls = b.cls) ∨
      (bs.get? space = none ∧ space = c.space ∧ ∃ p, r.getSet space = .ok p ∧ b'.cls = p.cls) := by
  rw [bindings_invoke] at h
  rcases get?_bindings_perform r s bs c with hsame | ⟨d, args, b, b'', hreach, hcls, hget⟩
  · rw [hsame] at h
    exact .inl ⟨b', h, rfl⟩
  · rw [hget] at h
    by_cases hs : space = c.space
    · rw [if_pos hs, Option.some.injEq] at h
      subst h hs
      cases hreach.provided with
      | had hb => exact .inl ⟨b, hb, hcls⟩
      | made hnone hp _ => exact .inr ⟨hnone, rfl, _, hp, hcls⟩
    · rw [if_neg hs] at h
      exact .inl ⟨b', h, rfl⟩

/-- A call takes no set away. -/
theorem bound_after_invoke (r : Registry) (s : Scene) {bs : Bindings} (c : Call) {space : String}
    {b : BoundSet} (hb : bs.get? space = some b) :
    ∃ b', (invoke r s bs c).bindings.get? space = some b' ∧ b'.cls = b.cls := by
  rw [bindings_invoke]
  rcases get?_bindings_perform r s bs c with hsame | ⟨d, args, b₁, b', hreach, hcls, hget⟩
  · rw [hsame]
    exact ⟨b, hb, rfl⟩
  · rw [hget]
    by_cases hs : space = c.space
    · subst hs
      refine ⟨b', if_pos rfl, ?_⟩
      cases hreach.provided with
      | had hb₁ => rw [hcls, Option.some.inj (hb₁.symm.trans hb)]
      | made hnone _ _ => rw [hnone] at hb; cases hb
    · exact ⟨b, by rw [if_neg hs, hb], rfl⟩

end BuildScript
