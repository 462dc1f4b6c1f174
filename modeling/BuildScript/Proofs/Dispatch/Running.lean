import BuildScript.Proofs.Dispatch.History

/-!
Which method a call runs. A session makes the set of a namespace once and keeps it, so a call runs
the method of the class that was held when the session first had a set of the namespace, and not of
the one that is held now. Main statement: `executes_cls`, for every history; the two are the same
where no other class has been registered since.
-/

namespace BuildScript

/-- A call runs a method on a set, with these arguments. -/
structure Executes (r : Registry) (s : Scene) (bs : Bindings) (c : Call) (d : Descriptor)
    (args : List Value) (b : BoundSet) (m : Method) : Prop extends Reaches r s bs c d args b where
  found : b.lookup s d.method = some (.method m)
  accepted : m.refusal? (b.cls.name ++ "." ++ d.method) args.length = none

section Running

variable {r : Registry} {s : Scene} {bs : Bindings} {c : Call} {d : Descriptor} {args : List Value}
  {b : BoundSet} {m : Method}

theorem run_method {name : String}
    (h : m.refusal? (b.cls.name ++ "." ++ name) args.length = none) :
    b.run s name (.method m) args =
      { m.run s b.memory args with
        events := .ran b.cls.id name args :: (m.run s b.memory args).events } := by
  unfold BoundSet.run
  simp only [h]

theorem run_of_refused {name message : String}
    (h : m.refusal? (b.cls.name ++ "." ++ name) args.length = some message) :
    b.run s name (.method m) args = b.refuse message := by
  unfold BoundSet.run
  simp only [h]

/-- The call comes to what the method comes to, and the session keeps what the set remembers. -/
theorem Executes.perform_eq (h : Executes r s bs c d args b m) :
    perform r s bs c =
      ⟨(m.run s b.memory args).result.mapError (·.wrapped "Function call failed"),
        (bindSet r s bs c.space).bindings.put c.space
          { b with memory := (m.run s b.memory args).memory },
        (bindSet r s bs c.space).events ++ d.warning ++
          .ran b.cls.id d.method args :: (m.run s b.memory args).events⟩ := by
  rw [h.toReaches.perform_of_found h.found, run_method h.accepted]

/-- A call comes to a value only by running a method. -/
theorem executes_of_perform {v : Value} (h : (perform r s bs c).outcome = .ok v) :
    ∃ d args b m, Executes r s bs c d args b m ∧ (m.run s b.memory args).result = .ok v := by
  have hperf := performs_perform r s bs c
  rw [h] at hperf
  generalize hres : (.ok v : Except (Escape ⊕ Fault) Value) = res at hperf
  cases hperf with
  | @ran d args b m h hm =>
    cases m with
    | uncallable typeName => cases hres
    | method m =>
      cases hacc : m.refusal? (b.cls.name ++ "." ++ d.method) args.length with
      | some message =>
        rw [run_of_refused hacc] at hres
        cases hres
      | none =>
        rw [run_method hacc] at hres
        refine ⟨d, args, b, m, ⟨h, hm, hacc⟩, ?_⟩
        cases hrun : (m.run s b.memory args).result with
        | ok w => rw [hrun] at hres; cases hres; rfl
        | error e => rw [hrun] at hres; cases hres
  | _ => cases hres

theorem executes_of_value {v : Value} (h : (invoke r s bs c).outcome = .ok (.value v)) :
    ∃ d args b m, Executes r s bs c d args b m ∧ (m.run s b.memory args).result = .ok v := by
  rcases invoke_ok_cases h with ⟨w, hw, hv⟩ | ⟨f, -, hf⟩
  · cases hv
    exact executes_of_perform hw
  · cases hf

end Running

namespace Evaluation

/-- After a call that runs a method the session has the set that it ran on. -/
theorem bound_of_executes {acts : List Act} {s : Scene} {c : Call} {d : Descriptor}
    {args : List Value} {b : BoundSet} {m : Method}
    (h : Executes (ofActs acts).registry s (ofActs acts).bindings c d args b m) :
    ∃ b', (ofActs (acts ++ [.call s c])).bindings.get? c.space = some b' ∧ b'.cls = b.cls := by
  refine ⟨{ b with memory := (m.run s b.memory args).memory }, ?_, rfl⟩
  rw [ofActs_concat]
  show (invoke _ _ _ _).bindings.get? _ = _
  rw [bindings_invoke, h.perform_eq, Table.get?_put, if_pos rfl]

/-- A call runs a method of the class whose plugin was held when the session first had a set of the
namespace, be it in this call or in an earlier one. That class is the one that is held unless
another was registered since. -/
theorem executes_cls (acts : List Act) (s : Scene) (c : Call) (d : Descriptor) (args : List Value)
    (b : BoundSet) (m : Method)
    (h : Executes (ofActs acts).registry s (ofActs acts).bindings c d args b m) :
    (∃ before s' c' rest p, acts ++ [.call s c] = before ++ .call s' c' :: rest ∧
        c'.space = c.space ∧ FirstUse before s' c' p ∧ b.cls = p.cls ∧
        p.cls.find? d.method = some (.method m)) ∧
      (NotReplaced acts c.space →
        ∃ p, (ofActs acts).registry.getSet c.space = .ok p ∧ b.cls = p.cls) := by
  constructor
  · obtain ⟨b', hb', hcls⟩ := bound_of_executes h
    obtain ⟨before, s', c', rest, p, hacts, hspace, huse, hp⟩ := exists_firstUse hb'
    have hbp : b.cls = p.cls := hcls.symm.trans hp
    exact ⟨before, s', c', rest, p, hacts, hspace, huse, hbp, hbp ▸ find?_of_lookup h.found⟩
  · intro hsame
    obtain ⟨p, hp⟩ := getSet_of_resolve h.resolved
    refine ⟨p, hp, ?_⟩
    cases h.provided with
    | had hb => exact cls_of_notReplaced hsame hb hp
    | made _ hp' _ => exact congrArg Plugin.cls (Except.ok.inj (hp'.symm.trans hp))

/-- A session that had its set of a namespace when another was registered in its place. -/
def replaced : List Act :=
  [.change (.register (solePlugin 1 [] (.ok (.text "old")))), .call bareScene (soleCall []),
   .change (.unregister "n"), .change (.register (solePlugin 2 [] (.ok (.text "new"))))]

/-- The set that the session has. -/
def replacedSet : BoundSet := ⟨soleClass 1 [] (.ok (.text "old")), .empty⟩

/-- The method of that set. -/
def replacedMethod : Method :=
  { run := fun _ memory _ => { result := .ok (.text "old"), memory } }

theorem executes_replaced :
    Executes (ofActs replaced).registry bareScene (ofActs replaced).bindings (soleCall [])
      (soleDescriptor []) [] replacedSet replacedMethod where
  resolved := rfl
  coerced := .nil
  provided := .had rfl
  found := rfl
  accepted := rfl

/-- The method that runs is of the class that was held at the first use. -/
theorem replaced_cls :
    ∃ before s' c' rest p,
      replaced ++ [.call bareScene (soleCall [])] = before ++ .call s' c' :: rest ∧
        c'.space = "n" ∧ FirstUse before s' c' p ∧ replacedSet.cls = p.cls ∧
        p.cls.find? "f" = some (.method replacedMethod) :=
  (executes_cls replaced bareScene _ _ _ _ _ executes_replaced).1

/-- The method that runs is not one of the class that is held. -/
theorem not_executes_held :
    ¬ ∀ d args b m,
      Executes (ofActs replaced).registry bareScene (ofActs replaced).bindings (soleCall [])
          d args b m →
        ∃ p, (ofActs replaced).registry.getSet "n" = .ok p ∧ b.cls = p.cls := by
  intro h
  obtain ⟨p, hp, hcls⟩ := h _ _ _ _ executes_replaced
  have hnew : (ofActs replaced).registry.getSet "n" =
      .ok (solePlugin 2 [] (.ok (.text "new"))).1 := rfl
  have hpnew : p = (solePlugin 2 [] (.ok (.text "new"))).1 := Except.ok.inj (hp.symm.trans hnew)
  have hid : replacedSet.cls.id = 2 := by
    rw [hcls, hpnew]
    rfl
  cases hid

end Evaluation

end BuildScript
