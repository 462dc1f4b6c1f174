import BuildScript.Proofs.Dispatch.Declared

/-!
When a session makes a function set. A call makes the set of its namespace if it is resolved, all of
its arguments are coerced, and no call before it has made one; a constructor that raises has made
none, so the next such call runs it again. Main statement: `makes_once`, for every history. `Endures`
says of the set that was made that it stays the one: each later call of the namespace runs on it as
the calls before have left it, whatever becomes of the registry.
-/

namespace BuildScript

/-! ## Constructors among events -/

/-- The class whose constructor ran. -/
def Event.constructed? : Event → Option Nat
  | .constructed cls => some cls
  | _ => none

/-- The constructors that a call runs for its set. What a method does is its own, so only what comes
before the first method counts. -/
def constructorsIn (es : List Event) : List Nat :=
  (es.takeWhile fun e => !e.isRun).filterMap Event.constructed?

/-- Events before which no method runs come in front. -/
theorem constructorsIn_append {es : List Event} (h : runsIn es = []) (es' : List Event) :
    constructorsIn (es ++ es') = es.filterMap Event.constructed? ++ constructorsIn es' := by
  unfold constructorsIn
  rw [List.takeWhile_append_of_pos, List.filterMap_append]
  intro e he
  rw [runsIn, List.filter_eq_nil_iff] at h
  rw [Bool.not_eq_true', Bool.eq_false_iff]
  exact h e he

/-- Events among which there is no constructor add none behind. -/
theorem constructorsIn_append_right (es : List Event) {es' : List Event}
    (h : es'.filterMap Event.constructed? = []) :
    constructorsIn (es ++ es') = constructorsIn es := by
  have htake : ∀ p : Event → Bool, (es'.takeWhile p).filterMap Event.constructed? = [] := by
    intro p
    rw [List.filterMap_eq_nil_iff] at h ⊢
    exact fun e he => h e (List.takeWhile_subset _ he)
  unfold constructorsIn
  rw [List.takeWhile_append]
  split
  · rename_i hall
    rw [List.filterMap_append, htake, List.append_nil]
    congr 1
    exact (List.takeWhile_prefix _).eq_of_length hall |>.symm
  · rfl

section Events

variable (r : Registry) (s : Scene) (bs : Bindings) (c : Call)

theorem constructed_announced : c.announced.filterMap Event.constructed? = [] := rfl

theorem constructed_warning (d : Descriptor) : d.warning.filterMap Event.constructed? = [] := by
  unfold Descriptor.warning
  split <;> rfl

theorem constructed_failureEvents (f : Fault) :
    (failureEvents c f).filterMap Event.constructed? = [] := by
  unfold failureEvents
  cases f.prior? <;> rfl

/-- What a call does beside its stages is to write records. -/
theorem constructorsIn_invoke :
    constructorsIn (invoke r s bs c).events = constructorsIn (perform r s bs c).events := by
  have hfront : constructorsIn (c.announced ++ (perform r s bs c).events) =
      constructorsIn (perform r s bs c).events := by
    rw [constructorsIn_append (runsIn_announced c), constructed_announced, List.nil_append]
  unfold invoke
  dsimp only
  split
  · exact hfront
  · exact hfront
  · split
    · exact hfront
    · rw [constructorsIn_append_right _ (constructed_failureEvents c _)]
      exact hfront

/-- A method runs before anything that it does. -/
theorem constructorsIn_run (b : BoundSet) (name : String) (m : Found) (args : List Value) :
    constructorsIn (b.run s name m args).events = [] := by
  cases m with
  | uncallable typeName => rfl
  | method m =>
    unfold BoundSet.run
    dsimp only
    split <;> rfl

end Events

/-! ## One call -/

/-- A call asks for the set of its namespace: it is resolved, and all of its arguments are coerced. -/
def Asks (r : Registry) (c : Call) : Prop :=
  ∃ d args, r.resolve c.space c.function c.args.length = .ok d ∧ Coerced c.args d.params args

section Call

variable {r : Registry} {s : Scene} {bs : Bindings} {c : Call}

/-- A call that asks for a set comes to one, or the constructor raises. -/
theorem Asks.cases (h : Asks r c) (s : Scene) (bs : Bindings) :
    (∃ d args b, Reaches r s bs c d args b) ∨
      ∃ p e, bs.get? c.space = none ∧ r.getSet c.space = .ok p ∧ p.cls.construct s = .error e := by
  obtain ⟨d, args, hd, hargs⟩ := h
  obtain ⟨p, hp⟩ := getSet_of_resolve hd
  rcases bindSet_cases r s bs c.space hp with ⟨b, hb, -⟩ | ⟨e, hnone, hmade, -⟩
  · exact .inl ⟨d, args, b, hd, hargs, hb⟩
  · exact .inr ⟨p, e, hnone, hp, hmade⟩

/-- A call that asks for no set leaves all as it is. -/
theorem perform_of_not_asks (s : Scene) (bs : Bindings) (h : ¬ Asks r c) :
    (perform r s bs c).bindings = bs ∧ (perform r s bs c).events = [] := by
  rcases stage_cases r s bs c with ⟨e, he⟩ | ⟨d, hd, ⟨i, a, t, e, he⟩ | ⟨args, hargs, -⟩⟩
  · rw [perform_of_unresolved he]
    exact ⟨rfl, rfl⟩
  · rw [perform_of_refused hd he]
    exact ⟨rfl, rfl⟩
  · exact absurd ⟨d, args, hd, hargs⟩ h

theorem Asks.perform_of_unmade (h : Asks r c) (s : Scene) {p : Plugin} {e : Raised}
    (hnone : bs.get? c.space = none) (hp : r.getSet c.space = .ok p)
    (hmade : p.cls.construct s = .error e) :
    (perform r s bs c).bindings = bs ∧ (perform r s bs c).events = [.constructed p.cls.id] := by
  obtain ⟨d, args, hd, hargs⟩ := h
  rw [perform_of_coerced hd hargs, runFunction_of_unmade args hnone hp hmade]
  exact ⟨rfl, rfl⟩

/-- A call that comes to a set runs the constructors that making it takes. -/
theorem Reaches.constructorsIn_perform {d : Descriptor} {args : List Value} {b : BoundSet}
    (h : Reaches r s bs c d args b) :
    constructorsIn (perform r s bs c).events =
      (bindSet r s bs c.space).events.filterMap Event.constructed? := by
  have hbind := runsIn_bindSet r s bs c.space
  cases hm : b.lookup s d.method with
  | none =>
    rw [h.perform_of_missing hm]
    dsimp only
    rw [← List.append_nil (bindSet r s bs c.space).events, constructorsIn_append hbind,
      List.append_nil]
    exact List.append_nil _
  | some m =>
    rw [h.perform_of_found hm]
    dsimp only
    rw [List.append_assoc, constructorsIn_append hbind, constructorsIn_append (runsIn_warning d),
      constructed_warning, constructorsIn_run, List.append_nil, List.append_nil]

/-- A call runs the constructor of the class that is held, or none at all: it runs it exactly if it
asks for a set and the session has none. -/
theorem constructorsIn_invoke_cases (r : Registry) (s : Scene) (bs : Bindings) (c : Call) :
    (Asks r c ∧ bs.get? c.space = none ∧ ∃ p, r.getSet c.space = .ok p ∧
        constructorsIn (invoke r s bs c).events = [p.cls.id]) ∨
      (¬ (Asks r c ∧ bs.get? c.space = none) ∧
        constructorsIn (invoke r s bs c).events = []) := by
  rw [constructorsIn_invoke]
  by_cases hasks : Asks r c
  · rcases hasks.cases s bs with ⟨d, args, b, hreach⟩ | ⟨p, e, hnone, hp, hmade⟩
    · rw [hreach.constructorsIn_perform]
      cases hreach.provided with
      | had hb =>
        rw [bindSet_of_had r s bs c.space hb]
        exact .inr ⟨fun h => (nomatch h.2.symm.trans hb), rfl⟩
      | made hnone hp hmade =>
        rw [bindSet_of_made r s bs c.space hnone hp hmade]
        exact .inl ⟨hasks, hnone, _, hp, rfl⟩
    · rw [(hasks.perform_of_unmade s hnone hp hmade).2]
      exact .inl ⟨hasks, hnone, p, hp, rfl⟩
  · rw [(perform_of_not_asks s bs hasks).2]
    exact .inr ⟨fun h => hasks h.1, rfl⟩

/-- A call that comes to a set and runs no method leaves the set as it was. -/
theorem Reaches.kept {d : Descriptor} {args : List Value} {b : BoundSet}
    (h : Reaches r s bs c d args b) (hno : ∀ d args b m, ¬ Executes r s bs c d args b m) :
    (invoke r s bs c).bindings.get? c.space = some b := by
  have hbound := h.provided.get?_bindings c.space
  rw [if_pos rfl] at hbound
  rw [bindings_invoke]
  cases hm : b.lookup s d.method with
  | none =>
    rw [h.perform_of_missing hm]
    exact hbound
  | some m =>
    have hmemory : (b.run s d.method m args).memory = b.memory := by
      cases m with
      | uncallable typeName => rfl
      | method m =>
        cases hacc : m.refusal? (b.cls.name ++ "." ++ d.method) args.length with
        | none => exact absurd ⟨h, hm, hacc⟩ (hno d args b m)
        | some message =>
          rw [run_of_refused hacc]
          rfl
    rw [h.perform_of_found hm]
    dsimp only
    rw [Table.get?_put, if_pos rfl, hmemory]

/-- A session keeps a set as it is through a call that runs no method on it. -/
theorem kept_of_not_executes {space : String} {b : BoundSet} (hb : bs.get? space = some b)
    (hno : c.space = space → ∀ d args b m, ¬ Executes r s bs c d args b m) :
    (invoke r s bs c).bindings.get? space = some b := by
  by_cases hspace : c.space = space
  · subst hspace
    by_cases hasks : Asks r c
    · rcases hasks.cases s bs with ⟨d, args, b', hreach⟩ | ⟨p, e, hnone, -, -⟩
      · rw [hreach.kept (hno rfl)]
        cases hreach.provided with
        | had hb' => exact hb'.symm.trans hb
        | made hnone _ _ => exact nomatch hnone.symm.trans hb
      · exact nomatch hnone.symm.trans hb
    · rw [bindings_invoke, (perform_of_not_asks s bs hasks).1]
      exact hb
  · rw [bindings_invoke]
    rcases get?_bindings_perform r s bs c with hsame | ⟨d, args, b₁, b₂, -, -, hget⟩
    · rw [hsame]
      exact hb
    · rw [hget, if_neg (Ne.symm hspace)]
      exact hb

theorem Executes.get?_bindings {d : Descriptor} {args : List Value} {b : BoundSet} {m : Method}
    (h : Executes r s bs c d args b m) :
    (invoke r s bs c).bindings.get? c.space =
      some { b with memory := (m.run s b.memory args).memory } := by
  rw [bindings_invoke, h.perform_eq, Table.get?_put, if_pos rfl]

end Call

/-! ## Histories -/

namespace Evaluation

/-- The constructors that a call runs after a history. -/
def constructors (acts : List Act) (s : Scene) (c : Call) : List Nat :=
  constructorsIn (invoke (ofActs acts).registry s (ofActs acts).bindings c).events

/-- With this call, made after a history, the session makes a set of its namespace: it runs the
constructor of the class that is held, which does not raise. -/
structure Makes (before : List Act) (s : Scene) (c : Call) (p : Plugin) (memory : Memory) :
    Prop where
  held : (ofActs before).registry.getSet c.space = .ok p
  ran : constructors before s c = [p.cls.id]
  succeeded : p.cls.construct s = .ok memory

/-- A call of the history has made a set of the namespace. -/
def HasMade (acts : List Act) (space : String) : Prop :=
  ∃ before s c rest p memory, acts = before ++ .call s c :: rest ∧ c.space = space ∧
    Makes before s c p memory

/-- From after `before` on, one set serves a namespace through some steps: a method that is run for
the namespace is run on it, as the steps before have left it, and no other step changes it. -/
inductive Endures (before : List Act) (space : String) (b : BoundSet) :
    List Act → BoundSet → Prop where
  | start : Endures before space b [] b
  | idle {steps : List Act} {b' : BoundSet} {a : Act} (h : Endures before space b steps b')
      (ha : ∀ s c, a = .call s c → c.space = space → ∀ d args b m,
        ¬ Executes (ofActs (before ++ steps)).registry s (ofActs (before ++ steps)).bindings c
          d args b m) : Endures before space b (steps ++ [a]) b'
  | serve {steps : List Act} {b' : BoundSet} {s : Scene} {c : Call} {d : Descriptor}
      {args : List Value} {m : Method} (h : Endures before space b steps b')
      (hspace : c.space = space)
      (hrun : Executes (ofActs (before ++ steps)).registry s (ofActs (before ++ steps)).bindings c
        d args b' m) :
      Endures before space b (steps ++ [.call s c])
        { b' with memory := (m.run s b'.memory args).memory }

variable {acts before : List Act} {s : Scene} {c : Call} {p : Plugin} {memory : Memory}
  {space : String}

theorem bindings_concat_call (acts : List Act) (s : Scene) (c : Call) :
    (ofActs (acts ++ [.call s c])).bindings =
      (invoke (ofActs acts).registry s (ofActs acts).bindings c).bindings := by
  rw [ofActs_concat]
  rfl

theorem Makes.asks (h : Makes before s c p memory) :
    Asks (ofActs before).registry c ∧ (ofActs before).bindings.get? c.space = none := by
  rcases constructorsIn_invoke_cases (ofActs before).registry s (ofActs before).bindings c with
    ⟨hasks, hnone, -⟩ | ⟨-, hnil⟩
  · exact ⟨hasks, hnone⟩
  · exact nomatch h.ran.symm.trans hnil

/-- The call comes to the set that it makes. -/
theorem Makes.reaches (h : Makes before s c p memory) :
    ∃ d args, Reaches (ofActs before).registry s (ofActs before).bindings c d args
      ⟨p.cls, memory⟩ := by
  obtain ⟨⟨d, args, hd, hargs⟩, hnone⟩ := h.asks
  exact ⟨d, args, hd, hargs, .made hnone h.held h.succeeded⟩

/-- To make a set is to come to have one. -/
theorem exists_makes_iff : (∃ memory, Makes before s c p memory) ↔ FirstUse before s c p := by
  constructor
  · rintro ⟨memory, h⟩
    obtain ⟨d, args, hreach⟩ := h.reaches
    refine ⟨h.asks.2, h.held, ?_⟩
    rw [bindings_concat_call]
    by_cases hrun : ∀ d args b m,
        ¬ Executes (ofActs before).registry s (ofActs before).bindings c d args b m
    · rw [hreach.kept hrun]
      rfl
    · push Not at hrun
      obtain ⟨d, args, b, m, hrun⟩ := hrun
      rw [hrun.get?_bindings]
      rfl
  · intro h
    have hbound := h.bound
    rw [bindings_concat_call] at hbound
    rcases constructorsIn_invoke_cases (ofActs before).registry s (ofActs before).bindings c with
      ⟨hasks, -, q, hq, hran⟩ | ⟨hno, -⟩
    · obtain rfl : q = p := Except.ok.inj (hq.symm.trans h.held)
      cases hmade : q.cls.construct s with
      | ok memory => exact ⟨memory, h.held, hran, hmade⟩
      | error e =>
        rw [bindings_invoke, (hasks.perform_of_unmade s h.unbound h.held hmade).1, h.unbound]
          at hbound
        cases hbound
    · have hasks : ¬ Asks (ofActs before).registry c := fun hasks => hno ⟨hasks, h.unbound⟩
      rw [bindings_invoke, (perform_of_not_asks s _ hasks).1, h.unbound] at hbound
      cases hbound

/-- The session has a set of a namespace exactly if a call has made one. -/
theorem hasMade_iff (acts : List Act) (space : String) :
    HasMade acts space ↔ ((ofActs acts).bindings.get? space).isSome = true := by
  constructor
  · rintro ⟨before, s, c, rest, p, memory, rfl, rfl, h⟩
    have hbound := bound_append (exists_makes_iff.mp ⟨memory, h⟩).bound rest
    rwa [List.append_assoc, List.singleton_append] at hbound
  · intro h
    obtain ⟨b, hb⟩ := Option.isSome_iff_exists.mp h
    obtain ⟨before, s, c, rest, p, hacts, hspace, huse, -⟩ := exists_firstUse hb
    obtain ⟨memory, hmakes⟩ := exists_makes_iff.mpr huse
    exact ⟨before, s, c, rest, p, memory, hacts, hspace, hmakes⟩

theorem not_hasMade_iff (acts : List Act) (space : String) :
    ¬ HasMade acts space ↔ (ofActs acts).bindings.get? space = none := by
  rw [hasMade_iff, Option.not_isSome_iff_eq_none]

/-- A call runs a constructor exactly if it asks for a set and none has been made; then it is that of
the class that is held. -/
theorem constructors_cases (acts : List Act) (s : Scene) (c : Call) :
    (Asks (ofActs acts).registry c ∧ ¬ HasMade acts c.space ∧
        ∃ p, (ofActs acts).registry.getSet c.space = .ok p ∧
          constructors acts s c = [p.cls.id]) ∨
      (¬ (Asks (ofActs acts).registry c ∧ ¬ HasMade acts c.space) ∧
        constructors acts s c = []) := by
  rw [not_hasMade_iff]
  exact constructorsIn_invoke_cases ..

/-- A constructor that raises changes nothing in the session. -/
theorem bindings_of_unmade {e : Raised} (hasks : Asks (ofActs acts).registry c)
    (hno : ¬ HasMade acts c.space) (hp : (ofActs acts).registry.getSet c.space = .ok p)
    (he : p.cls.construct s = .error e) :
    (ofActs (acts ++ [.call s c])).bindings = (ofActs acts).bindings := by
  rw [bindings_concat_call, bindings_invoke]
  exact (hasks.perform_of_unmade s ((not_hasMade_iff ..).mp hno) hp he).1

/-! ## The set that was made -/

/-- A step that is made while a set serves is one more step through which it serves. -/
theorem Endures.step {steps : List Act} {b b' : BoundSet}
    (h : Endures before space b steps b')
    (hb : (ofActs (before ++ steps)).bindings.get? space = some b') (a : Act) :
    ∃ b'', Endures before space b (steps ++ [a]) b'' ∧
      (ofActs (before ++ (steps ++ [a]))).bindings.get? space = some b'' := by
  rw [← List.append_assoc]
  cases a with
  | change c =>
    refine ⟨b', h.idle (fun _ _ ha => nomatch ha), ?_⟩
    rw [ofActs_concat]
    exact hb
  | call s c =>
    rw [bindings_concat_call]
    by_cases hrun : c.space = space → ∀ d args b m,
        ¬ Executes (ofActs (before ++ steps)).registry s (ofActs (before ++ steps)).bindings c
          d args b m
    · refine ⟨b', h.idle ?_, kept_of_not_executes hb hrun⟩
      rintro s' c' heq
      cases heq
      exact hrun
    · push Not at hrun
      obtain ⟨rfl, d, args, b₁, m, hrun⟩ := hrun
      obtain rfl : b₁ = b' := by
        cases hrun.provided with
        | had hb₁ => exact Option.some.inj (hb₁.symm.trans hb)
        | made hnone _ _ => exact nomatch hnone.symm.trans hb
      exact ⟨_, h.serve rfl hrun, hrun.get?_bindings⟩

/-- The set that a call makes serves the namespace from then on. -/
theorem Makes.endures (h : Makes before s c p memory) (rest : List Act) :
    ∃ b, Endures before c.space ⟨p.cls, memory⟩ (.call s c :: rest) b ∧
      (ofActs (before ++ .call s c :: rest)).bindings.get? c.space = some b := by
  induction rest using List.reverseRecOn with
  | nil =>
    -- the call that makes the set may be the first that it serves
    obtain ⟨d, args, hreach⟩ := h.reaches
    have hstart : ofActs (before ++ []) = ofActs before := by rw [List.append_nil]
    rw [bindings_concat_call]
    by_cases hrun : ∀ d args b m,
        ¬ Executes (ofActs before).registry s (ofActs before).bindings c d args b m
    · refine ⟨_, Endures.start.idle (a := .call s c) ?_, hreach.kept hrun⟩
      rintro s' c' heq -
      cases heq
      rw [hstart]
      exact hrun
    · push Not at hrun
      obtain ⟨d', args', b, m, hrun⟩ := hrun
      obtain rfl : b = ⟨p.cls, memory⟩ :=
        Except.ok.inj (hrun.provided.outcome_eq.symm.trans hreach.provided.outcome_eq)
      have hstarted : Executes (ofActs (before ++ [])).registry s (ofActs (before ++ [])).bindings c
          d' args' ⟨p.cls, memory⟩ m := by
        rw [hstart]
        exact hrun
      exact ⟨_, Endures.start.serve rfl hstarted, hrun.get?_bindings⟩
  | append_singleton rest a ih =>
    obtain ⟨b, hendures, hb⟩ := ih
    exact hendures.step hb a

/-- A call runs a constructor exactly if it is resolved, all of its arguments are coerced, and no call
before has made a set of the namespace. It is then the constructor of the class that is held, and it
runs once. If it raises, the session is as before, and still without a set. If not, the set that it
makes is the one on which every later call of the namespace runs. -/
theorem makes_once (acts : List Act) (s : Scene) (c : Call) :
    (constructors acts s c ≠ [] ↔ Asks (ofActs acts).registry c ∧ ¬ HasMade acts c.space) ∧
      (constructors acts s c = [] ∨
        ∃ p, (ofActs acts).registry.getSet c.space = .ok p ∧ constructors acts s c = [p.cls.id] ∧
          ((∃ memory, Makes acts s c p memory) ∨
            ∃ e, p.cls.construct s = .error e ∧
              (ofActs (acts ++ [.call s c])).bindings = (ofActs acts).bindings ∧
              ¬ HasMade (acts ++ [.call s c]) c.space)) ∧
      (∀ p memory, Makes acts s c p memory → ∀ rest, ∃ b,
        Endures acts c.space ⟨p.cls, memory⟩ (.call s c :: rest) b ∧
          ∀ s' c' d args b', c'.space = c.space →
            Reaches (ofActs (acts ++ .call s c :: rest)).registry s'
                (ofActs (acts ++ .call s c :: rest)).bindings c' d args b' → b' = b) := by
  refine ⟨?_, ?_, ?_⟩
  · rcases constructors_cases acts s c with ⟨hasks, hno, p, -, hran⟩ | ⟨hnot, hnil⟩
    · rw [hran]
      exact iff_of_true (List.cons_ne_nil _ _) ⟨hasks, hno⟩
    · exact iff_of_false (fun h => h hnil) hnot
  · rcases constructors_cases acts s c with ⟨hasks, hno, p, hp, hran⟩ | ⟨-, hnil⟩
    · refine .inr ⟨p, hp, hran, ?_⟩
      cases hmade : p.cls.construct s with
      | ok memory => exact .inl ⟨memory, hp, hran, hmade⟩
      | error e =>
        have hsame := bindings_of_unmade hasks hno hp hmade
        refine .inr ⟨e, rfl, hsame, ?_⟩
        rw [not_hasMade_iff, hsame]
        exact (not_hasMade_iff ..).mp hno
    · exact .inl hnil
  · intro p memory hmakes rest
    obtain ⟨b, hendures, hb⟩ := hmakes.endures rest
    refine ⟨b, hendures, fun s' c' d args b' hspace hreach => ?_⟩
    cases hreach.provided with
    | had hb' =>
      rw [hspace] at hb'
      exact Option.some.inj (hb'.symm.trans hb)
    | made hnone _ _ =>
      rw [hspace] at hnone
      exact nomatch hnone.symm.trans hb

example :
    let registered : List Act := [.change (.register (solePlugin 1 [] (.ok (.text ""))))]
    constructors registered bareScene (soleCall []) = [1] ∧
      constructors (registered ++ [.call bareScene (soleCall [])]) bareScene (soleCall []) = [] ∧
      constructors registered bareScene (soleCall [.text ""]) = [] := ⟨rfl, rfl, rfl⟩

end Evaluation

end BuildScript
