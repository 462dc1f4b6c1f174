import BuildScript.Proofs.Dispatch.Forgetful
import BuildScript.Proofs.Dispatch.History
import BuildScript.Proofs.Session.Frame
import Mathlib.Data.List.Induction

/-!
Calls of the library's functions in a session that goes on. Between the calls projects and
properties change, targets are entered and left, sets come into the registries and go, and other
calls are made. A set of the library that a dispatcher has keeps nothing of what it has seen
(`CorePristine.afterAll`). Main statement: `invoke_eq_renewed`, that after every sequence of
operations a call answers what it would answer with a dispatcher made in that moment, and changes
nothing but the sets of its dispatcher and the events.
-/

namespace BuildScript

open SessionM

/-- A new dispatcher over what one works on: the same project, registry and properties. -/
def Dispatcher.renewed (d : Dispatcher) (serial : Nat) : Dispatcher :=
  { serial, project := d.project, registry := d.registry, separate := d.separate }

namespace Session

/-- An operation of a session. -/
inductive Step where
  | newProject (name : String) (p : Project)
  | changeProject (project : String) (f : Project → Project)
  | changeProperties (project : String) (dictionary : Option String) (f : Properties → Properties)
  | enter (project target execution : String)
  | leave (execution : String)
  | newRegistry (name : String)
  | makePlugin (name candidate : String) (description : Option String)
  | register (registry plugin : String)
  | unregister (registry space : String)
  | registerCore (registry : String) (disabled : List String)
  | activate (plugin : String)
  | deactivate (plugin : String)
  | reset
  | newDispatcher (name project : String) (registry dictionary : Option String)
  | invoke (dispatcher : String) (c : Call)
  | call (dispatcher : String) (c : Call)
  | callAll (dispatcher : String) (cs : List Call)
  | functionSet (dispatcher space : String)

/-- The session after an operation, whether it answers or raises. -/
def Step.after (s : Session) : Step → Session
  | newProject name p => (Session.newProject name p).after s
  | changeProject project f => (Session.changeProject project f).after s
  | changeProperties project dictionary f =>
    (Session.changeProperties project dictionary f).after s
  | enter project target execution => (Session.enter project target execution).after s
  | leave execution => (Session.leave execution).after s
  | newRegistry name => (Session.newRegistry name).after s
  | makePlugin name candidate description =>
    (Session.makePlugin name candidate description).after s
  | register registry plugin => (Session.register registry plugin).after s
  | unregister registry space => (Session.unregister registry space).after s
  | registerCore registry disabled => (Session.registerCore registry disabled).after s
  | activate plugin => (Session.activate plugin).after s
  | deactivate plugin => (Session.deactivate plugin).after s
  | reset => Session.reset.after s
  | newDispatcher name project registry dictionary =>
    (Session.newDispatcher name project registry dictionary).after s
  | invoke dispatcher c => (Session.invoke dispatcher c).after s
  | call dispatcher c => (Session.call dispatcher c).after s
  | callAll dispatcher cs => (Session.callAll dispatcher cs).after s
  | functionSet dispatcher space => (Session.functionSet dispatcher space).after s

/-- The session after a sequence of operations. -/
def afterAll (s : Session) (steps : List Step) : Session := steps.foldl Step.after s

theorem afterAll_concat (s : Session) (steps : List Step) (a : Step) :
    s.afterAll (steps ++ [a]) = a.after (s.afterAll steps) := by
  unfold afterAll
  rw [List.foldl_append, List.foldl_cons, List.foldl_nil]

/-- The registry of a dispatcher holds no other class under a namespace of the library. -/
def HoldsCore (s : Session) (name : String) : Prop :=
  ∀ d, s.dispatchers.get? name = some d → ∀ cls ∈ Core.classes s.coreFile, ∀ space,
    cls.space = .text space → (s.registryOf d.registry).HoldsOnly space cls

/-- The sets of the library that a dispatcher has are as they were made. -/
def CorePristine (s : Session) (name : String) : Prop :=
  ∀ d, s.dispatchers.get? name = some d → ∀ cls ∈ Core.classes s.coreFile, ∀ space,
    cls.space = .text space → Pristine d.bindings space cls

/-! ## One operation -/

/-- What an operation does to the dispatchers: nothing, or it makes one without sets, or it employs
one, which then has what its sets have come to. -/
inductive Redispatches (s s' : Session) : Prop where
  | kept (h : s'.dispatching = s.dispatching)
  | made {name : String} {d : Dispatcher} (hd : d.bindings = .empty)
      (h : s'.dispatching = (s.coreFile, s.dispatchers.put name d))
  | employed {name : String} {d : Dispatcher} {bs : Bindings}
      (hd : s.dispatchers.get? name = some d)
      (hbs : ∀ cls space, cls.Forgetful → (s.registryOf d.registry).HoldsOnly space cls →
        Pristine d.bindings space cls → Pristine bs space cls)
      (h : s'.dispatching = (s.coreFile, s.dispatchers.put name { d with bindings := bs }))

theorem redispatches_employ {ε α β : Type} {use : Registry → Scene → Bindings → Dispatched ε α}
    {next : Dispatcher × Registry × Scene → Except ε α → SessionM β}
    (hnext : ∀ t o, Keeps dispatching (next t o))
    (huse : ∀ {cls : SetClass} {r : Registry} {bs : Bindings} {space : String} scene,
      cls.Forgetful → r.HoldsOnly space cls → Pristine bs space cls →
        Pristine (use r scene bs).bindings space cls)
    (s : Session) (name : String) : Redispatches s ((employ use next name).after s) := by
  rcases dispatching_after_employ use next hnext s name with heq | ⟨d, p, hd, heq⟩
  · exact .kept heq
  · exact .employed hd.dispatcher (fun cls space hcls hr hbs => huse _ hcls hr hbs) heq

theorem Step.redispatches (a : Step) (s : Session) : Redispatches s (a.after s) := by
  cases a with
  | newProject n p => exact .kept (keeps_newProject aside_dispatching n p s)
  | changeProject n f => exact .kept (keeps_changeProject aside_dispatching n f s)
  | changeProperties n d f => exact .kept (keeps_changeProperties aside_dispatching n d f s)
  | enter n t e => exact .kept (keeps_enter aside_dispatching n t e s)
  | leave e => exact .kept (keeps_leave aside_dispatching e s)
  | newRegistry n => exact .kept (keeps_newRegistry aside_dispatching n s)
  | makePlugin n c d => exact .kept (keeps_makePlugin n c d s)
  | register r p => exact .kept (keeps_register r p s)
  | unregister r space => exact .kept (keeps_unregister r space s)
  | registerCore r ds => exact .kept (keeps_registerCore r ds s)
  | activate p => exact .kept (keeps_activate p s)
  | deactivate p => exact .kept (keeps_deactivate p s)
  | reset => exact .kept (keeps_reset s)
  | newDispatcher n p r ds =>
    rcases makesNew_newDispatcher n p r ds s with heq | ⟨d, hd, heq⟩
    · exact .kept heq
    · exact .made hd heq
  | invoke n c =>
    show Redispatches s ((Session.invoke n c).after s)
    rw [invoke_eq_employ]
    exact redispatches_employ (fun _ o => keeps_answerOf o)
      (fun scene hcls hr hbs => hbs.invoke hcls hr scene c) s n
  | call n c =>
    show Redispatches s ((Session.call n c).after s)
    rw [call_eq_employ]
    exact redispatches_employ (fun _ o => keeps_valueOf o)
      (fun scene hcls hr hbs => hbs.invoke hcls hr scene c) s n
  | callAll n cs =>
    show Redispatches s ((Session.callAll n cs).after s)
    rw [callAll_eq_employ]
    exact redispatches_employ (fun _ o => keeps_valueOf o)
      (fun scene hcls hr hbs => hbs.callAll hcls hr scene cs) s n
  | functionSet n space =>
    show Redispatches s ((Session.functionSet n space).after s)
    rw [functionSet_eq_employ]
    exact redispatches_employ (keeps_viewOf aside_dispatching space)
      (fun scene hcls hr hbs => hbs.bindSet hcls hr scene space) s n

theorem Redispatches.coreFile_eq {s s' : Session} (h : Redispatches s s') :
    s'.coreFile = s.coreFile := by
  cases h with
  | kept h => exact congrArg Prod.fst h
  | made _ h => exact congrArg Prod.fst h
  | employed _ _ h => exact congrArg Prod.fst h

/-- A dispatcher is as it was, or new, or has come to something. -/
theorem Redispatches.get?_cases {s s' : Session} (h : Redispatches s s') {name : String}
    {d' : Dispatcher} (hd' : s'.dispatchers.get? name = some d') :
    s.dispatchers.get? name = some d' ∨ d'.bindings = .empty ∨
      ∃ d, s.dispatchers.get? name = some d ∧
        ∀ cls space, cls.Forgetful → (s.registryOf d.registry).HoldsOnly space cls →
          Pristine d.bindings space cls → Pristine d'.bindings space cls := by
  cases h with
  | kept h =>
    have hdisp : s'.dispatchers = s.dispatchers := congrArg Prod.snd h
    exact .inl (hdisp ▸ hd')
  | @made n d hd h =>
    have hdisp : s'.dispatchers = s.dispatchers.put n d := congrArg Prod.snd h
    rw [hdisp, Table.get?_put] at hd'
    by_cases hname : name = n
    · rw [if_pos hname, Option.some.injEq] at hd'
      exact .inr (.inl (hd' ▸ hd))
    · rw [if_neg hname] at hd'
      exact .inl hd'
  | @employed n d bs hd hbs h =>
    have hdisp : s'.dispatchers = s.dispatchers.put n { d with bindings := bs } :=
      congrArg Prod.snd h
    rw [hdisp, Table.get?_put] at hd'
    by_cases hname : name = n
    · rw [if_pos hname, Option.some.injEq] at hd'
      exact .inr (.inr ⟨d, hname ▸ hd, hd' ▸ hbs⟩)
    · rw [if_neg hname] at hd'
      exact .inl hd'

namespace CorePristine

variable {s : Session} {name : String}

/-- No operation changes a set of the library that a dispatcher has. -/
theorem after (h : s.CorePristine name) (hheld : s.HoldsCore name) (a : Step) :
    (a.after s).CorePristine name := by
  have hstep := a.redispatches s
  intro d' hd' cls hcls space hspace
  rw [hstep.coreFile_eq] at hcls
  rcases hstep.get?_cases hd' with hd | hd | ⟨d, hd, hkept⟩
  · exact h d' hd cls hcls space hspace
  · rw [hd]
    exact pristine_empty space cls
  · exact hkept cls space (Core.forgetful_of_mem hcls) (hheld d hd cls hcls space hspace)
      (h d hd cls hcls space hspace)

/-- No sequence of operations changes a set of the library that a dispatcher has. -/
theorem afterAll (h : s.CorePristine name) (steps : List Step)
    (hheld : ∀ before, before <+: steps → (s.afterAll before).HoldsCore name) :
    (s.afterAll steps).CorePristine name := by
  induction steps using List.reverseRecOn with
  | nil => exact h
  | append_singleton steps a ih =>
    have hsteps := ih fun before hbefore => hheld before (hbefore.trans (List.prefix_append _ _))
    rw [afterAll_concat]
    exact hsteps.after (hheld steps (List.prefix_append _ _)) a

end CorePristine

theorem coreFile_afterAll (s : Session) (steps : List Step) :
    (s.afterAll steps).coreFile = s.coreFile := by
  induction steps using List.reverseRecOn with
  | nil => rfl
  | append_singleton steps a ih => rw [afterAll_concat, (a.redispatches _).coreFile_eq, ih]

/-- A dispatcher that has no sets has none that could have changed. -/
theorem corePristine_of_empty {s : Session} {name : String}
    (h : ∀ d, s.dispatchers.get? name = some d → d.bindings = .empty) : s.CorePristine name := by
  intro d hd cls _ space _
  rw [h d hd]
  exact pristine_empty space cls

/-! ## A dispatcher made anew -/

/-- Makes the dispatcher of a name anew. -/
def renew (name : String) : SessionM Unit := do
  let d ← found name ((← get).dispatchers.get? name)
  let serial ← fresh
  modify fun s => { s with dispatchers := s.dispatchers.put name (d.renewed serial) }

/-- The session with a dispatcher made anew. -/
def renewed (s : Session) (name : String) (d : Dispatcher) : Session :=
  { s with nextId := s.nextId + 1, dispatchers := s.dispatchers.put name (d.renewed s.nextId) }

section Renewed

variable {s : Session} {name : String} {d : Dispatcher} {p : Project}

theorem run_renew (h : s.dispatchers.get? name = some d) :
    (renew name).run.run s = (.ok (), s.renewed name d) := by
  have hd : found name (s.dispatchers.get? name) = pure d := by rw [h]; rfl
  show (found name (s.dispatchers.get? name) >>= _).run.run s = _
  rw [hd]
  rfl

theorem run_renew_bind {α : Type} (h : s.dispatchers.get? name = some d) (x : SessionM α) :
    (renew name >>= fun _ => x).run.run s = x.run.run (s.renewed name d) :=
  run_bind_of_ok (run_renew h) _

theorem Dispatches.renewed (h : s.Dispatches name d p) :
    (s.renewed name d).Dispatches name (d.renewed s.nextId) p where
  dispatcher := by
    show (s.dispatchers.put name _).get? name = _
    rw [Table.get?_put, if_pos rfl]
  project := h.project

theorem not_dispatches_renewed (h : ∀ d p, ¬ s.Dispatches name d p)
    (hd : s.dispatchers.get? name = some d) :
    ∀ d' p, ¬ (s.renewed name d).Dispatches name d' p := by
  intro d' p h'
  have hd' : (s.dispatchers.put name (d.renewed s.nextId)).get? name = some d' := h'.dispatcher
  rw [Table.get?_put, if_pos rfl, Option.some.injEq] at hd'
  subst hd'
  exact h d p ⟨hd, h'.project⟩

theorem registryOf_renewed (ref : RegistryRef) :
    (s.renewed name d).registryOf ref = s.registryOf ref := by
  cases ref <;> rfl

/-- Without a dispatcher of the name both are refused, and in the same way. -/
theorem answer_invoke_of_none (h : ∀ d p, ¬ s.Dispatches name d p) (c : Call) :
    (invoke name c).answer s = (renew name >>= fun _ => invoke name c).answer s := by
  have hinvoke : (invoke name c).answer s = .error (.ofText "KeyError" name) :=
    congrArg Prod.fst (run_invoke_of_none h c)
  rw [hinvoke]
  cases hd : s.dispatchers.get? name with
  | none =>
    have hfound : found name (s.dispatchers.get? name) = noKey name := by rw [hd]; rfl
    show Except.error _ = SessionM.answer ((found name (s.dispatchers.get? name) >>= _) >>= _) s
    rw [hfound]
    rfl
  | some d =>
    have hrenewed := run_invoke_of_none (not_dispatches_renewed h hd) c
    exact (congrArg Prod.fst ((run_renew_bind hd (invoke name c)).trans hrenewed)).symm

/-- A call of a set that remembers nothing answers what it would answer with the dispatcher made
anew. -/
theorem answer_invoke_renewed {cls : SetClass} {c : Call} (h : s.Dispatches name d p)
    (hcls : cls.Forgetful) (hheld : (s.registryOf d.registry).HoldsOnly c.space cls)
    (hset : Pristine d.bindings c.space cls) :
    (invoke name c).answer s = (renew name >>= fun _ => invoke name c).answer s := by
  have hrenewed : (renew name >>= fun _ => invoke name c).answer s =
      (invoke name c).answer (s.renewed name d) :=
    congrArg Prod.fst (run_renew_bind h.dispatcher (invoke name c))
  have hreg : (s.renewed name d).registryOf (d.renewed s.nextId).registry =
      s.registryOf d.registry := registryOf_renewed d.registry
  rw [hrenewed, h.answer_invoke, h.renewed.answer_invoke, hreg]
  -- the new dispatcher has no sets, and what they would see is the same
  have houtcome := hcls.outcome_invoke_empty (s := s.sceneOf d p) hheld hset
  rw [houtcome]
  exact answer_answerOf ..

end Renewed

/-- After every sequence of operations, a call of a function of the library answers what it would
answer with a dispatcher made in that moment, and nothing changes but the sets of its dispatcher
and the events. -/
theorem invoke_eq_renewed (s : Session) (name : String) (steps : List Step) (c : Call)
    (hnew : ∀ d, s.dispatchers.get? name = some d → d.bindings = .empty)
    (hheld : ∀ before, before <+: steps → (s.afterAll before).HoldsCore name)
    (hcore : ∃ cls ∈ Core.classes s.coreFile, cls.space = .text c.space) :
    (invoke name c).answer (s.afterAll steps) =
        (renew name >>= fun _ => invoke name c).answer (s.afterAll steps) ∧
      ((invoke name c).after (s.afterAll steps) = s.afterAll steps ∨
        ∃ d bs es, (s.afterAll steps).dispatchers.get? name = some d ∧
          (invoke name c).after (s.afterAll steps) =
            { s.afterAll steps with
              dispatchers := (s.afterAll steps).dispatchers.put name { d with bindings := bs }
              events := (s.afterAll steps).events ++ es }) := by
  have hsets := (corePristine_of_empty hnew).afterAll steps hheld
  have hnow := hheld steps (List.prefix_refl _)
  rw [← coreFile_afterAll s steps] at hcore
  obtain ⟨cls, hcls, hspace⟩ := hcore
  generalize s.afterAll steps = now at hsets hnow hcls ⊢
  rcases now.dispatches_or name with ⟨d, p, h⟩ | h
  · refine ⟨answer_invoke_renewed h (Core.forgetful_of_mem hcls)
      (hnow d h.dispatcher cls hcls _ hspace) (hsets d h.dispatcher cls hcls _ hspace), .inr ?_⟩
    exact ⟨d, _, _, h.dispatcher, h.after_invoke c⟩
  · exact ⟨answer_invoke_of_none h c, .inl (congrArg Prod.snd (run_invoke_of_none h c))⟩

/-! ## A property that is set between two calls -/

/-- The library's functions on properties, of which one is listed. -/
def propertyPlugin : Plugin :=
  { id := 0, space := "property", cls := Core.propertyFunctions "", description := ""
    descriptors := [{ space := "property", name := "exists", method := "exists", params := [.text]
                      returns := .bool }] }

/-- A session in which they are registered. -/
def propertySession : Session :=
  { host := bareScene.host, coreFile := "", nextId := 1
    default :=
      { registry :=
          { sets := Table.empty.put "property" propertyPlugin
            functions := propertyPlugin.descriptors.foldl (fun fs d => fs.put d.key d) .empty } }
    projects := Shelf.add {} "main" bareScene.project
    dispatchers :=
      Table.empty.put "main" { serial := 0, project := 0, registry := .default, separate := none } }

/-- The call that asks for a property. -/
def propertyCall : Call := { space := "property", function := "exists", args := [.text "x"] }

/-- The property is asked for, and then set. -/
def propertySteps : List Step :=
  [.invoke "main" propertyCall, .changeProperties "main" none (·.put "x" { value := .text "" })]

theorem holdsCore_of_property {s : Session} (hfile : s.coreFile = "")
    (hreg : ∀ d, s.dispatchers.get? "main" = some d →
      s.registryOf d.registry = propertySession.default.registry) : s.HoldsCore "main" := by
  intro d hd cls hcls space hspace p hp
  rw [hreg d hd, getSet_eq_ok_iff] at hp
  have hput : (Table.empty.put "property" propertyPlugin).get? space = some p := hp
  rw [Table.get?_put] at hput
  split at hput
  · rename_i hproperty
    obtain rfl := Option.some.inj hput
    subst hproperty
    rw [hfile] at hcls
    simp only [Core.classes, List.mem_cons, List.not_mem_nil, or_false] at hcls
    rcases hcls with rfl | rfl | rfl | rfl | rfl | rfl | rfl
    all_goals first
      | rfl
      | exact absurd (Value.text.inj hspace) (by decide)
  · cases hput

theorem holdsCore_propertySteps (before : List Step) (h : before <+: propertySteps) :
    (propertySession.afterAll before).HoldsCore "main" := by
  have hcases : before = [] ∨ before = [.invoke "main" propertyCall] ∨ before = propertySteps := by
    rcases List.prefix_cons_iff.mp h with rfl | ⟨rest, rfl, hrest⟩
    · exact .inl rfl
    · rcases List.prefix_cons_iff.mp hrest with rfl | ⟨last, rfl, hlast⟩
      · exact .inr (.inl rfl)
      · rw [List.prefix_nil.mp hlast]
        exact .inr (.inr rfl)
  rcases hcases with rfl | rfl | rfl
  all_goals
    refine holdsCore_of_property rfl fun d hd => ?_
    obtain rfl := Option.some.inj hd
    rfl

theorem invoke_propertySession :
    (invoke "main" propertyCall).answer (propertySession.afterAll propertySteps) =
        (renew "main" >>= fun _ => invoke "main" propertyCall).answer
          (propertySession.afterAll propertySteps) ∧
      (invoke "main" propertyCall).answer (propertySession.afterAll propertySteps) =
        .ok (.value (.bool true)) := by
  have hnew : ∀ d, propertySession.dispatchers.get? "main" = some d → d.bindings = .empty := by
    intro d hd
    obtain rfl := Option.some.inj hd
    rfl
  have hcore : Core.propertyFunctions "" ∈ Core.classes propertySession.coreFile := by
    simp [Core.classes, propertySession]
  exact ⟨(invoke_eq_renewed propertySession "main" propertySteps propertyCall hnew
    holdsCore_propertySteps ⟨_, hcore, rfl⟩).1, rfl⟩

end Session

end BuildScript
