import BuildScript.Session

/-!
What an operation of a session answers and what it leaves (`SessionM.answer`, `SessionM.after`), and
what it leaves alone: `Keeps f x` says that whatever the operation `x` comes to, `f` of the session
is the same afterwards. The operations on projects and properties leave alone whatever lies aside from
these (`Session.Aside`). Main statements: the operations on registries, plugins, projects and
properties change no dispatcher (`Session.keeps_register` and so on), and a call changes the sets of
its dispatcher and the events, and nothing else (`Session.Dispatches.after_invoke`).
-/

namespace BuildScript

namespace SessionM

variable {α β γ : Type}

/-- What an operation answers or raises. -/
def answer (x : SessionM α) (s : Session) : Except Raised α := (x.run.run s).1

/-- The session after an operation. -/
def after (x : SessionM α) (s : Session) : Session := (x.run.run s).2

section Run

variable {s : Session}

/-- An operation goes on with what the one before it answers, from where that leaves the session. -/
theorem run_bind_of_ok {x : SessionM α} {a : α} {s' : Session} (h : x.run.run s = (.ok a, s'))
    (f : α → SessionM β) : (x >>= f).run.run s = (f a).run.run s' := by
  rw [ExceptT.run_bind, StateT.run_bind, h]
  rfl

theorem run_bind_of_error {x : SessionM α} {e : Raised} {s' : Session}
    (h : x.run.run s = (.error e, s')) (f : α → SessionM β) :
    (x >>= f).run.run s = (.error e, s') := by
  rw [ExceptT.run_bind, StateT.run_bind, h]
  rfl

theorem after_bind_of_ok {x : SessionM α} {a : α} (h : x.answer s = .ok a) (f : α → SessionM β) :
    (x >>= f).after s = (f a).after (x.after s) :=
  congrArg Prod.snd (run_bind_of_ok (Prod.ext h rfl) f)

theorem after_bind_of_error {x : SessionM α} {e : Raised} (h : x.answer s = .error e)
    (f : α → SessionM β) : (x >>= f).after s = x.after s :=
  congrArg Prod.snd (run_bind_of_error (Prod.ext h rfl) f)

end Run

/-- An operation leaves this of a session alone. -/
def Keeps (f : Session → γ) (x : SessionM α) : Prop := ∀ s, f (x.after s) = f s

namespace Keeps

variable {f : Session → γ} {x : SessionM α} {g : α → SessionM β}

theorem pure (a : α) : Keeps f (pure a : SessionM α) := fun _ => rfl

theorem throw (e : Raised) : Keeps f (throw e : SessionM α) := fun _ => rfl

theorem get : Keeps f (get : SessionM Session) := fun _ => rfl

theorem modify {h : Session → Session} (hh : ∀ s, f (h s) = f s) :
    Keeps f (modify h : SessionM Unit) := hh

theorem bind (hx : Keeps f x) (hg : ∀ a, Keeps f (g a)) : Keeps f (x >>= g) := by
  intro s
  cases h : x.answer s with
  | ok a => rw [after_bind_of_ok h g, hg a, hx]
  | error e => rw [after_bind_of_error h g, hx]

theorem read {g : Session → SessionM β} (hg : ∀ s, f ((g s).after s) = f s) :
    Keeps f (MonadState.get >>= g) := hg

/-- The session is read and written: what is left alone is the same in both. -/
theorem read_write {h : Session → Session} {g : Session → SessionM β} (hh : ∀ s, f (h s) = f s)
    (hg : ∀ s, Keeps f (g s)) :
    Keeps f (MonadState.get >>= fun s => MonadState.set (h s) >>= fun _ => g s) := by
  intro s
  show f ((g s).after (h s)) = f s
  rw [hg s, hh]

theorem found (key : String) (o : Option α) : Keeps f (found key o) := by
  cases o with
  | none => exact throw _
  | some a => exact pure a

theorem accept (r : Except RegistryError α) : Keeps f (accept r) := by
  cases r with
  | error e => exact throw _
  | ok a => exact pure a

theorem settled (e : Option ChangeError) : Keeps f (settled e) := by
  cases e with
  | none => exact pure _
  | some e => exact throw _

theorem present (r : Except Missing α) : Keeps f (present r) := by
  cases r with
  | error e => exact throw _
  | ok a => exact pure a

end Keeps

end SessionM

namespace Session

open SessionM

/-- What `f` reads of a session lies aside from what is worked on in it: from its projects and their
properties, from its own registries, and from what has happened. -/
structure Aside {γ : Type} (f : Session → γ) : Prop where
  registries : ∀ s registries, f { s with registries } = f s
  projects : ∀ s projects, f { s with projects } = f s
  dictionaries : ∀ s dictionaries, f { s with dictionaries } = f s
  executions : ∀ s executions, f { s with executions } = f s
  seen : ∀ s seen, f { s with seen } = f s
  nextId : ∀ s nextId, f { s with nextId } = f s
  events : ∀ s events, f { s with events } = f s

/-- The dispatchers of a session, and the file of the library's own sets. -/
def dispatching (s : Session) : String × Table String Dispatcher := (s.coreFile, s.dispatchers)

theorem aside_dispatching : Aside dispatching :=
  ⟨fun _ _ => rfl, fun _ _ => rfl, fun _ _ => rfl, fun _ _ => rfl, fun _ _ => rfl, fun _ _ => rfl, fun _ _ => rfl⟩

theorem keeps_registryRef {γ : Type} {f : Session → γ} (name : String) : Keeps f (registryRef name) := by
  unfold registryRef
  split
  · exact .pure _
  · exact .bind .get fun s => .bind (.found _ _) fun h => .pure _

theorem keeps_projectHandle {γ : Type} {f : Session → γ} (name : String) : Keeps f (projectHandle name) :=
  .bind .get fun _ => .found _ _

theorem keeps_project {γ : Type} {f : Session → γ} (name : String) : Keeps f (project name) :=
  .bind .get fun _ => .bind (keeps_projectHandle _) fun _ => .found _ _

section Aside

variable {γ : Type} {f : Session → γ} (hf : Aside f)

include hf

theorem keeps_emit (es : List Event) : Keeps f (emit es) := .modify fun _ => hf.events _ _

theorem keeps_log (rs : List Record) : Keeps f (log rs) := keeps_emit hf _

theorem keeps_fresh : Keeps f fresh := fun _ => hf.nextId _ _

theorem keeps_newRegistry (name : String) : Keeps f (newRegistry name) :=
  .modify fun _ => hf.registries _ _

/-! ## Projects and properties -/

theorem keeps_newProject (name : String) (p : Project) : Keeps f (newProject name p) :=
  .modify fun _ => hf.projects _ _

theorem keeps_changeProject (name : String) (g : Project → Project) : Keeps f (changeProject name g) := by
  unfold changeProject
  refine .bind (keeps_projectHandle _) fun h => .bind .get fun s => .bind (.found _ _) fun p => ?_
  exact .modify fun _ => hf.projects _ _

theorem keeps_leave (execution : String) : Keeps f (leave execution) := by
  unfold leave
  refine .read fun s => ?_
  split
  · rfl
  · have hboth (projects : Shelf Project) (executions : Table String (Nat × Execution)) :
        f { s with projects, executions } = f s :=
      (hf.executions { s with projects } executions).trans (hf.projects s projects)
    exact hboth _ _

theorem keeps_enter (projectName target execution : String) : Keeps f (enter projectName target execution) := by
  unfold enter
  refine .bind (keeps_projectHandle _) fun h => .bind (keeps_project _) fun p => ?_
  refine .bind (.present _) fun e => .bind (.modify fun _ => hf.projects _ _) fun _ => ?_
  refine .bind (keeps_leave hf _) fun _ => .bind (.modify fun _ => hf.executions _ _) fun _ => ?_
  exact .bind (keeps_project _) fun p => .pure _

theorem keeps_dictionaryHandle (name : String) : Keeps f (dictionaryHandle name) := by
  unfold dictionaryHandle
  refine .bind .get fun s => ?_
  split
  · exact .pure _
  · exact .bind .get fun _ => .bind (.modify fun _ => hf.dictionaries _ _) fun _ => .pure _

theorem keeps_changeProperties (projectName : String) (dictionary : Option String)
    (g : Properties → Properties) : Keeps f (changeProperties projectName dictionary g) := by
  unfold changeProperties
  cases dictionary with
  | none => exact keeps_changeProject hf _ _
  | some d => exact .bind (keeps_dictionaryHandle hf d) fun h => .modify fun _ => hf.dictionaries _ _

theorem keeps_mapM_dictionaryHandle (dictionary : Option String) :
    Keeps f (dictionary.mapM dictionaryHandle) := by
  cases dictionary with
  | none => exact .pure _
  | some d => exact .bind (keeps_dictionaryHandle hf d) fun h => .pure _

end Aside

/-! ## Registries and plugins -/

theorem keeps_makePlugin (name candidate : String) (description : Option String) :
    Keeps dispatching (makePlugin name candidate description) := by
  unfold makePlugin
  refine .bind .get fun s => .bind (.found _ _) fun c => .bind (keeps_fresh aside_dispatching) fun id => ?_
  split
  · exact .throw _
  · exact .bind (.modify fun _ => rfl) fun _ => .pure _

theorem keeps_plugin (name : String) : Keeps dispatching (plugin name) := by
  unfold plugin
  refine .bind .get fun s => ?_
  split
  · exact .pure _
  · exact keeps_makePlugin _ _ _

theorem dispatching_setRegistry (s : Session) (r : Registry) (ref : RegistryRef) :
    (s.setRegistry r ref).dispatching = s.dispatching := by
  cases ref <;> rfl

theorem keeps_register (registryName pluginName : String) :
    Keeps dispatching (register registryName pluginName) := by
  unfold register
  refine .bind (keeps_plugin _) fun p => .bind (keeps_registryRef _) fun ref => ?_
  refine .bind .get fun s => .bind (.modify fun s => dispatching_setRegistry _ _ _) fun _ => ?_
  exact .bind (.settled _) fun _ => keeps_log aside_dispatching _

theorem keeps_unregister (registryName space : String) :
    Keeps dispatching (unregister registryName space) := by
  unfold unregister
  refine .bind (keeps_registryRef _) fun ref => .bind .get fun s => .bind (.accept _) fun r => ?_
  exact .bind (.modify fun s => dispatching_setRegistry _ _ _) fun _ => keeps_log aside_dispatching _

theorem keeps_registerCore (registryName : String) (disabled : List String) :
    Keeps dispatching (registerCore registryName disabled) := by
  unfold registerCore
  refine .bind (keeps_registryRef _) fun ref => .read_write (fun _ => rfl) fun s => ?_
  split
  · refine .bind (.modify fun _ => rfl) fun _ => .bind (keeps_log aside_dispatching _) fun _ => ?_
    exact .bind (.settled _) fun _ => .bind .get fun _ => .pure _
  · refine .bind (.modify fun _ => rfl) fun _ => .bind (keeps_log aside_dispatching _) fun _ => ?_
    exact .bind (.settled _) fun _ => .bind .get fun _ => .pure _

theorem keeps_activate (name : String) : Keeps dispatching (activate name) := by
  unfold activate
  refine .bind (keeps_plugin _) fun p => .bind .get fun s => .bind (.modify fun _ => rfl) fun _ => ?_
  exact .bind (.settled _) fun _ => .bind (keeps_log aside_dispatching _) fun _ => .pure _

theorem keeps_deactivate (name : String) : Keeps dispatching (deactivate name) := by
  unfold deactivate
  refine .bind (keeps_plugin _) fun p => .bind .get fun s => .bind (.accept _) fun d => ?_
  exact .bind (.modify fun _ => rfl) fun _ => .bind (keeps_log aside_dispatching _) fun _ => .pure _

theorem keeps_reset : Keeps dispatching reset := by
  unfold reset
  refine .bind .get fun s => .bind (.accept _) fun d => ?_
  exact .bind (.modify fun _ => rfl) fun _ => .bind (keeps_log aside_dispatching _) fun _ => .pure _

/-! ## Dispatchers -/

/-- An operation puts a dispatcher without sets under a name, or leaves the dispatchers as they
are. -/
def MakesNew {α : Type} (name : String) (x : SessionM α) : Prop :=
  ∀ s, (x.after s).dispatching = s.dispatching ∨
    ∃ d, d.bindings = .empty ∧ (x.after s).dispatching = (s.coreFile, s.dispatchers.put name d)

theorem MakesNew.bind {α β : Type} {name : String} {x : SessionM α} {g : α → SessionM β}
    (hx : Keeps dispatching x) (hg : ∀ a, MakesNew name (g a)) : MakesNew name (x >>= g) := by
  intro s
  cases h : x.answer s with
  | error e => exact .inl (by rw [after_bind_of_error h g, hx])
  | ok a =>
    obtain ⟨hfile, hdisp⟩ := Prod.mk.inj (hx s)
    rw [after_bind_of_ok h g, ← hx s, ← hfile, ← hdisp]
    exact hg a (x.after s)

theorem makesNew_newDispatcher (name projectName : String)
    (registryName dictionary : Option String) :
    MakesNew name (newDispatcher name projectName registryName dictionary) := by
  unfold newDispatcher
  refine .bind (keeps_projectHandle _) fun project => ?_
  -- whichever registry is meant, the rest is the same
  have hrest : ∀ registry, MakesNew name (do
      let separate ← dictionary.mapM dictionaryHandle
      let serial ← fresh
      modify fun s =>
        { s with dispatchers :=
            s.dispatchers.put name { serial, project, registry, separate } }) := by
    intro registry
    refine .bind (keeps_mapM_dictionaryHandle aside_dispatching _) fun separate => ?_
    refine .bind (keeps_fresh aside_dispatching) fun serial s => ?_
    exact .inr ⟨{ serial, project, registry, separate }, rfl, rfl⟩
  cases registryName with
  | some r => exact .bind (keeps_registryRef r) hrest
  | none => exact hrest .default

/-- What the function sets of a dispatcher over a project see. -/
def sceneOf (s : Session) (d : Dispatcher) (p : Project) : Scene :=
  { project := p, separate := d.separate.map fun h => (s.dictionaries.get? h).getD .empty
    host := s.host }

/-- The dispatcher of a name, with its project. -/
structure Dispatches (s : Session) (name : String) (d : Dispatcher) (p : Project) : Prop where
  dispatcher : s.dispatchers.get? name = some d
  project : s.projects.get? d.project = some p

theorem Dispatches.run_dispatcher {s : Session} {name : String} {d : Dispatcher} {p : Project}
    (h : s.Dispatches name d p) :
    (Session.dispatcher name).run.run s = (.ok (d, s.registryOf d.registry, s.sceneOf d p), s) := by
  have hd : found name (s.dispatchers.get? name) = pure d := by rw [h.dispatcher]; rfl
  have hp : found name (s.projects.get? d.project) = pure p := by rw [h.project]; rfl
  show (found name (s.dispatchers.get? name) >>= _).run.run s = _
  rw [hd]
  show (found name (s.projects.get? d.project) >>= _).run.run s = _
  rw [hp]
  rfl

/-- Nothing is found but a dispatcher with its project. -/
theorem run_dispatcher_of_none {s : Session} {name : String}
    (h : ∀ d p, ¬ s.Dispatches name d p) :
    (Session.dispatcher name).run.run s = (.error (.ofText "KeyError" name), s) := by
  cases hd : s.dispatchers.get? name with
  | none =>
    show (found name (s.dispatchers.get? name) >>= _).run.run s = _
    rw [hd]
    rfl
  | some d =>
    cases hp : s.projects.get? d.project with
    | none =>
      show (found name (s.dispatchers.get? name) >>= _).run.run s = _
      rw [hd]
      show (found name (s.projects.get? d.project) >>= _).run.run s = _
      rw [hp]
      rfl
    | some p => exact absurd ⟨hd, hp⟩ (h d p)

theorem dispatches_or (s : Session) (name : String) :
    (∃ d p, s.Dispatches name d p) ∨ ∀ d p, ¬ s.Dispatches name d p := by
  by_cases h : ∃ d p, s.Dispatches name d p
  · exact .inl h
  · exact .inr fun d p hd => h ⟨d, p, hd⟩

/-- The session after a dispatcher has come to something. -/
def settled {ε α : Type} (s : Session) (name : String) (d : Dispatcher) (r : Dispatched ε α) :
    Session :=
  { s with dispatchers := s.dispatchers.put name { d with bindings := r.bindings }
           events := s.events ++ r.events }

section Use

variable {ε α β : Type} {s : Session} {name : String} {d : Dispatcher} {p : Project}
  (use : Registry → Scene → Bindings → Dispatched ε α)
  (next : Dispatcher × Registry × Scene → Except ε α → SessionM β)

/-- Something is done with a dispatcher, and something is made of what comes of it. -/
def employ (name : String) : SessionM β := do
  let t ← dispatcher name
  let o ← settle name t.1 (use t.2.1 t.2.2 t.1.bindings)
  next t o

theorem Dispatches.run_employ (h : s.Dispatches name d p) :
    (employ use next name).run.run s =
      (next (d, s.registryOf d.registry, s.sceneOf d p)
          (use (s.registryOf d.registry) (s.sceneOf d p) d.bindings).outcome).run.run
        (s.settled name d (use (s.registryOf d.registry) (s.sceneOf d p) d.bindings)) := by
  exact run_bind_of_ok h.run_dispatcher _

theorem run_employ_of_none (h : ∀ d p, ¬ s.Dispatches name d p) :
    (employ use next name).run.run s = (.error (.ofText "KeyError" name), s) := by
  exact run_bind_of_error (run_dispatcher_of_none h) _

/-- The dispatchers are as before, but for the sets of the one that was employed. -/
theorem dispatching_after_employ (hnext : ∀ t o, Keeps dispatching (next t o)) (s : Session)
    (name : String) :
    ((employ use next name).after s).dispatching = s.dispatching ∨
      ∃ d p, s.Dispatches name d p ∧
        ((employ use next name).after s).dispatching =
          (s.coreFile, s.dispatchers.put name { d with bindings :=
            (use (s.registryOf d.registry) (s.sceneOf d p) d.bindings).bindings }) := by
  rcases s.dispatches_or name with ⟨d, p, h⟩ | h
  · refine .inr ⟨d, p, h, ?_⟩
    show dispatching ((employ use next name).run.run s).2 = _
    rw [h.run_employ]
    exact hnext _ _ _
  · refine .inl ?_
    show dispatching ((employ use next name).run.run s).2 = _
    rw [run_employ_of_none use next h]

end Use

/-- What is made of the outcome of a call. -/
def answerOf (outcome : Except Escape CallResult) : SessionM CallResult :=
  match outcome with
  | .ok result => return result
  | .error e => throw e.raised

theorem invoke_eq_employ (name : String) (c : Call) :
    invoke name c =
      employ (fun r scene bs => BuildScript.invoke r scene bs c) (fun _ o => answerOf o) name :=
  rfl

theorem call_eq_employ (name : String) (c : Call) :
    call name c =
      employ (fun r scene bs => BuildScript.call r scene bs c) (fun _ o => valueOf o) name := rfl

theorem callAll_eq_employ (name : String) (cs : List Call) :
    callAll name cs =
      employ (fun r scene bs => BuildScript.callAll r scene bs cs) (fun _ o => valueOf o) name :=
  rfl

theorem after_answerOf (outcome : Except Escape CallResult) (s : Session) :
    (answerOf outcome).after s = s := by
  unfold answerOf
  split <;> rfl

/-- What is made of an outcome does not depend on the session. -/
theorem answer_answerOf (outcome : Except Escape CallResult) (s s' : Session) :
    (answerOf outcome).answer s = (answerOf outcome).answer s' := by
  unfold answerOf
  split <;> rfl

theorem keeps_answerOf {γ : Type} {f : Session → γ} (outcome : Except Escape CallResult) :
    Keeps f (answerOf outcome) := fun s => by rw [after_answerOf]

theorem Dispatches.answer_invoke {s : Session} {name : String} {d : Dispatcher} {p : Project}
    (h : s.Dispatches name d p) (c : Call) :
    (invoke name c).answer s = (answerOf
      (BuildScript.invoke (s.registryOf d.registry) (s.sceneOf d p) d.bindings c).outcome).answer
        s := by
  show ((invoke name c).run.run s).1 = _
  rw [invoke_eq_employ, h.run_employ]
  exact answer_answerOf ..

theorem Dispatches.after_invoke {s : Session} {name : String} {d : Dispatcher} {p : Project}
    (h : s.Dispatches name d p) (c : Call) :
    (invoke name c).after s = s.settled name d
      (BuildScript.invoke (s.registryOf d.registry) (s.sceneOf d p) d.bindings c) := by
  show ((invoke name c).run.run s).2 = _
  rw [invoke_eq_employ, h.run_employ]
  exact after_answerOf ..

theorem run_invoke_of_none {s : Session} {name : String} (h : ∀ d p, ¬ s.Dispatches name d p)
    (c : Call) : (invoke name c).run.run s = (.error (.ofText "KeyError" name), s) := by
  rw [invoke_eq_employ]
  exact run_employ_of_none _ _ h

theorem keeps_valueOf {α γ : Type} {f : Session → γ} (o : Except (Escape ⊕ Fault) α) :
    Keeps f (valueOf o) := by
  unfold valueOf
  split
  · exact .pure _
  · exact .throw _
  · exact .throw _

/-- What is made of the set of a namespace. -/
def viewOf (space : String) (t : Dispatcher × Registry × Scene) (o : Except Raised BoundSet) :
    SessionM BoundView :=
  match o with
  | .error e => throw e
  | .ok b => do
    let key := (t.1.serial, space)
    modify fun s => if s.seen.contains key then s else { s with seen := s.seen ++ [key] }
    return { cls := b.cls.name, number := (← get).seen.idxOf key
             ownProperties := t.2.2.separate.isNone, properties := t.2.2.properties.keys }

theorem functionSet_eq_employ (name space : String) :
    functionSet name space =
      employ (fun r s bs => bindSet r s bs space) (viewOf space) name := rfl

theorem keeps_viewOf {γ : Type} {f : Session → γ} (hf : Aside f) (space : String)
    (t : Dispatcher × Registry × Scene)
    (o : Except Raised BoundSet) : Keeps f (viewOf space t o) := by
  unfold viewOf
  split
  · exact .throw _
  · refine .bind (.modify fun s => ?_) fun _ => .bind .get fun _ => .pure _
    split
    · rfl
    · exact hf.seen _ _

end Session

end BuildScript
