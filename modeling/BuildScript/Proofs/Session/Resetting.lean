import BuildScript.Proofs.Registry.LibrarySets
import BuildScript.Proofs.Registry.Resetting
import BuildScript.Proofs.Session.Live

/-!
Resetting the default registry in a session that goes on. Between one operation and the next the default registry holds
plugins whose declaration was checked, each under its own namespace (`Session.Sound`); `Maintains` is the logic in which
every operation is seen to preserve this, whether it answers or raises (`Step.sound`). The flags of plugins may say
anything: plugins are registered without being activated, and what holds the namespace of an activated plugin goes by
other ways. Main statement: `reset_clears`, that after every sequence of operations a reset succeeds and leaves the
default registry empty.
-/

namespace BuildScript

namespace SessionM

variable {α β : Type}

/-- Where this holds of a session it holds after the operation, and what the operation answers has a property. -/
def Maintains (I : Session → Prop) (x : SessionM α) (post : α → Prop) : Prop :=
  ∀ s, I s → I (x.after s) ∧ ∀ a, x.answer s = .ok a → post a

namespace Maintains

variable {I : Session → Prop} {x : SessionM α} {g : α → SessionM β} {P : α → Prop} {Q : β → Prop}

theorem pure {a : α} (ha : P a) : Maintains I (pure a) P := by
  rintro s hs
  refine ⟨hs, ?_⟩
  rintro a' ⟨⟩
  exact ha

theorem throw (e : Raised) : Maintains I (throw e : SessionM α) P := by
  rintro s hs
  refine ⟨hs, ?_⟩
  rintro a ⟨⟩

theorem bind (hx : Maintains I x P) (hg : ∀ a, P a → Maintains I (g a) Q) : Maintains I (x >>= g) Q := by
  intro s hs
  obtain ⟨hafter, hP⟩ := hx s hs
  cases h : x.answer s with
  | ok a =>
    have hrun := run_bind_of_ok (Prod.ext h rfl : x.run.run s = (.ok a, x.after s)) g
    have hrest := hg a (hP a h) (x.after s) hafter
    unfold after answer at hrest ⊢
    rwa [hrun]
  | error e =>
    have hrun := run_bind_of_error (Prod.ext h rfl : x.run.run s = (.error e, x.after s)) g
    unfold answer
    rw [after, hrun]
    refine ⟨hafter, ?_⟩
    rintro a ⟨⟩

/-- What follows a look at a session may rely on what holds of it. -/
theorem read {g : Session → SessionM β} (hg : ∀ s, I s → Maintains I (g s) Q) : Maintains I (get >>= g) Q :=
  fun s hs => hg s hs s hs

theorem set {s' : Session} (h : I s') : Maintains I (set s' : SessionM PUnit) fun _ => True :=
  fun _ _ => ⟨h, fun _ _ => trivial⟩

theorem modify {f : Session → Session} (hf : ∀ s, I s → I (f s)) :
    Maintains I (modify f : SessionM Unit) fun _ => True :=
  fun s hs => ⟨hf s hs, fun _ _ => trivial⟩

theorem found (key : String) (o : Option α) : Maintains I (found key o) fun _ => True := by
  cases o with
  | none => exact throw _
  | some a => exact pure trivial

theorem settled (e : Option ChangeError) : Maintains I (settled e) fun _ => True := by
  cases e with
  | none => exact pure trivial
  | some e => exact throw _

theorem accept {r : Except RegistryError α} (h : ∀ a, r = .ok a → P a) : Maintains I (accept r) P := by
  cases r with
  | error e => exact throw _
  | ok a => exact pure (h a rfl)

end Maintains

end SessionM

/-! ## What changes leave -/

theorem Represents.registered {r : Registry} {m : Catalogue} (h : Represents r m) {p : Plugin}
    (hp : p.Checked) : ∃ m', Represents (r.register p).state m' :=
  ⟨_, h.after (.register ⟨p, hp⟩)⟩

theorem Represents.unregistered {r r' : Registry} {m : Catalogue} (h : Represents r m)
    {space : String} (hr : r.unregister space = .ok r') : ∃ m', Represents r' m' := by
  have hafter := h.after (.unregister space)
  rw [Registry.after, Registry.change, hr] at hafter
  exact ⟨_, hafter⟩

namespace DefaultRegistry

variable {d d' : DefaultRegistry} {p : Plugin}

/-- An activation registers the plugin, and raises what that raises. -/
theorem registry_activate (d : DefaultRegistry) (p : Plugin) :
    (d.activate p).state.registry = (d.registry.register p).state := by
  unfold activate
  rcases d.registry.register p with ⟨r, _ | e⟩ <;> rfl

theorem unregister_of_deactivate (h : d.deactivate p = .ok d') :
    d.registry.unregister p.space = .ok d'.registry := by
  obtain ⟨r, hr, hd'⟩ := bind_eq_ok_iff.mp h
  cases hd'
  exact hr

end DefaultRegistry

namespace Session

open SessionM

/-- What the default registry holds are plugins whose declaration was checked, and so are the plugins that
have names. -/
structure Sound (s : Session) : Prop where
  represented : ∃ m, Represents s.default.registry m
  checked : ∀ name p, s.plugins.get? name = some p → p.Checked

namespace Sound

variable {s : Session}

/-- Nothing is registered and no plugin is made yet. -/
theorem fresh (host : Host) (coreFile : String) (candidates : Table String Candidate) (nextId : Nat) :
    Sound { host, coreFile, candidates, nextId } :=
  ⟨⟨[], .empty⟩, fun _ _ h => nomatch h⟩

theorem congr {s' : Session} (h : s.Sound) (hdefault : s'.default = s.default) (hplugins : s'.plugins = s.plugins) :
    s'.Sound := by
  refine ⟨?_, ?_⟩
  · rw [hdefault]
    exact h.represented
  · rw [hplugins]
    exact h.checked

theorem withDefault (h : s.Sound) {d : DefaultRegistry} (hd : ∃ m, Represents d.registry m) :
    Sound { s with default := d } :=
  ⟨hd, h.checked⟩

theorem withPlugin (h : s.Sound) (name : String) {p : Plugin} (hp : p.Checked) :
    Sound { s with plugins := s.plugins.put name p } := by
  refine ⟨h.represented, fun name' q hq => ?_⟩
  rw [Table.get?_put] at hq
  split at hq
  · cases hq
    exact hp
  · exact h.checked name' q hq

theorem setRegistry (h : s.Sound) {r : Registry} {ref : RegistryRef}
    (hr : ref = .default → ∃ m, Represents r m) : (s.setRegistry r ref).Sound := by
  cases ref with
  | default => exact h.withDefault (hr rfl)
  | own handle => exact h.congr rfl rfl

end Sound

/-- An operation leaves a session sound. -/
abbrev Safe {α : Type} (x : SessionM α) : Prop := Maintains Sound x fun _ => True

/-- The default registry, and the plugins that have names. -/
def registering (s : Session) : DefaultRegistry × Table String Plugin := (s.default, s.plugins)

theorem aside_registering : Aside registering :=
  ⟨fun _ _ => rfl, fun _ _ => rfl, fun _ _ => rfl, fun _ _ => rfl, fun _ _ => rfl, fun _ _ => rfl, fun _ _ => rfl⟩

/-- What leaves the default registry and the plugins alone is safe. -/
theorem safe_of_keeps {α : Type} {x : SessionM α} (h : Keeps registering x) : Safe x := by
  intro s hs
  obtain ⟨hdefault, hplugins⟩ := Prod.mk.inj (h s)
  exact ⟨hs.congr hdefault hplugins, fun _ _ => trivial⟩

theorem safe_emit (es : List Event) : Safe (emit es) := safe_of_keeps (keeps_emit aside_registering es)

theorem safe_log (rs : List Record) : Safe (log rs) := safe_emit _

/-! ## Registries and plugins -/

theorem checked_makePlugin (name candidate : String) (description : Option String) :
    Maintains Sound (makePlugin name candidate description) Plugin.Checked := by
  unfold makePlugin
  refine .read fun s _ => .bind (.found _ _) fun c _ =>
    .bind (safe_of_keeps (keeps_fresh aside_registering)) fun id _ => ?_
  split
  · exact .throw _
  · rename_i p hp
    have hchecked : p.Checked := ⟨id, description, c, hp⟩
    exact .bind (.modify fun _ h => h.withPlugin name hchecked) fun _ _ => .pure hchecked

theorem checked_plugin (name : String) : Maintains Sound (plugin name) Plugin.Checked := by
  unfold plugin
  refine .read fun s hs => ?_
  split
  · rename_i p hp
    exact .pure (hs.checked name p hp)
  · exact checked_makePlugin _ _ _

theorem safe_register (registryName pluginName : String) : Safe (register registryName pluginName) := by
  unfold register
  refine .bind (checked_plugin _) fun p hp => .bind (safe_of_keeps (keeps_registryRef _)) fun ref _ =>
    .read fun s hs => ?_
  have hstate : ref = .default → ∃ m, Represents ((s.registryOf ref).register p).state m := by
    -- only the default registry is of account
    rintro rfl
    obtain ⟨m, hm⟩ := hs.represented
    exact hm.registered hp
  exact .bind (.modify fun _ h => h.setRegistry hstate) fun _ _ => .bind (.settled _) fun _ _ => safe_log _

theorem safe_unregister (registryName space : String) : Safe (unregister registryName space) := by
  unfold unregister
  refine .bind (safe_of_keeps (keeps_registryRef _)) fun ref _ => .read fun s hs => ?_
  refine .bind (P := fun r => ref = .default → ∃ m, Represents r m) (.accept fun r hr => ?_) fun r hr => ?_
  · rintro rfl
    obtain ⟨m, hm⟩ := hs.represented
    exact hm.unregistered hr
  · exact .bind (.modify fun _ h => h.setRegistry hr) fun _ _ => safe_log _

theorem safe_registerCore (registryName : String) (disabled : List String) :
    Safe (registerCore registryName disabled) := by
  unfold registerCore
  refine .bind (safe_of_keeps (keeps_registryRef _)) fun ref _ => .read fun s hs =>
    .bind (.set (hs.congr rfl rfl)) fun _ _ => ?_
  have hlist : Safe (do return ((← get).registryOf ref).namespaces) := .read fun _ _ => .pure trivial
  split
  · obtain ⟨m, hm⟩ := hs.represented
    obtain ⟨-, -, new, -, hstate⟩ := hm.addMissing_library s.coreFile disabled s.nextId
    refine .bind (.modify fun _ h => h.withDefault ?_) fun _ _ => .bind (safe_log _) fun _ _ => ?_
    · rw [DefaultRegistry.addMissing_eq]
      exact ⟨m ++ new, hstate⟩
    · exact .bind (.settled _) fun _ _ => hlist
  · refine .bind (.modify fun _ h => h.congr rfl rfl) fun _ _ => .bind (safe_log _) fun _ _ => ?_
    exact .bind (.settled _) fun _ _ => hlist

/-- Operations that put another default registry in the place of the one there is. -/
theorem safe_renew {d : DefaultRegistry → Except RegistryError DefaultRegistry}
    (hd : ∀ old new, (∃ m, Represents old.registry m) → d old = .ok new → ∃ m, Represents new.registry m)
    {β : Type} {g : Session → DefaultRegistry → SessionM β} (hg : ∀ s new, Safe (g s new)) :
    Safe (do
      let s ← get
      let new ← accept (d s.default)
      modify fun s => { s with default := new }
      g s new) := by
  refine .read fun s hs => .bind (.accept fun new hnew => hd _ new hs.represented hnew) fun new hnew => ?_
  exact .bind (.modify fun _ h => h.withDefault hnew) fun _ _ => hg s new

theorem safe_activate (name : String) : Safe (activate name) := by
  unfold activate
  refine .bind (checked_plugin _) fun p hp => .read fun s hs => ?_
  have hstate : ∃ m, Represents (s.default.activate p).state.registry m := by
    obtain ⟨m, hm⟩ := hs.represented
    rw [DefaultRegistry.registry_activate]
    exact hm.registered hp
  refine .bind (.modify fun _ h => h.withDefault hstate) fun _ _ => .bind (.settled _) fun _ _ => ?_
  exact .bind (safe_log _) fun _ _ => .pure trivial

theorem safe_deactivate (name : String) : Safe (deactivate name) := by
  unfold deactivate
  refine .bind (checked_plugin _) fun p hp => safe_renew (d := (·.deactivate p)) ?_ fun s new =>
    .bind (safe_log _) fun _ _ => .pure trivial
  rintro old new ⟨m, hm⟩ hnew
  exact hm.unregistered (DefaultRegistry.unregister_of_deactivate hnew)

theorem safe_reset : Safe reset := by
  unfold reset
  refine safe_renew (d := (·.reset)) ?_ fun s new => .bind (safe_log _) fun _ _ => .pure trivial
  rintro old new ⟨m, hm⟩ hnew
  rw [DefaultRegistry.reset_eq hm] at hnew
  cases hnew
  exact ⟨[], .empty⟩

/-! ## Dispatchers -/

theorem keeps_registering_newDispatcher (name projectName : String) (registryName dictionary : Option String) :
    Keeps registering (newDispatcher name projectName registryName dictionary) := by
  unfold newDispatcher
  refine .bind (keeps_projectHandle _) fun project => ?_
  -- whichever registry is meant, the rest is the same
  have hrest (registry : RegistryRef) : Keeps registering (do
      let separate ← dictionary.mapM dictionaryHandle
      let serial ← SessionM.fresh
      modify fun s => { s with dispatchers := s.dispatchers.put name { serial, project, registry, separate } }) :=
    .bind (keeps_mapM_dictionaryHandle aside_registering _) fun _ => .bind (keeps_fresh aside_registering) fun _ =>
      .modify fun _ => rfl
  cases registryName with
  | none => exact hrest .default
  | some r => exact .bind (keeps_registryRef r) fun registry => hrest registry

theorem safe_employ {ε α β : Type} (use : Registry → Scene → Bindings → Dispatched ε α)
    {next : Dispatcher × Registry × Scene → Except ε α → SessionM β}
    (hnext : ∀ t o, Keeps registering (next t o))
    (name : String) : Safe (employ use next name) := by
  have hdispatcher : Keeps registering (dispatcher name) :=
    .bind .get fun _ => .bind (.found _ _) fun _ => .bind (.found _ _) fun _ => .pure _
  have hsettle (d : Dispatcher) (r : Dispatched ε α) : Keeps registering (settle name d r) :=
    .bind (.modify fun _ => rfl) fun _ => .bind (keeps_emit aside_registering _) fun _ => .pure _
  exact safe_of_keeps (.bind hdispatcher fun t => .bind (hsettle _ _) fun o => hnext t o)

theorem safe_invoke (name : String) (c : Call) : Safe (invoke name c) := by
  rw [invoke_eq_employ]
  exact safe_employ _ (fun _ o => keeps_answerOf o) name

theorem safe_call (name : String) (c : Call) : Safe (call name c) := by
  rw [call_eq_employ]
  exact safe_employ _ (fun _ o => keeps_valueOf o) name

theorem safe_callAll (name : String) (cs : List Call) : Safe (callAll name cs) := by
  rw [callAll_eq_employ]
  exact safe_employ _ (fun _ o => keeps_valueOf o) name

theorem safe_functionSet (name space : String) : Safe (functionSet name space) := by
  rw [functionSet_eq_employ]
  exact safe_employ _ (keeps_viewOf aside_registering space) name

/-! ## Sequences of operations -/

/-- Every operation leaves a session sound, whether it answers or raises. -/
theorem Step.sound (a : Step) {s : Session} (h : s.Sound) : (a.after s).Sound := by
  cases a with
  | newProject n p => exact (safe_of_keeps (keeps_newProject aside_registering n p) s h).1
  | changeProject n f => exact (safe_of_keeps (keeps_changeProject aside_registering n f) s h).1
  | changeProperties n d f => exact (safe_of_keeps (keeps_changeProperties aside_registering n d f) s h).1
  | enter n t e => exact (safe_of_keeps (keeps_enter aside_registering n t e) s h).1
  | leave e => exact (safe_of_keeps (keeps_leave aside_registering e) s h).1
  | newRegistry n => exact (safe_of_keeps (keeps_newRegistry aside_registering n) s h).1
  | makePlugin n c d => exact (checked_makePlugin n c d s h).1
  | register r p => exact (safe_register r p s h).1
  | unregister r space => exact (safe_unregister r space s h).1
  | registerCore r ds => exact (safe_registerCore r ds s h).1
  | activate p => exact (safe_activate p s h).1
  | deactivate p => exact (safe_deactivate p s h).1
  | reset => exact (safe_reset s h).1
  | newDispatcher n p r ds => exact (safe_of_keeps (keeps_registering_newDispatcher n p r ds) s h).1
  | invoke n c => exact (safe_invoke n c s h).1
  | call n c => exact (safe_call n c s h).1
  | callAll n cs => exact (safe_callAll n cs s h).1
  | functionSet n space => exact (safe_functionSet n space s h).1

theorem Sound.afterAll {s : Session} (h : s.Sound) (steps : List Step) : (s.afterAll steps).Sound := by
  induction steps using List.reverseRecOn with
  | nil => exact h
  | append_singleton steps a ih =>
    rw [afterAll_concat]
    exact a.sound ih

/-- From one session to the other everything has gone from the default registry. No plugin that it held is activated;
the other plugins are activated or not as before, and no other registry has changed. -/
structure Cleared (s s' : Session) : Prop where
  registry : s'.default.registry = {}
  idle : ∀ p, s.default.Holds p → s'.default.isActivated p = false
  others : ∀ p, (∀ q, s.default.Holds q → q.id ≠ p.id) → s'.default.isActivated p = s.default.isActivated p
  registries : s'.registries = s.registries
  plugins : s'.plugins = s.plugins
  events : s'.events = s.events ++ s.default.registry.namespaces.map fun n => .logged (Registry.unregistered n)

theorem run_reset {s : Session} {d : DefaultRegistry} (h : s.default.reset = .ok d) :
    Session.reset.answer s = .ok d.registry.namespaces ∧ Session.reset.after s =
      { s with default := d
               events := s.events ++
                 s.default.registry.namespaces.map fun n => .logged (Registry.unregistered n) } := by
  have hrun : Session.reset.run.run s = (.ok d.registry.namespaces, { s with
      default := d
      events := s.events ++ s.default.registry.namespaces.map fun n => .logged (Registry.unregistered n) }) := by
    have hrecords : (s.default.registry.namespaces.map fun n => Event.logged (Registry.unregistered n)) =
        (s.default.registry.namespaces.map Registry.unregistered).map .logged := List.map_map.symm
    show (accept s.default.reset >>= _).run.run s = _
    rw [h, hrecords]
    rfl
  exact ⟨congrArg Prod.fst hrun, congrArg Prod.snd hrun⟩

/-- After every sequence of operations the default registry can be reset, and no namespace is left. -/
theorem reset_clears (host : Host) (coreFile : String) (candidates : Table String Candidate) (nextId : Nat)
    (steps : List Step) :
    let s := Session.afterAll { host, coreFile, candidates, nextId } steps
    Session.reset.answer s = .ok [] ∧ s.Cleared (Session.reset.after s) := by
  intro s
  obtain ⟨m, hm⟩ := ((Sound.fresh host coreFile candidates nextId).afterAll steps).represented
  have hreset := DefaultRegistry.reset_eq hm
  obtain ⟨hanswer, hafter⟩ := run_reset hreset
  have hflag (p : Plugin) : (Session.reset.after s).default.isActivated p = true ↔
      s.default.isActivated p = true ∧ p.id ∉ m.map (·.1.id) := by
    rw [hafter, DefaultRegistry.isActivated_iff, DefaultRegistry.isActivated_iff, List.mem_filter, decide_eq_true_iff]
  refine ⟨hanswer, by rw [hafter], fun p hp => ?_, fun p hp => ?_, by rw [hafter], by rw [hafter], by rw [hafter]⟩
  · have hholder : m.holder? p.space = some p := (hm.get?_sets p.space).symm.trans hp
    obtain ⟨⟨q, hq, rfl⟩, -⟩ := Catalogue.holder?_mem hholder
    exact eq_false_of_ne_true fun hactivated => ((hflag q.1).mp hactivated).2 (List.mem_map.mpr ⟨q, hq, rfl⟩)
  · have hfree : p.id ∉ m.map (·.1.id) := by
      intro hmem
      obtain ⟨q, hq, hid⟩ := List.mem_map.mp hmem
      exact hp q.1 ((hm.get?_sets q.1.space).trans (hm.holder?_of_mem hq)) hid
    exact Bool.eq_iff_iff.mpr ((hflag p).trans (and_iff_left hfree))

end Session

end BuildScript
