import BuildScript.Activation
import BuildScript.Dispatch
import BuildScript.Help

/-!
Sessions: registries, projects, dispatchers and plugins that are worked with by name. A name can be
given again; whoever holds what it stood for before keeps that. Each operation answers or raises, and
leaves what has happened behind as events.
-/

namespace BuildScript

/-- Things with handles, and names for some of them. -/
structure Shelf (α : Type) where
  names : Table String Nat := .empty
  things : Table Nat α := .empty

namespace Shelf

variable {α : Type}

/-- Puts a new thing under a name. -/
def add (s : Shelf α) (name : String) (a : α) : Shelf α :=
  let handle := s.things.size
  ⟨s.names.put name handle, s.things.put handle a⟩

/-- What a handle stands for. -/
def get? (s : Shelf α) (handle : Nat) : Option α := s.things.get? handle

/-- Puts another thing in the place of a handle. -/
def set (s : Shelf α) (handle : Nat) (a : α) : Shelf α := { s with things := s.things.put handle a }

end Shelf

/-- Which registry is meant: the default one, or one of a session's own. -/
inductive RegistryRef where
  | default
  | own (handle : Nat)
  deriving Repr, DecidableEq

/-- A dispatcher: the handles of what it works on, and the sets that it has bound. -/
structure Dispatcher where
  serial : Nat
  project : Nat
  registry : RegistryRef
  separate : Option Nat
  bindings : Bindings := .empty

/-- The state of a session. -/
structure Session where
  host : Host
  /-- The file in which the library's own sets are written. -/
  coreFile : String
  candidates : Table String Candidate := .empty
  default : DefaultRegistry := {}
  registries : Shelf Registry := {}
  projects : Shelf Project := {}
  dictionaries : Shelf Properties := {}
  dispatchers : Table String Dispatcher := .empty
  plugins : Table String Plugin := .empty
  executions : Table String (Nat × Execution) := .empty
  values : Table String Value := .empty
  /-- The bound sets that have been looked at, by dispatcher and namespace. -/
  seen : List (Nat × String) := []
  nextId : Nat
  events : List Event := []

/-- An operation of a session. -/
abbrev SessionM := ExceptT Raised (StateM Session)

namespace SessionM

/-- Raises a fault. -/
def fail {α : Type} (f : Fault) : SessionM α := throw (.fault f)

/-- Raises an error about a key that leads nowhere. -/
def noKey {α : Type} (message : String) : SessionM α := throw (Raised.ofText "KeyError" message)

/-- What a key leads to. -/
def found {α : Type} (key : String) : Option α → SessionM α
  | some a => return a
  | none => noKey key

/-- Leaves events behind. -/
def emit (es : List Event) : SessionM Unit := modify fun s => { s with events := s.events ++ es }

/-- Leaves records behind. -/
def log (rs : List Record) : SessionM Unit := emit (rs.map .logged)

/-- A new identity. -/
def fresh : SessionM Nat := do
  let s ← get
  set { s with nextId := s.nextId + 1 }
  return s.nextId

/-- Takes a text, or raises what stands against it. -/
def told : Except Obstacle String → SessionM String
  | .ok s => return s
  | .error o => throw (.ofObstacle o)

/-- Takes what an operation on registries gives, or raises its error. -/
def accept {α : Type} : Except RegistryError α → SessionM α
  | .ok a => return a
  | .error e => fail e.fault

/-- Goes on after a change, or raises its error. -/
def settled : Option ChangeError → SessionM Unit
  | none => return
  | some e => throw e.raised

/-- Takes what an operation on a project gives, or raises its error. -/
def present {α : Type} : Except Missing α → SessionM α
  | .ok a => return a
  | .error e => noKey e.message

end SessionM

open SessionM

namespace Session

/-! ## Registries -/

/-- The registry of a name. -/
def registryRef (name : String) : SessionM RegistryRef := do
  if name = "default" then return .default
  else return .own (← found name ((← get).registries.names.get? name))

/-- The registry that is meant. -/
def registryOf (s : Session) : RegistryRef → Registry
  | .default => s.default.registry
  | .own h => (s.registries.get? h).getD {}

/-- The registry of a name, as it is now. -/
def registry (name : String) : SessionM Registry := do
  let ref ← registryRef name
  return (← get).registryOf ref

/-- Puts another registry in the place of one. -/
def setRegistry (s : Session) (r : Registry) : RegistryRef → Session
  | .default => { s with default := { s.default with registry := r } }
  | .own h => { s with registries := s.registries.set h r }

/-- Makes an empty registry. -/
def newRegistry (name : String) : SessionM Unit :=
  modify fun s => { s with registries := s.registries.add name {} }

/-- Makes a plugin of the candidate of a name. -/
def makePlugin (name candidate : String) (description : Option String) : SessionM Plugin := do
  let c ← found candidate ((← get).candidates.get? candidate)
  match Plugin.ofCandidate (← fresh) description c with
  | .error e => throw e.raised
  | .ok p =>
    modify fun s => { s with plugins := s.plugins.put name p }
    return p

/-- The plugin of a name, made of the candidate of that name if there is none. -/
def plugin (name : String) : SessionM Plugin := do
  match (← get).plugins.get? name with
  | some p => return p
  | none => makePlugin name name none

/-- Registers the plugin of a name. -/
def register (registryName pluginName : String) : SessionM Unit := do
  let p ← plugin pluginName
  let ref ← registryRef registryName
  let changed := ((← get).registryOf ref).register p
  modify fun s => s.setRegistry changed.state ref
  settled changed.error
  log (Registry.registered p)

/-- Takes the set of a namespace out of a registry. -/
def unregister (registryName space : String) : SessionM Unit := do
  let ref ← registryRef registryName
  let r ← accept (((← get).registryOf ref).unregister space)
  modify fun s => s.setRegistry r ref
  log [Registry.unregistered space]

/-- The names under which a plugin is known, in order. -/
def knownAs (s : Session) (p : Plugin) : List String :=
  ((s.plugins.entries.filter fun e => e.2.id = p.id).map (·.1)).mergeSort
    fun a b => !decide (b < a)

/-- Registers what is missing of the library's own sets, and gives the namespaces there are then. -/
def registerCore (registryName : String) (disabled : List String) : SessionM (List String) := do
  let ref ← registryRef registryName
  let s ← get
  let ps := corePlugins s.coreFile s.nextId
  set { s with nextId := s.nextId + ps.length }
  match ref with
  | .default =>
    let added := s.default.addMissing disabled ps
    modify fun s => { s with default := added.state }
    log (added.added.flatMap Registry.registered)
    settled added.error
  | .own h =>
    let added := (s.registryOf ref).addMissing disabled ps
    modify fun s => { s with registries := s.registries.set h added.state }
    log (added.added.flatMap Registry.registered)
    settled added.error
  return ((← get).registryOf ref).namespaces

/-- Activates the plugin of a name. -/
def activate (name : String) : SessionM Bool := do
  let p ← plugin name
  let changed := (← get).default.activate p
  modify fun s => { s with default := changed.state }
  settled changed.error
  log (Registry.registered p)
  return changed.state.isActivated p

/-- Deactivates the plugin of a name. -/
def deactivate (name : String) : SessionM Bool := do
  let p ← plugin name
  let d ← accept ((← get).default.deactivate p)
  modify fun s => { s with default := d }
  log [Registry.unregistered p.space]
  return d.isActivated p

/-- Takes all sets out of the default registry, and gives the namespaces that are left. -/
def reset : SessionM (List String) := do
  let before := (← get).default
  let d ← accept before.reset
  modify fun s => { s with default := d }
  log (before.registry.namespaces.map Registry.unregistered)
  return d.registry.namespaces

/-! ## Projects -/

/-- Puts a project under a name. -/
def newProject (name : String) (p : Project) : SessionM Unit :=
  modify fun s => { s with projects := s.projects.add name p }

/-- The handle of a project. -/
def projectHandle (name : String) : SessionM Nat := do
  found name ((← get).projects.names.get? name)

/-- The project of a name. -/
def project (name : String) : SessionM Project := do
  found name ((← get).projects.get? (← projectHandle name))

/-- Changes the project of a name. -/
def changeProject (name : String) (f : Project → Project) : SessionM Unit := do
  let h ← projectHandle name
  let p ← found name ((← get).projects.get? h)
  modify fun s => { s with projects := s.projects.set h (f p) }

/-- Ends the execution of a name, if there is one. -/
def leave (execution : String) : SessionM Unit := do
  let s ← get
  match s.executions.get? execution with
  | none => return
  | some (h, e) =>
    let projects := match s.projects.get? h with
      | some p => s.projects.set h (p.leave e)
      | none => s.projects
    set { s with projects, executions := s.executions.erase execution }

/-- Begins to execute a target, under a name for the execution. One that had the name before ends. -/
def enter (projectName target execution : String) : SessionM Target := do
  let h ← projectHandle projectName
  let (entered, e) ← present ((← project projectName).enter target)
  modify fun s => { s with projects := s.projects.set h entered }
  leave execution
  modify fun s => { s with executions := s.executions.put execution (h, e) }
  return (← project projectName).view e.target

/-- The handle of a dictionary of properties, which is made if there is none of the name. -/
def dictionaryHandle (name : String) : SessionM Nat := do
  match (← get).dictionaries.names.get? name with
  | some h => return h
  | none =>
    let h := (← get).dictionaries.things.size
    modify fun s => { s with dictionaries := s.dictionaries.add name .empty }
    return h

/-- The properties of a dictionary, or else of a project. -/
def properties (projectName : String) (dictionary : Option String) : SessionM Properties := do
  match dictionary with
  | some d =>
    let h ← dictionaryHandle d
    return ((← get).dictionaries.get? h).getD .empty
  | none => return (← project projectName).properties

/-- Changes the properties of a dictionary, or else of a project. -/
def changeProperties (projectName : String) (dictionary : Option String)
    (f : Properties → Properties) : SessionM Unit := do
  match dictionary with
  | some d =>
    let h ← dictionaryHandle d
    modify fun s =>
      { s with dictionaries := s.dictionaries.set h (f ((s.dictionaries.get? h).getD .empty)) }
  | none => changeProject projectName fun p => { p with properties := f p.properties }

/-! ## Dispatchers -/

/-- Makes a dispatcher. Without a registry it works on the default one. -/
def newDispatcher (name projectName : String) (registryName dictionary : Option String) :
    SessionM Unit := do
  let project ← projectHandle projectName
  let registry ← match registryName with
    | some r => registryRef r
    | none => pure .default
  let separate ← dictionary.mapM dictionaryHandle
  let serial ← fresh
  modify fun s =>
    { s with dispatchers := s.dispatchers.put name { serial, project, registry, separate } }

/-- The dispatcher of a name, its registry, and what its function sets see. -/
def dispatcher (name : String) : SessionM (Dispatcher × Registry × Scene) := do
  let s ← get
  let d ← found name (s.dispatchers.get? name)
  let project ← found name (s.projects.get? d.project)
  let separate := d.separate.map fun h => (s.dictionaries.get? h).getD .empty
  return (d, s.registryOf d.registry, { project, separate, host := s.host })

/-- Takes what a dispatcher has come to. -/
def settle {ε α : Type} (name : String) (d : Dispatcher) (r : Dispatched ε α) :
    SessionM (Except ε α) := do
  modify fun s => { s with dispatchers := s.dispatchers.put name { d with bindings := r.bindings } }
  emit r.events
  return r.outcome

/-- Takes a value, or raises what stands in its place. -/
def valueOf {α : Type} : Except (Escape ⊕ Fault) α → SessionM α
  | .ok v => return v
  | .error (.inl e) => throw e.raised
  | .error (.inr f) => fail f

/-- Makes a call with a dispatcher. -/
def invoke (name : String) (c : Call) : SessionM CallResult := do
  let (d, r, scene) ← dispatcher name
  match ← settle name d (BuildScript.invoke r scene d.bindings c) with
  | .ok result => return result
  | .error e => throw e.raised

/-- Makes a call with a dispatcher for its value. -/
def call (name : String) (c : Call) : SessionM Value := do
  let (d, r, scene) ← dispatcher name
  valueOf (← settle name d (BuildScript.call r scene d.bindings c))

/-- Makes calls with a dispatcher for their values. -/
def callAll (name : String) (cs : List Call) : SessionM (List Value) := do
  let (d, r, scene) ← dispatcher name
  valueOf (← settle name d (BuildScript.callAll r scene d.bindings cs))

/-- What is seen of a bound set: its class, its number among those looked at so far, whether it sees the
project's own properties, and their names. -/
structure BoundView where
  cls : String
  number : Nat
  ownProperties : Bool
  properties : List String

/-- Looks at the bound set of a namespace. -/
def functionSet (name space : String) : SessionM BoundView := do
  let (d, r, scene) ← dispatcher name
  match ← settle name d (bindSet r scene d.bindings space) with
  | .error e => throw e
  | .ok b =>
    let key := (d.serial, space)
    modify fun s => if s.seen.contains key then s else { s with seen := s.seen ++ [key] }
    return { cls := b.cls.name, number := (← get).seen.idxOf key
             ownProperties := scene.separate.isNone, properties := scene.properties.keys }

/-! ## What has happened -/

/-- The records among events. -/
def logOf (es : List Event) : List Record :=
  es.filterMap fun | .logged r => some r | _ => none

/-- The arguments that were put on record. -/
def noted (s : Session) : List (List Value) :=
  s.events.filterMap fun | .noted args => some args | _ => none

/-- How many constructors of a class have run. -/
def constructions (s : Session) (cls : Nat) : Nat :=
  s.events.countP fun | .constructed c => c = cls | _ => false

/-- Opens a session: its main registry, with the library's own sets if `core` says so, its main project,
and its main dispatcher over both. -/
def openMain (core : Bool) (p : Project) : SessionM Unit := do
  newRegistry "main"
  if core then discard (registerCore "main" [])
  newProject "main" p
  newDispatcher "main" "main" (some "main") none

/-- Saves a value under a name. -/
def save (name : String) (v : Value) : SessionM Unit :=
  modify fun s => { s with values := s.values.put name v }

end Session

end BuildScript
