import BuildScript.FunctionSet.Plugin

/-!
The registry of function sets: which plugin holds a namespace, and which function a key leads to. A set
whose namespace is held, or with two functions of one key, is not taken, and then nothing changes. The
file of a set is asked for only to report it: of a set that is refused before anything has changed, and
of one that is taken afterwards.
-/

namespace BuildScript

/-- Why a registry refuses. -/
inductive RegistryError where
  /-- The namespace is held; the files are those of the new set and of the one that holds it. -/
  | held (space file holder : String)
  /-- Two functions of a set have one key. -/
  | twice (space function : String) (arity : Nat)
  /-- There is no set to take out. -/
  | notRegistered (space : String)
  | unknownNamespace (space : String)
  | unknownFunction (space name : String) (arity : Nat)
  deriving Repr, DecidableEq

namespace RegistryError

/-- The message. -/
def message : RegistryError → String
  | held space file holder =>
    "Function set conflict. Namespace '" ++ space ++ "' from '" ++ file
      ++ "' is already registered by the function set at '" ++ holder ++ "'."
  | twice space function arity =>
    "Function set '" ++ space ++ "' declares '" ++ function ++ "' with " ++ Number.natText arity
      ++ " arguments more than once."
  | notRegistered space => "No function set registered for namespace '" ++ space ++ "'."
  | unknownNamespace space => "Unknown function namespace '" ++ space ++ "'."
  | unknownFunction space name arity =>
    "Unknown function '" ++ qualifiedName space name ++ "/" ++ Number.natText arity ++ "'."

/-- The class of the error. -/
def cls : RegistryError → FaultClass
  | held .. => .duplicateNamespace
  | twice .. => .duplicateSignature
  | notRegistered .. => .unknownNamespace
  | unknownNamespace .. => .unknownNamespace
  | unknownFunction .. => .unknownFunction

/-- The fault that the error is. -/
def fault (e : RegistryError) : Fault := .of e.cls e.message

end RegistryError

/-- What is raised where a registry is changed: that it refuses, or that a class has no file to report. -/
inductive ChangeError where
  | refused (e : RegistryError)
  | noFile (e : NoFile)
  deriving Repr, DecidableEq

/-- The error, raised. -/
def ChangeError.raised : ChangeError → Raised
  | refused e => .fault e.fault
  | noFile e => e.raised

/-- What a change comes to: the state then, and what was raised. -/
structure Changed (σ : Type) where
  state : σ
  error : Option ChangeError

/-- A catalogue of function sets: the plugins by namespace, and the functions by key. -/
structure Registry where
  sets : Table String Plugin := .empty
  functions : Table FunctionKey Descriptor := .empty

namespace Registry

/-- The first descriptor whose key has come before. -/
def firstTwice : List FunctionKey → List Descriptor → Option Descriptor
  | _, [] => none
  | seen, d :: rest => if d.key ∈ seen then some d else firstTwice (d.key :: seen) rest

/-- What is raised for a set whose namespace another one holds. The message names the files of both. -/
def conflict (p holder : Plugin) : ChangeError :=
  match p.cls.file, holder.cls.file with
  | .error e, _ => .noFile e
  | .ok _, .error e => .noFile e
  | .ok file, .ok other => .refused (.held p.space file other)

/-- The registry with a set in both of its tables. -/
def add (r : Registry) (p : Plugin) : Registry :=
  { sets := r.sets.put p.space p
    functions := p.descriptors.foldl (fun fs d => fs.put d.key d) r.functions }

/-- Adds a function set. That is reported with the file of its class, so a class without one raises
when its set has been added. -/
def register (r : Registry) (p : Plugin) : Changed Registry :=
  match r.sets.get? p.space with
  | some holder => ⟨r, some (conflict p holder)⟩
  | none =>
    match firstTwice [] p.descriptors with
    | some d => ⟨r, some (.refused (.twice p.space d.qualified d.arity))⟩
    | none =>
      ⟨r.add p, p.cls.unfiled?.map .noFile⟩

/-- Takes out the function set of a namespace. -/
def unregister (r : Registry) (space : String) : Except RegistryError Registry :=
  if r.sets.contains space then
    .ok { sets := r.sets.erase space, functions := r.functions.filter fun k => k.space ≠ space }
  else .error (.notRegistered space)

/-- The function set of a namespace. -/
def getSet (r : Registry) (space : String) : Except RegistryError Plugin :=
  match r.sets.get? space with
  | some p => .ok p
  | none => .error (.unknownNamespace space)

/-- The function of a call with a number of arguments. -/
def resolve (r : Registry) (space name : String) (arity : Nat) : Except RegistryError Descriptor :=
  if r.sets.contains space then
    match r.functions.get? ⟨space, name, arity⟩ with
    | some d => .ok d
    | none => .error (.unknownFunction space name arity)
  else .error (.unknownNamespace space)

/-- The namespaces, in the order in which their sets were registered. -/
def namespaces (r : Registry) : List String := r.sets.keys

/-- The functions in order of their keys; of one namespace only, if one is given. -/
def listed (r : Registry) (space : Option String) : List Descriptor :=
  let wanted := r.functions.entries.filter fun e => space.isNone || space = some e.1.space
  (wanted.mergeSort fun a b => !b.1.less a.1).map (·.2)

/-- The logger of registries. -/
def logger : String := "buildfuncs.registry"

/-- The record of a registration, in which the file of the class is named; none without a file. -/
def registered (p : Plugin) : List Record :=
  match p.cls.file with
  | .error _ => []
  | .ok file =>
    [{ level := .info, logger
       parts := [.literal "Registered function set '", .gap (.text p.space), .literal "' (",
        .gap (.number p.descriptors.length), .literal " functions) from ", .gap (.text file),
        .literal "."] }]

/-- The record of a set that was taken out. -/
def unregistered (space : String) : Record :=
  { level := .info, logger
    parts := [.literal "Unregistered function set '", .gap (.text space), .literal "'."] }

end Registry

end BuildScript
