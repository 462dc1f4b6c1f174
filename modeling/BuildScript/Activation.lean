import BuildScript.FunctionSet.Core
import BuildScript.Registry

/-!
Activation: the default registry, and which plugins have been activated in it. Deactivating a plugin
takes out whatever set holds its namespace. The sets of the library are added where they are missing.
-/

namespace BuildScript

/-- The default registry, with the identities of the plugins that are activated. -/
structure DefaultRegistry where
  registry : Registry := {}
  activated : List Nat := []

namespace DefaultRegistry

/-- Whether a plugin is activated. -/
def isActivated (d : DefaultRegistry) (p : Plugin) : Bool := d.activated.contains p.id

/-- Registers a plugin, and marks it as activated if nothing was raised. -/
def activate (d : DefaultRegistry) (p : Plugin) : Changed DefaultRegistry :=
  match d.registry.register p with
  | ⟨registry, none⟩ => ⟨{ registry, activated := p.id :: d.activated }, none⟩
  | ⟨registry, some e⟩ => ⟨{ d with registry }, some e⟩

/-- Takes out the set under the namespace of a plugin, and marks the plugin as not activated. -/
def deactivate (d : DefaultRegistry) (p : Plugin) : Except RegistryError DefaultRegistry := do
  let registry ← d.registry.unregister p.space
  return { registry, activated := d.activated.filter (· ≠ p.id) }

/-- Takes out the set of a namespace: by deactivating its plugin if that is activated. -/
def remove (d : DefaultRegistry) (space : String) : Except RegistryError DefaultRegistry := do
  let p ← d.registry.getSet space
  if d.isActivated p then d.deactivate p
  else return { d with registry := ← d.registry.unregister space }

/-- Takes out all sets. -/
def reset (d : DefaultRegistry) : Except RegistryError DefaultRegistry :=
  d.registry.namespaces.foldlM remove d

end DefaultRegistry

/-! ## The sets of the library -/

/-- The plugins of the library's own sets, in the order of registration; their identities are the
numbers from `firstId` on. -/
def corePlugins (file : String) (firstId : Nat) : List Plugin :=
  (Core.classes file).zipIdx.filterMap fun (c, i) => (Plugin.ofClass (firstId + i) none c).toOption

/-- What comes of adding plugins: the state then, those that were added, and what stopped it. -/
structure Added (σ : Type) where
  state : σ
  added : List Plugin
  error : Option ChangeError

/-- Whether a plugin is to be added: its namespace is not disabled, and its own class does not hold it
already. -/
def isMissing (disabled : List String) (r : Registry) (p : Plugin) : Bool :=
  !disabled.contains p.space &&
    match r.sets.get? p.space with
    | some holder => holder.cls.id ≠ p.cls.id
    | none => true

/-- Adds the plugins that are missing from the registry of a state, one after the other, up to the
first for which something is raised. -/
def addMissing {σ : Type} (registry : σ → Registry)
    (add : σ → Plugin → Changed σ) (disabled : List String) (s : σ) : List Plugin → Added σ
  | [] => ⟨s, [], none⟩
  | p :: ps =>
    if isMissing disabled (registry s) p then
      match add s p with
      | ⟨s', some e⟩ => ⟨s', [], some e⟩
      | ⟨s', none⟩ =>
        let rest := addMissing registry add disabled s' ps
        { rest with added := p :: rest.added }
    else addMissing registry add disabled s ps

/-- Registers what is missing of some plugins. -/
def Registry.addMissing (r : Registry) (disabled : List String) (ps : List Plugin) :
    Added Registry :=
  BuildScript.addMissing id Registry.register disabled r ps

/-- Activates what is missing of some plugins. -/
def DefaultRegistry.addMissing (d : DefaultRegistry) (disabled : List String) (ps : List Plugin) :
    Added DefaultRegistry :=
  BuildScript.addMissing DefaultRegistry.registry DefaultRegistry.activate disabled d ps

end BuildScript
