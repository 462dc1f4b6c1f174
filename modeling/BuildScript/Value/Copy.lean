import BuildScript.Value.Basic

/-!
Copies of values. A copy holds the same data; the individuals in it are new ones, whose identities
come from a renaming of the old.
-/

namespace BuildScript.Value

mutual

/-- The copy of a value, its individuals renamed. -/
def copy (rename : Nat → Nat) : Value → Value
  | list xs => list (copyAll rename xs)
  | tuple xs => tuple (copyAll rename xs)
  | dict es => dict (copyEntries rename es)
  | target id t => target (rename id) t
  | property id n v ro dyn => property (rename id) n (v.copy rename) ro dyn
  | taskBuilder id n a c => taskBuilder (rename id) n (a.copy rename) c
  | platform id p => platform (rename id) p
  | host id h => host (rename id) h
  | v => v

/-- The copies of some values. -/
def copyAll (rename : Nat → Nat) : List Value → List Value
  | [] => []
  | x :: rest => x.copy rename :: copyAll rename rest

/-- The copies of the entries of a dictionary. -/
def copyEntries (rename : Nat → Nat) : List (Value × Value) → List (Value × Value)
  | [] => []
  | (k, v) :: rest => (k.copy rename, v.copy rename) :: copyEntries rename rest

end

end BuildScript.Value
