import BuildScript.Number.Residue
import BuildScript.Yaml.Scalar

/-!
The order of the keys of a set. A set of numbers has slots, more than its keys; each key in turn takes
the first free slot on a walk that its residue starts, and the keys are shown by their slots. Other sets
keep the order in which they are written.
-/

namespace BuildScript.Yaml.SetOrder

/-- The number of slots for a number of keys: eight for at most four, else the first of its doubles
that is more than twice the number of keys. -/
def slotCount (keys : Nat) : Nat :=
  if keys ≤ 4 then 8 else Nat.pow 2 (Nat.log2 (2 * keys) + 1)

/-- How many slots a step of a walk looks at, one after the other, if there are as many. -/
def stride : Nat := 10

/-- The first free slot of `count` from a place on. -/
def freeFrom? {α : Type} (slots : Array (Option α)) (start count : Nat) : Option Nat :=
  ((List.range count).map (start + ·)).find? fun i => slots[i]? matches some none

/-- The first free slot on a walk. `left` is what is left of the residue to bend the walk. -/
def freeSlot? {α : Type} (slots : Array (Option α)) : Nat → Nat → Nat → Option Nat
  | 0, _, _ => none
  | fuel + 1, start, left =>
    match freeFrom? slots start (if start + stride ≤ slots.size then stride else 1) with
    | some i => some i
    | none => freeSlot? slots fuel ((5 * start + 1 + left / 32) % slots.size) (left / 32)

/-- The steps after which a walk has been at every slot: thirteen use up the residue. -/
def walkLength (slots : Nat) : Nat := slots + 13

/-- Puts a key into its slot. -/
def putKey {α : Type} (slots : Array (Option α)) (key : UInt64 × α) : Array (Option α) :=
  let r := key.1.toNat
  match freeSlot? slots (walkLength slots.size) (r % slots.size) r with
  | some i => slots.setIfInBounds i (some key.2)
  | none => slots

/-- The keys by their slots. -/
def bySlot {α : Type} (keys : List (UInt64 × α)) : List α :=
  (keys.foldl putKey (Array.replicate (slotCount keys.length) none)).toList.filterMap id

/-- The residue of a number. -/
def residue? : Scalar → Option UInt64
  | .plain (.float x) => Number.Residue.ofBinary64? x
  | .plain v => v.integer?.map Number.Residue.ofInt
  | _ => none

/-- The keys of a set in the order in which they are shown. -/
def shown (keys : List Scalar) : List Scalar :=
  match keys.mapM fun k => do return (← residue? k, k) with
  | some numbers => bySlot numbers
  | none => keys

end BuildScript.Yaml.SetOrder
