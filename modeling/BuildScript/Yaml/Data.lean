import BuildScript.Yaml.Scalar
import BuildScript.Yaml.SetOrder

/-!
The data of a YAML document: scalars, and collections that may be shared and may hold themselves. A
collection is told by the number of its node. Mappings have scalars for keys; of equal keys the first
gives the key and the last the value.
-/

namespace BuildScript.Yaml

/-- A piece of data: a scalar, or the collection of a node. -/
inductive Datum where
  | scalar (s : Scalar)
  | collection (id : Nat)
  deriving Repr

/-- What a collection holds. -/
inductive Collection where
  | list (items : List Datum)
  | pairs (entries : List (Datum × Datum))
  | set (keys : List Scalar)
  | dict (entries : List (Scalar × Datum))
  deriving Repr, Inhabited

/-- Data: the piece that is meant, and the collections by the numbers of their nodes. -/
structure Data where
  root : Datum
  collections : Array Collection
  deriving Repr

/-- Puts an entry into a mapping. -/
def putEntry (k : Scalar) (v : Datum) : List (Scalar × Datum) → List (Scalar × Datum)
  | [] => [(k, v)]
  | e :: rest => if e.1.eq k then (e.1, v) :: rest else e :: putEntry k v rest

/-- Entries with equal keys put together. -/
def uniteEntries (es : List (Scalar × Datum)) : List (Scalar × Datum) :=
  es.foldl (fun made e => putEntry e.1 e.2 made) []

namespace Collection

/-- The name of the type of a collection. -/
def typeName : Collection → String
  | list _ | pairs _ => "list"
  | set _ => "set"
  | dict _ => "dict"

/-- The text that stands for a collection inside itself. -/
def ellipsis : Collection → String
  | list _ | pairs _ => "[...]"
  | set _ => "set(...)"
  | dict _ => "\x7b...\x7d"

end Collection

namespace Data

/-- A collection. -/
def get (d : Data) (id : Nat) : Collection := d.collections.getD id default

/-- The same data with another piece meant. -/
def «at» (d : Data) (x : Datum) : Data := { d with root := x }

/-- The name of the type of what is meant. -/
def typeName (d : Data) : String :=
  match d.root with
  | .scalar s => s.typeName
  | .collection id => (d.get id).typeName

/-- The text in brackets. -/
def inBrackets (xs : List String) : String := "[" ++ ", ".intercalate xs ++ "]"

/-- The text that shows a datum inside the collections `inside`, if it can be shown. -/
def displayIn (d : Data) (inside : List Nat) : Nat → Datum → Except Obstacle String
  | _, .scalar s => s.display
  | 0, .collection id => .ok (d.get id).ellipsis
  | fuel + 1, .collection id =>
    let c := d.get id
    if inside.contains id then .ok c.ellipsis
    else
      let piece := d.displayIn (id :: inside) fuel
      match c with
      | .list items => (items.mapM piece).map inBrackets
      | .pairs es => do
        let texts ← es.mapM fun e => do return "(" ++ (← piece e.1) ++ ", " ++ (← piece e.2) ++ ")"
        return inBrackets texts
      | .set [] => .ok "set()"
      | .set ks => ((SetOrder.shown ks).mapM Scalar.display).map Value.inBraces
      | .dict es => do
        let texts ← es.mapM fun e => do return (← e.1.display) ++ ": " ++ (← piece e.2)
        return Value.inBraces texts

/-- The text that shows what is meant, if it can be shown. -/
def display (d : Data) : Except Obstacle String :=
  d.displayIn [] (d.collections.size + 1) d.root

end Data

end BuildScript.Yaml
