import BuildScript.Yaml.Data
import BuildScript.Yaml.Node

/-!
The making of data from a document. Each node becomes one piece of data, when it is first met. A
collection is filled later: the collections are filled in the order in which they are met, level by level,
and the first error wins. Before a mapping is filled, what is merged into it is taken out of its entries
and put in front of them, for good: who meets its node later finds the entries that it has then.
-/

namespace BuildScript.Yaml

open Text (Point)

/-- The kinds of collections. -/
inductive Shape where
  | list
  | pairs
  | set
  | dict
  deriving Repr, DecidableEq

/-- The shape that a tag asks for. -/
def shapeOfTag? (tag : String) : Option Shape :=
  if tag = sequenceTag then some .list
  else if tag = mappingTag then some .dict
  else if tag = typeTag "set" then some .set
  else if tag = typeTag "omap" ∨ tag = typeTag "pairs" then some .pairs
  else none

namespace Document

/-- A node of the document. -/
def node (d : Document) (id : Nat) : Node := d.nodes.getD id default

/-- The tag of a node. -/
def tag (d : Document) (id : Nat) : String := (d.node id).tag

/-- An error about the kind of a node. -/
def wrongKind {α : Type} (d : Document) (id : Nat) : Except LoadError α :=
  flawed (.wrongKind (d.tag id))

/-- The entries of a mapping. -/
def entries (d : Document) (id : Nat) : Except LoadError (List (Nat × Nat)) :=
  match (d.node id).content with
  | .mapping es => .ok es
  | _ => d.wrongKind id

/-- The document with other entries for a mapping. -/
def withEntries (d : Document) (id : Nat) (es : List (Nat × Nat)) : Document :=
  { d with nodes := d.nodes.modify id fun n => { n with content := .mapping es } }

/-- Whether an entry is one that merges. -/
def merges (d : Document) (e : Nat × Nat) : Bool := d.tag e.1 = mergeTag

/-- The document in which a key that stands for the value of a mapping is a text. -/
def settleKey (d : Document) (key : Nat) : Document :=
  if d.tag key = valueTag then
    { d with nodes := d.nodes.modify key fun n => { n with tag := textTag } }
  else d

/-- The number of entries that merge. -/
def mergeCount (d : Document) : Nat :=
  d.nodes.foldl (fun n node => match node.content with
    | .mapping es => n + (es.filter d.merges).length
    | _ => n) 0

/-- Takes what is merged into a mapping out of its entries, the first of it first, and puts it in front of
those that are left; `front` is what has been taken out already. Of a merged sequence the last mapping
comes first. -/
def flattenFrom : Nat → Nat → List (Nat × Nat) → Document → Except LoadError Document
  | 0, _, _, d => .ok d
  | fuel + 1, id, front, d => do
    let es ← d.entries id
    match es.find? d.merges with
    | none =>
      let all := front ++ es
      let settled := es.foldl (fun d e => d.settleKey e.1) d
      return if front.isEmpty then settled else settled.withEntries id all
    | some (_, merged) =>
      let d := d.withEntries id (es.eraseP d.merges)
      match (d.node merged).content with
      | .mapping _ =>
        let d ← flattenFrom fuel merged [] d
        flattenFrom fuel id (front ++ (← d.entries merged)) d
      | .sequence items =>
        let (d, parts) ← items.foldlM (fun (d, parts) i => do
          match (d.node i).content with
          | .mapping _ =>
            let d ← flattenFrom fuel i [] d
            return (d, (← d.entries i) :: parts)
          | _ => flawed .badMerge) (d, [])
        flattenFrom fuel id (front ++ parts.flatten) d
      | .scalar _ => flawed .badMerge

/-- The document in which nothing is left to be merged into a mapping. -/
def flatten (d : Document) (id : Nat) : Except LoadError Document :=
  flattenFrom (d.mergeCount + 1) id [] d

/-- The text that a node has where a text is asked for: its own, or that of a mapping's value. There is
none if the value leads back to the mapping. -/
def scalarText (d : Document) : Nat → Nat → Except LoadError (List Point)
  | 0, _ => .error (.scalar "RecursionError" "maximum recursion depth exceeded")
  | depth + 1, id =>
    match (d.node id).content with
    | .scalar text => .ok text
    | .mapping entries =>
      match entries.find? fun e => d.tag e.1 = valueTag with
      | some e => d.scalarText depth e.2
      | none => d.wrongKind id
    | .sequence _ => d.wrongKind id

/-- The greatest depth at which nodes lie in others without a cycle. -/
def depth (d : Document) : Nat := d.nodes.size + 1

/-- The scalar of a node. A time is read from the text of a scalar alone. -/
def scalar (d : Document) (id : Nat) : Except LoadError Scalar :=
  let tag := d.tag id
  match Scalar.ofTag? tag id [] with
  | none => flawed (.unknownTag tag)
  | some _ => do
    let text ← d.scalarText d.depth id
    match (d.node id).content with
    | .mapping _ =>
      if tag = typeTag "timestamp" then
        Scalar.wrong "TypeError" "expected string or bytes-like object, got 'list'"
    | _ => pure ()
    (Scalar.ofTag? tag id text).getD (flawed (.unknownTag tag))

end Document

/-- What has become of a document: the data of the nodes that have been met, and what the collections
hold. -/
structure Construction where
  document : Document
  data : Array (Option Datum)
  collections : Array Collection
  /-- The collections that have been met and are not filled yet, the last first. -/
  due : List Nat := []

/-- Making of data. -/
abbrev Constructing := StateT Construction (Except LoadError)

namespace Construction

/-- The start of the making. -/
def start (d : Document) : Construction :=
  { document := d
    data := Array.replicate d.nodes.size none
    collections := Array.replicate d.nodes.size default }

/-- The datum of a node. -/
def datum (id : Nat) : Constructing Datum := do
  let c ← get
  match c.data.getD id none with
  | some x => return x
  | none =>
    if (shapeOfTag? (c.document.tag id)).isSome then
      let x := Datum.collection id
      set { c with data := c.data.setIfInBounds id (some x), due := id :: c.due }
      return x
    else
      let x := Datum.scalar (← c.document.scalar id)
      set { c with data := c.data.setIfInBounds id (some x) }
      return x

/-- The datum of a node that stands for a key. It has to be a scalar. -/
def key (id : Nat) : Constructing Scalar := do
  match ← datum id with
  | .scalar s => return s
  | .collection _ => throw (.flaw .unhashableKey)

/-- The entries of a mapping, in order. -/
def mapping (id : Nat) : Constructing (List (Scalar × Datum)) := do
  let c ← get
  match (c.document.node id).content with
  | .mapping _ =>
    let flat ← c.document.flatten id
    set { c with document := flat }
    let made ← (← flat.entries id).mapM fun e => do return (← key e.1, ← datum e.2)
    return uniteEntries made
  | _ => throw (.flaw (.wrongKind (c.document.tag id)))

/-- The entry of a mapping that has one. -/
def pair (id : Nat) : Constructing (Datum × Datum) := do
  match ← (← get).document.entries id with
  | [(k, v)] => return (← datum k, ← datum v)
  | _ => throw (.flaw (.wrongKind ((← get).document.tag id)))

/-- The items of a sequence, made by `item`. -/
def sequence {α : Type} (item : Nat → Constructing α) (id : Nat) : Constructing (List α) := do
  let d := (← get).document
  match (d.node id).content with
  | .sequence items => items.mapM item
  | _ => throw (.flaw (.wrongKind (d.tag id)))

/-- What the collection of a node holds. -/
def contents (shape : Shape) (id : Nat) : Constructing Collection :=
  match shape with
  | .dict => do return .dict (← mapping id)
  | .set => do return .set ((← mapping id).map (·.1))
  | .pairs => do return .pairs (← sequence pair id)
  | .list => do return .list (← sequence datum id)

/-- Fills a collection. -/
def fill (id : Nat) : Constructing Unit := do
  let shape := (shapeOfTag? ((← get).document.tag id)).getD .list
  let made ← contents shape id
  modify fun c => { c with collections := c.collections.setIfInBounds id made }

/-- Fills the collections that are due, level by level. -/
def fillDue : Nat → Constructing Unit
  | 0 => return
  | levels + 1 => do
    let due := (← get).due.reverse
    if due.isEmpty then return
    modify fun c => { c with due := [] }
    due.forM fill
    fillDue levels

end Construction

/-- The data of a document. -/
def Data.ofDocument (d : Document) : Except LoadError Data := do
  let make : Constructing Datum := do
    let root ← Construction.datum d.root
    Construction.fillDue (d.nodes.size + 1)
    return root
  let (root, c) ← make.run (.start d)
  return { root, collections := c.collections }

/-- Whether a character may stand in a YAML text. -/
def isPrintable (c : Char) : Bool :=
  let n := c.toNat
  c = '\t' || c = '\n' || c = '\r' || (0x20 ≤ n && n ≤ 0x7e) || n = 0x85
    || (0xa0 ≤ n && n ≤ 0xd7ff) || (0xe000 ≤ n && n ≤ 0xfffd) || 0x10000 ≤ n

/-- The data of a text, if there is a document in it. -/
def load (text : String) : Except LoadError (Option Data) :=
  match text.toList.find? fun c => !isPrintable c with
  | some c => flawed (.unprintable c)
  | none => do
    match ← Document.ofTokens (tokens text.toList) with
    | none => return none
    | some d => return some (← Data.ofDocument d)

end BuildScript.Yaml
