import BuildScript.Table
import BuildScript.Yaml.Kind
import BuildScript.Yaml.Tokens

/-!
The nodes of a YAML document. A document is a graph: an alias stands for the very node that has its
anchor, so a collection may hold itself. Nodes are numbered in the order in which they begin.
-/

namespace BuildScript.Yaml

open Text (Point)

/-- What a node holds. -/
inductive Content where
  | scalar (text : List Point)
  | sequence (items : List Nat)
  | mapping (entries : List (Nat × Nat))
  deriving Repr, DecidableEq, Inhabited

/-- A node: its tag and what it holds. -/
structure Node where
  tag : String
  content : Content
  deriving Repr, DecidableEq, Inhabited

/-- A document: its nodes and the one that stands for it. -/
structure Document where
  nodes : Array Node
  root : Nat
  deriving Repr

/-- The state of a text that is read node by node. -/
structure Reader where
  tokens : List Token
  nodes : Array Node := #[]
  anchors : Table String Nat := .empty
  handles : Table String String := .empty

/-- Reading of nodes. -/
abbrev Reading := StateT Reader (Except LoadError)

namespace Reader

/-- The next token. -/
def head : Reading Token := return (← get).tokens.headD .streamEnd

/-- Takes the next token. -/
def advance : Reading Unit := modify fun r => { r with tokens := r.tokens.drop 1 }

/-- Refuses the text because of a token. -/
def refuse {α : Type} (t : Token) : Reading α :=
  match t with
  | .broken e => throw e
  | _ => throw (.flaw .unexpectedToken)

/-- Takes the next token, which has to be this one. -/
def expect (t : Token) : Reading Unit := do
  let next ← head
  if next = t then advance else refuse next

/-- Adds a node. -/
def add (n : Node) : Reading Nat := do
  let r ← get
  set { r with nodes := r.nodes.push n }
  return r.nodes.size

/-- Gives a node its content. -/
def fill (id : Nat) (c : Content) : Reading Unit :=
  modify fun r => { r with nodes := r.nodes.modify id fun n => { n with content := c } }

/-- Adds an empty plain scalar. -/
def addEmpty : Reading Nat := add { tag := plainTag "", content := .scalar [] }

/-- What is said of a node in front of it: its anchor and its tag, in either order. -/
structure Properties where
  anchor : Option String := none
  tag : Option (Option String × String) := none

/-- Reads what is said of a node. -/
def properties : Reading Properties := do
  match (← get).tokens with
  | .anchor a :: .tag h s :: _ => advance; advance; return ⟨some a, some (h, s)⟩
  | .anchor a :: _ => advance; return ⟨some a, none⟩
  | .tag h s :: .anchor a :: _ => advance; advance; return ⟨some a, some (h, s)⟩
  | .tag h s :: _ => advance; return ⟨none, some (h, s)⟩
  | _ => return {}

/-- The tag that was given in full, its handle replaced. -/
def fullTag (p : Properties) : Reading (Option String) := do
  match p.tag with
  | none => return none
  | some (none, suffix) => return some suffix
  | some (some handle, suffix) =>
    match (← get).handles.get? handle with
    | some stem => return some (stem ++ suffix)
    | none => throw (.flaw (.undefinedHandle handle))

/-- Adds a node and gives it its anchor, which must be new. -/
def addAnchored (anchor : Option String) (n : Node) : Reading Nat := do
  let id ← add n
  match anchor with
  | none => return id
  | some a =>
    if (← get).anchors.contains a then throw (.flaw (.repeatedAnchor a))
    modify fun r => { r with anchors := r.anchors.put a id }
    return id

/-- The tag of a collection: the one that was given, or that of its kind. -/
def collectionTag (given : Option String) (kind : String) : String :=
  match given with
  | none | some "!" => kind
  | some t => t

/-- The tag of a scalar: the one that was given, or the one that its text asks for; a text that is not
plain asks for none. -/
def scalarTag (given : Option String) (text : List Point) (plain : Bool) : String :=
  let asked := ((Point.text? text).map plainTag).getD textTag
  match given with
  | some "!" => asked
  | some t => t
  | none => if plain then asked else textTag

mutual

/-- Reads a node. Block collections may begin only where `block` allows it, and a sequence without
indentation of its own only where `indentless` does. -/
def node (block indentless : Bool) : Nat → Reading Nat
  | 0 => throw (.flaw .tooDeep)
  | fuel + 1 => do
    if let .alias name ← head then
      advance
      match (← get).anchors.get? name with
      | some id => return id
      | none => throw (.flaw (.undefinedAlias name))
    let p ← properties
    let given ← fullTag p
    let t ← head
    let sequence (read : Reading (List Nat)) : Reading Nat := do
      let id ← addAnchored p.anchor ⟨collectionTag given sequenceTag, .sequence []⟩
      fill id (.sequence (← read))
      return id
    let mapping (read : Reading (List (Nat × Nat))) : Reading Nat := do
      let id ← addAnchored p.anchor ⟨collectionTag given mappingTag, .mapping []⟩
      fill id (.mapping (← read))
      return id
    match t with
    | .scalar text plain =>
      advance
      addAnchored p.anchor ⟨scalarTag given text plain, .scalar text⟩
    | .flowSequenceStart => advance; sequence (flowItems true fuel)
    | .flowMappingStart => advance; mapping (flowEntries true fuel)
    | _ =>
      if indentless && t = .blockEntry then sequence (indentlessItems fuel)
      else if block && t = .blockSequenceStart then advance; sequence (blockItems fuel)
      else if block && t = .blockMappingStart then advance; mapping (blockEntries fuel)
      else if p.anchor.isSome || p.tag.isSome then
        match t with
        | .broken e => throw e
        | _ => addAnchored p.anchor ⟨scalarTag given [] true, .scalar []⟩
      else refuse t

/-- Reads the items of a block sequence, up to its end. -/
def blockItems : Nat → Reading (List Nat)
  | 0 => throw (.flaw .tooDeep)
  | fuel + 1 => do
    match ← head with
    | .blockEntry =>
      advance
      let t ← head
      let item ← if t = .blockEntry ∨ t = .blockEnd then addEmpty else node true false fuel
      return item :: (← blockItems fuel)
    | .blockEnd => advance; return []
    | t => refuse t

/-- Reads the items of a sequence without indentation of its own. -/
def indentlessItems : Nat → Reading (List Nat)
  | 0 => throw (.flaw .tooDeep)
  | fuel + 1 => do
    if (← head) ≠ .blockEntry then return []
    advance
    let t ← head
    let item ←
      if t = .blockEntry ∨ t = .key ∨ t = .value ∨ t = .blockEnd then addEmpty
      else node true false fuel
    return item :: (← indentlessItems fuel)

/-- Reads the entries of a block mapping, up to its end. -/
def blockEntries : Nat → Reading (List (Nat × Nat))
  | 0 => throw (.flaw .tooDeep)
  | fuel + 1 => do
    match ← head with
    | .key =>
      advance
      let key ← blockPart fuel
      let value ← blockValue fuel
      return (key, value) :: (← blockEntries fuel)
    | .blockEnd => advance; return []
    | t => refuse t

/-- Reads the key or value of an entry of a block mapping, which may be missing. -/
def blockPart : Nat → Reading Nat
  | 0 => throw (.flaw .tooDeep)
  | fuel + 1 => do
    let t ← head
    if t = .key ∨ t = .value ∨ t = .blockEnd then addEmpty else node true true fuel

/-- Reads the value of an entry of a block mapping, with its mark, or else takes an empty one. -/
def blockValue : Nat → Reading Nat
  | 0 => throw (.flaw .tooDeep)
  | fuel + 1 => do
    if (← head) = .value then advance; blockPart fuel else addEmpty

/-- Reads the items of a flow sequence, up to its end. An item with a key is a mapping of one entry. -/
def flowItems (first : Bool) : Nat → Reading (List Nat)
  | 0 => throw (.flaw .tooDeep)
  | fuel + 1 => do
    if (← head) = .flowSequenceEnd then advance; return []
    if !first then expect .flowEntry
    match ← head with
    | .flowSequenceEnd => advance; return []
    | .key =>
      advance
      let id ← add ⟨mappingTag, .mapping []⟩
      let key ← flowPart .flowSequenceEnd fuel
      let value ← flowValue .flowSequenceEnd fuel
      fill id (.mapping [(key, value)])
      return id :: (← flowItems false fuel)
    | _ =>
      let item ← node false false fuel
      return item :: (← flowItems false fuel)

/-- Reads the entries of a flow mapping, up to its end. -/
def flowEntries (first : Bool) : Nat → Reading (List (Nat × Nat))
  | 0 => throw (.flaw .tooDeep)
  | fuel + 1 => do
    if (← head) = .flowMappingEnd then advance; return []
    if !first then expect .flowEntry
    match ← head with
    | .flowMappingEnd => advance; return []
    | .key =>
      advance
      let key ← flowPart .flowMappingEnd fuel
      let value ← flowValue .flowMappingEnd fuel
      return (key, value) :: (← flowEntries false fuel)
    | _ =>
      let key ← node false false fuel
      let value ← addEmpty
      return (key, value) :: (← flowEntries false fuel)

/-- Reads the key of an entry inside brackets or braces, which may be missing. -/
def flowPart (closing : Token) : Nat → Reading Nat
  | 0 => throw (.flaw .tooDeep)
  | fuel + 1 => do
    let t ← head
    if t = .value ∨ t = .flowEntry ∨ t = closing then addEmpty else node false false fuel

/-- Reads the value of an entry inside brackets or braces, or else takes an empty one. -/
def flowValue (closing : Token) : Nat → Reading Nat
  | 0 => throw (.flaw .tooDeep)
  | fuel + 1 => do
    if (← head) ≠ .value then addEmpty
    else
      advance
      let t ← head
      if t = .flowEntry ∨ t = closing then addEmpty else node false false fuel

end

/-- The handles that need no directive. -/
def commonHandles : List (String × String) := [("!", "!"), ("!!", typeStem)]

/-- Handles together with those that need no directive. -/
def withCommon (hs : Table String String) : Table String String :=
  commonHandles.foldl (fun hs h => if hs.contains h.1 then hs else hs.put h.1 h.2) hs

/-- Reads the directives in front of a document. At most one says the version, which is 1, and each handle
is explained once. -/
def directives (version : Bool) : Nat → Reading Unit
  | 0 => return
  | fuel + 1 => do
    match ← head with
    | .version major _ =>
      if version || major ≠ 1 then throw (.flaw .badDirective)
      advance
      directives true fuel
    | .handle handle stem =>
      if (← get).handles.contains handle then throw (.flaw .badDirective)
      modify fun r => { r with handles := r.handles.put handle stem }
      advance
      directives version fuel
    | .directive => advance; directives version fuel
    | _ => modify fun r => { r with handles := withCommon r.handles }

/-- Reads what a document with a mark of its own holds, which may be nothing. -/
def marked (fuel : Nat) : Reading Nat := do
  let t ← head
  if t.isDirective || t = .documentStart || t = .documentEnd || t = .streamEnd then addEmpty
  else node true false fuel

/-- Reads the only document of a text, if there is one. -/
def only (fuel : Nat) : Reading (Option Nat) := do
  let t ← head
  if t = .streamEnd then return none
  let root ←
    if t.isDirective || t = .documentStart then do
      directives false fuel
      expect .documentStart
      marked fuel
    else do
      directives false 1
      node true false fuel
  modify fun r => { r with tokens := r.tokens.dropWhile (· = .documentEnd) }
  match ← head with
  | .streamEnd => return some root
  | .broken e => throw e
  | _ => throw (.flaw .severalDocuments)

end Reader

/-- The document that tokens make, if they make one. -/
def Document.ofTokens (ts : List Token) : Except LoadError (Option Document) := do
  let (root, r) ← (Reader.only (3 * ts.length + 10)).run { tokens := ts }
  return root.map fun root => { nodes := r.nodes, root }

end BuildScript.Yaml
