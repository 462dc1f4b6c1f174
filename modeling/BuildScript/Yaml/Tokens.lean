import BuildScript.Yaml.ScalarText

/-!
A YAML text as tokens. Indentation opens and closes block collections. A key may stand without a mark in
front: where one may start is kept in mind, and the colon behind it puts the mark there after all. Such
a key lies in one line and is no longer than 1024 characters.
-/

namespace BuildScript.Yaml

open Text (Point)

/-- A place where a key without a mark may have started. -/
structure SimpleKey where
  /-- How many tokens stand in front of it. -/
  number : Nat
  required : Bool
  index : Nat
  line : Nat
  column : Nat

/-- A text cut into tokens up to a place. -/
structure Lexer where
  cursor : Cursor
  tokens : Array Token := #[]
  /-- How many brackets and braces are open. -/
  flow : Nat := 0
  indent : Int := -1
  indents : List Int := []
  keyAllowed : Bool := true
  /-- Where a key may have started, by the number of open brackets. -/
  keys : List (Nat × SimpleKey) := []
  done : Bool := false

/-- The greatest length of a key without a mark. -/
def maxKeyLength : Nat := 1024

namespace Lexer

/-- Adds a token. -/
def push (l : Lexer) (t : Token) : Lexer := { l with tokens := l.tokens.push t }

/-- Adds a token that some characters make. -/
def take (l : Lexer) (t : Token) (length : Nat) : Lexer :=
  { l with tokens := l.tokens.push t, cursor := l.cursor.skip length }

/-- Whether a key that may have started cannot end any more. -/
def isStale (l : Lexer) (k : SimpleKey) : Bool :=
  k.line ≠ l.cursor.line || decide (maxKeyLength < l.cursor.index - k.index)

/-- Forgets keys that cannot end any more. -/
def dropStale (l : Lexer) : Except LoadError Lexer :=
  if l.keys.any fun k => l.isStale k.2 && k.2.required then flawed .unfinishedKey
  else .ok { l with keys := l.keys.filter fun k => !l.isStale k.2 }

/-- Forgets the key inside the open brackets. -/
def dropKey (l : Lexer) : Except LoadError Lexer :=
  match l.keys.lookup l.flow with
  | none => .ok l
  | some k =>
    if k.required then flawed .unfinishedKey
    else .ok { l with keys := l.keys.filter fun k => k.1 ≠ l.flow }

/-- Keeps in mind that a key may start here. -/
def saveKey (l : Lexer) : Except LoadError Lexer :=
  if !l.keyAllowed then .ok l
  else do
    let cleared ← l.dropKey
    let k : SimpleKey :=
      { number := l.tokens.size, required := l.flow = 0 && l.indent = l.cursor.column
        index := l.cursor.index, line := l.cursor.line, column := l.cursor.column }
    return { cleared with keys := (l.flow, k) :: cleared.keys }

/-- Closes the block collections that are indented further than a column. -/
def unwindFrom (column : Int) : List Int → Lexer → Lexer
  | [], l => l
  | outer :: rest, l =>
    if column < l.indent then
      unwindFrom column rest ({ l with indent := outer, indents := rest }.push .blockEnd)
    else l

/-- Closes the block collections that are indented further than a column, outside of brackets. -/
def unwind (l : Lexer) (column : Int) : Lexer :=
  if l.flow = 0 then unwindFrom column l.indents l else l

/-- Opens a block collection at a column, if that is further in; its token goes to a place. -/
def openBlock (l : Lexer) (column : Nat) (t : Token) (place : Nat) : Lexer :=
  if l.flow = 0 ∧ l.indent < column then
    { l with
      indents := l.indent :: l.indents, indent := column
      tokens := l.tokens.insertIdxIfInBounds place t }
  else l

/-- The place behind spaces, comments and line ends, behind which a key may start. -/
def skipBlanks : Nat → Lexer → Lexer
  | 0, l => l
  | fuel + 1, l =>
    let spaces := l.cursor.skipSpaces
    let line := if spaces.peek = '#' then spaces.skipLine else spaces
    let (text, after) := line.lineBreak
    if text.isEmpty then { l with cursor := line }
    else skipBlanks fuel { l with cursor := after, keyAllowed := l.keyAllowed || l.flow = 0 }

/-- Closes all block collections, for the end of a document. -/
def endBlocks (l : Lexer) : Except LoadError Lexer := do
  let closed ← (l.unwind (-1)).dropKey
  return { closed with keyAllowed := false }

/-- The end of the text. -/
def streamEnd (l : Lexer) : Except LoadError Lexer := do
  let closed ← l.endBlocks
  return { closed with keys := [], done := true }.push .streamEnd

/-- A token that ends or begins a document. -/
def documentMark (l : Lexer) (t : Token) : Except LoadError Lexer := do
  return (← l.endBlocks).take t 3

/-- A directive. -/
def directive (l : Lexer) : Except LoadError Lexer := do
  let closed ← l.endBlocks
  let (t, after) ← scanDirective closed.cursor
  return { closed with cursor := after }.push t

/-- An opening bracket or brace. -/
def openFlow (l : Lexer) (t : Token) : Except LoadError Lexer := do
  let saved ← l.saveKey
  return { saved with flow := l.flow + 1, keyAllowed := true }.take t 1

/-- A closing bracket or brace. -/
def closeFlow (l : Lexer) (t : Token) : Except LoadError Lexer := do
  let cleared ← l.dropKey
  return { cleared with flow := l.flow - 1, keyAllowed := false }.take t 1

/-- A comma inside brackets or braces. -/
def flowEntry (l : Lexer) : Except LoadError Lexer := do
  return (← { l with keyAllowed := true }.dropKey).take .flowEntry 1

/-- The hyphen of an entry. -/
def blockEntry (l : Lexer) : Except LoadError Lexer := do
  if l.flow = 0 && !l.keyAllowed then flawed .misplacedEntry
  else
    let opened := l.openBlock l.cursor.column .blockSequenceStart l.tokens.size
    return (← { opened with keyAllowed := true }.dropKey).take .blockEntry 1

/-- The mark of a key. -/
def keyMark (l : Lexer) : Except LoadError Lexer := do
  if l.flow = 0 && !l.keyAllowed then flawed .misplacedKey
  else
    let opened := l.openBlock l.cursor.column .blockMappingStart l.tokens.size
    return (← { opened with keyAllowed := l.flow = 0 }.dropKey).take .key 1

/-- The colon of a value. A key that started without a mark gets its mark now. -/
def valueMark (l : Lexer) : Except LoadError Lexer := do
  match l.keys.lookup l.flow with
  | some k =>
    let marked := { l with
      keys := l.keys.filter fun k => k.1 ≠ l.flow
      tokens := l.tokens.insertIdxIfInBounds k.number .key }
    return { marked.openBlock k.column .blockMappingStart k.number with keyAllowed := false }.take
      .value 1
  | none =>
    if l.flow = 0 && !l.keyAllowed then flawed .misplacedValue
    else
      let opened := l.openBlock l.cursor.column .blockMappingStart l.tokens.size
      return (← { opened with keyAllowed := l.flow = 0 }.dropKey).take .value 1

/-- A name, tag or scalar behind which no key may start; it may start one itself. -/
def content (l : Lexer) (scan : Cursor → Except LoadError (Token × Cursor)) :
    Except LoadError Lexer := do
  let saved ← l.saveKey
  let (t, after) ← scan l.cursor
  return { saved with keyAllowed := false, cursor := after }.push t

/-- A block of text. -/
def block (l : Lexer) (folded : Bool) : Except LoadError Lexer := do
  let cleared ← { l with keyAllowed := true }.dropKey
  let (text, after) ← scanBlock folded l.indent l.cursor
  return { cleared with cursor := after }.push (.scalar (Point.ofText text) false)

/-- Plain text. A key may start behind it if a line has ended. -/
def plain (l : Lexer) : Except LoadError Lexer := do
  let saved ← l.saveKey
  let (text, after, ended) := scanPlain (0 < l.flow) l.indent l.cursor
  return { saved with keyAllowed := ended, cursor := after }.push
    (.scalar (Point.ofText text) true)

/-- Whether plain text may start here. -/
def startsPlain (l : Lexer) : Bool :=
  let c := l.cursor.peek
  !(isBlankOrEnd c || "-?:,[]\x7b\x7d#&*!|>'\"%@`".toList.contains c)
    || (!isBlankOrEnd (l.cursor.peekAt 1) && (c = '-' || (l.flow = 0 && (c = '?' || c = ':'))))

/-- The next token, and those that it entails. -/
def step (start : Lexer) : Except LoadError Lexer := do
  let l := (← (skipBlanks (start.cursor.rest.length + 1) start).dropStale)
  let l := l.unwind l.cursor.column
  let c := l.cursor
  let blankNext := isBlankOrEnd (c.peekAt 1)
  match c.peek with
  | '\x00' => l.streamEnd
  | '[' => l.openFlow .flowSequenceStart
  | '\x7b' => l.openFlow .flowMappingStart
  | ']' => l.closeFlow .flowSequenceEnd
  | '\x7d' => l.closeFlow .flowMappingEnd
  | ',' => l.flowEntry
  | '*' => l.content fun c => (scanName c).map fun (s, after) => (.alias s, after)
  | '&' => l.content fun c => (scanName c).map fun (s, after) => (.anchor s, after)
  | '!' => l.content scanTag
  | '\'' => l.content fun c => (scanQuoted false c).map fun (s, after) => (.scalar s false, after)
  | '"' => l.content fun c => (scanQuoted true c).map fun (s, after) => (.scalar s false, after)
  | ch =>
    if ch = '%' && c.column = 0 then l.directive
    else if c.column = 0 && c.atDocumentMark then
      l.documentMark (if ch = '-' then .documentStart else .documentEnd)
    else if ch = '-' && blankNext then l.blockEntry
    else if ch = '?' && (0 < l.flow || blankNext) then l.keyMark
    else if ch = ':' && (0 < l.flow || blankNext) then l.valueMark
    else if ch = '|' && l.flow = 0 then l.block false
    else if ch = '>' && l.flow = 0 then l.block true
    else if l.startsPlain then l.plain
    else flawed (.unexpectedCharacter ch)

/-- How many tokens are settled: no key may still have started in front of one of them. -/
def settled (l : Lexer) : Nat :=
  (l.keys.filter fun k => !l.isStale k.2).foldl (fun n k => min n k.2.number) l.tokens.size

/-- Cuts the text into tokens, up to its end or to where that is not possible. What may be part of a key
is not known before the text has been cut further, so a failure stands in the place of all that is not
settled. -/
def run : Nat → Lexer → Array Token
  | 0, l => l.tokens.push (.broken (.flaw .tooDeep))
  | fuel + 1, l =>
    if l.done then l.tokens
    else match l.step with
      | .ok next => run fuel next
      | .error e => (l.tokens.extract 0 l.settled).push (.broken e)

end Lexer

/-- The tokens of a text. A byte order mark in front of it is left out. -/
def tokens (text : List Char) : List Token :=
  let cursor := Cursor.start text
  let start := if text.head? = some '\ufeff' then cursor.next else cursor
  ((Lexer.run (text.length + 2) { cursor := start }).toList)

end BuildScript.Yaml
