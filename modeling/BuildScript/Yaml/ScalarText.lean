import BuildScript.Yaml.Name

/-!
The texts of scalars: in quotes, in a block behind `|` or `>`, or plain. Line breaks inside are folded:
one becomes a space, more lose the first; a block behind `|` keeps them all. The two line ends that
are characters of their own (`\u2028` and `\u2029`) are kept as they are.
-/

namespace BuildScript.Yaml

open Text (Point)

/-- Texts, one after the other. -/
abbrev Pieces := List (List Char)

/-- Rows of code points, one after the other. -/
abbrev Rows := List (List Point)

/-- Texts as rows of code points. -/
def Pieces.rows (ps : Pieces) : Rows := ps.map Point.ofChars

/-! ## In quotes -/

/-- What a single character behind a backslash stands for. -/
def escape? (c : Char) : Option Char :=
  match c with
  | '0' => some '\x00'
  | 'a' => some '\x07'
  | 'b' => some '\x08'
  | 't' => some '\t'
  | '\t' => some '\t'
  | 'n' => some '\n'
  | 'v' => some '\x0b'
  | 'f' => some '\x0c'
  | 'r' => some '\r'
  | 'e' => some '\x1b'
  | ' ' => some ' '
  | '"' => some '"'
  | '\\' => some '\\'
  | '/' => some '/'
  | 'N' => some '\x85'
  | '_' => some '\xa0'
  | 'L' => some '\u2028'
  | 'P' => some '\u2029'
  | _ => none

/-- How many hexadecimal digits follow a character behind a backslash. -/
def escapeWidth? (c : Char) : Option Nat :=
  match c with
  | 'x' => some 2
  | 'u' => some 4
  | 'U' => some 8
  | _ => none

/-- The code point of a number. -/
def pointOfCode (n : Nat) : Except LoadError Point :=
  match Point.ofCode? n with
  | some p => .ok p
  | none =>
    if n < 0x80000000 then .error (.scalar "ValueError" "chr() arg not in range(0x110000)")
    else .error (.scalar "OverflowError" "Python int too large to convert to C int")

/-- The line breaks behind a line break in quotes, with the blanks around them. A document mark must
not stand at the start of a line. -/
def quotedBreaks : Nat → Cursor → Except LoadError (Pieces × Cursor)
  | 0, _ => flawed .unfinishedQuote
  | fuel + 1, c =>
    if c.atDocumentMark then flawed .unfinishedQuote
    else
      let (text, after) := (c.skipWhile fun ch => ch = ' ' || ch = '\t').lineBreak
      if text.isEmpty then .ok ([], after)
      else do
        let (more, rest) ← quotedBreaks fuel after
        return (text :: more, rest)

/-- What follows a backslash in double quotes. -/
def quotedEscape (c : Cursor) : Except LoadError (Rows × Cursor) :=
  match escape? c.peek, escapeWidth? c.peek with
  | some ch, _ => .ok ([[.char ch]], c.next)
  | none, some width =>
    let digits := c.next.rest.take width
    if digits.length < width then flawed .badEscape
    else match hexNumber? digits with
      | some n => do return ([[← pointOfCode n]], c.next.skip width)
      | none => flawed .badEscape
  | none, none =>
    if isBreak c.peek then
      (quotedBreaks (c.rest.length + 1) c.lineBreak.2).map fun r => (r.1.rows, r.2)
    else flawed .badEscape

/-- The text in quotes up to the next blank, line break or closing quote. -/
def quotedWord (double : Bool) : Nat → Cursor → Except LoadError (Rows × Cursor)
  | 0, _ => flawed .unfinishedQuote
  | fuel + 1, c =>
    let (text, after) := c.span fun ch => !(ch = '\'' || ch = '"' || ch = '\\' || isBlankOrEnd ch)
    let go (piece : Rows) (place : Cursor) : Except LoadError (Rows × Cursor) := do
      let (more, rest) ← quotedWord double fuel place
      return (Point.ofChars text :: piece ++ more, rest)
    let ch := after.peek
    if !double && ch = '\'' && after.peekAt 1 = '\'' then go [[.char '\'']] (after.skip 2)
    else if (double && ch = '\'') || (!double && (ch = '"' || ch = '\\')) then go [[.char ch]] after.next
    else if double && ch = '\\' then do
      let (piece, place) ← quotedEscape after.next
      go piece place
    else .ok ([Point.ofChars text], after)

/-- Line breaks as they are folded, the first of them given apart. -/
def foldBreaks (first : List Char) (more : Pieces) : Pieces :=
  (if first ≠ ['\n'] then [first] else if more.isEmpty then [[' ']] else []) ++ more

/-- The blanks and line breaks between words in quotes. -/
def quotedSpace (c : Cursor) : Except LoadError (Pieces × Cursor) :=
  let (blanks, after) := c.span fun ch => ch = ' ' || ch = '\t'
  if after.peek = '\x00' then flawed .unfinishedQuote
  else
    let (first, place) := after.lineBreak
    if first.isEmpty then .ok ([blanks], after)
    else do
      let (more, rest) ← quotedBreaks (place.rest.length + 1) place
      return (foldBreaks first more, rest)

/-- The text in quotes up to the closing quote, from behind a word on. -/
def quotedRest (double : Bool) : Nat → Cursor → Except LoadError (Rows × Cursor)
  | 0, _ => flawed .unfinishedQuote
  | fuel + 1, c =>
    if c.peek = (if double then '"' else '\'') then .ok ([], c.next)
    else do
      let (space, place) ← quotedSpace c
      let (word, after) ← quotedWord double (place.rest.length + 1) place
      let (more, rest) ← quotedRest double fuel after
      return (space.rows ++ word ++ more, rest)

/-- A text in quotes, whose opening quote stands here. -/
def scanQuoted (double : Bool) (c : Cursor) : Except LoadError (List Point × Cursor) := do
  let (word, after) ← quotedWord double (c.rest.length + 1) c.next
  let (more, rest) ← quotedRest double (c.rest.length + 1) after
  return ((word ++ more).flatten, rest)

/-! ## In a block -/

/-- What becomes of the line breaks at the end of a block. -/
inductive Chomping where
  | clip
  | strip
  | keep
  deriving Repr, DecidableEq

/-- The mark of a chomping. -/
def chomping? (c : Char) : Option Chomping :=
  if c = '+' then some .keep else if c = '-' then some .strip else none

/-- The marks behind `|` or `>`: a chomping and an indentation, in either order. -/
def blockMarks (c : Cursor) : Except LoadError (Chomping × Option Nat × Cursor) :=
  let indentation (c : Cursor) : Except LoadError (Option Nat × Cursor) :=
    if c.peek = '0' then flawed .badBlockHeader
    else if c.peek.isDigit then .ok (some (c.peek.toNat - 48), c.next)
    else .ok (none, c)
  match chomping? c.peek with
  | some chomping => do
    let (n, after) ← indentation c.next
    if isSpaceOrEnd after.peek then return (chomping, n, after) else flawed .badBlockHeader
  | none => do
    let (n, middle) ← indentation c
    let (chomping, after) := match n, chomping? middle.peek with
      | some _, some chomping => (chomping, middle.next)
      | _, _ => (Chomping.clip, middle)
    if isSpaceOrEnd after.peek then return (chomping, n, after) else flawed .badBlockHeader

/-- The place behind spaces, but not beyond a column. -/
def skipIndent (indent : Nat) (c : Cursor) : Cursor :=
  c.skip (min (indent - c.column) (c.rest.takeWhile (· = ' ')).length)

/-- Empty lines in a block that is indented to a column. -/
def blockBreaks (indent : Nat) : Nat → Cursor → Pieces × Cursor
  | 0, c => ([], c)
  | fuel + 1, c =>
    let (text, after) := (skipIndent indent c).lineBreak
    if text.isEmpty then ([], after)
    else
      let (more, rest) := blockBreaks indent fuel after
      (text :: more, rest)

/-- Empty lines at the start of a block, and the greatest column that their spaces come to. -/
def blockOpening : Nat → Cursor → Pieces × Nat × Cursor
  | 0, c => ([], 0, c)
  | fuel + 1, c =>
    let spaces := c.skipSpaces
    let width := if c.peek = ' ' then spaces.column else 0
    let (text, after) := spaces.lineBreak
    if text.isEmpty then ([], width, after)
    else
      let (more, widest, rest) := blockOpening fuel after
      (text :: more, max width widest, rest)

/-- The lines of a block: their text, the last line break, and the empty lines behind it. -/
def blockLines (folded : Bool) (indent : Nat) (breaks : Pieces) :
    Nat → Cursor → Pieces × List Char × Pieces × Cursor
  | 0, c => ([], [], breaks, c)
  | fuel + 1, c =>
    if c.column = indent ∧ c.peek ≠ '\x00' then
      let indented := c.peek = ' ' || c.peek = '\t'
      let (text, ending) := c.span fun ch => !endsLine ch
      let (first, after) := ending.lineBreak
      let (empty, place) := blockBreaks indent (after.rest.length + 1) after
      if place.column = indent ∧ place.peek ≠ '\x00' then
        let further := place.peek = ' ' || place.peek = '\t'
        let between : Pieces :=
          if folded && first = ['\n'] && !indented && !further then
            if empty.isEmpty then [[' ']] else []
          else [first]
        let (more, last, tail, rest) := blockLines folded indent empty fuel place
        (breaks ++ text :: between ++ more, last, tail, rest)
      else (breaks ++ [text], first, empty, place)
    else ([], [], breaks, c)

/-- A block, whose mark stands here, below an indentation. -/
def scanBlock (folded : Bool) (indent : Int) (c : Cursor) : Except LoadError (String × Cursor) := do
  let (chomping, increment, marks) ← blockMarks c.next
  let start ← skipComment .badBlockHeader marks
  let least := (max (indent + 1) 1).toNat
  let (breaks, column, place) := match increment with
    | none =>
      let (breaks, widest, place) := blockOpening (start.rest.length + 1) start
      (breaks, max least widest, place)
    | some n =>
      let column := least + n - 1
      let (breaks, place) := blockBreaks column (start.rest.length + 1) start
      (breaks, column, place)
  let (body, last, tail, rest) := blockLines folded column breaks (place.rest.length + 1) place
  let ending : Pieces := match chomping with
    | .clip => [last]
    | .strip => []
    | .keep => last :: tail
  return (String.ofList (body ++ ending).flatten, rest)

/-! ## Plain -/

/-- Whether a character stands for structure inside brackets and braces. -/
def isFlowMark (c : Char) : Bool := c = ',' || c = '[' || c = ']' || c = '\x7b' || c = '\x7d'

/-- The length of a run of plain characters. A colon ends it only in front of a blank. -/
def plainLength (flow : Bool) : List Char → Nat
  | [] => 0
  | c :: rest =>
    let next := rest.headD '\x00'
    if isBlankOrEnd c || (c = ':' && (isBlankOrEnd next || (flow && isFlowMark next)))
        || (flow && (c = '?' || isFlowMark c)) then 0
    else plainLength flow rest + 1

/-- Empty lines and spaces behind a line break in plain text; nothing if a document mark is met. -/
def plainBreaks : Nat → Cursor → Option Pieces × Cursor
  | 0, c => (some [], c)
  | fuel + 1, c =>
    if c.atDocumentMark then (none, c)
    else
      let (text, after) := c.skipSpaces.lineBreak
      if text.isEmpty then (some [], after)
      else
        let (more, rest) := plainBreaks fuel after
        (more.map (text :: ·), rest)

/-- What stands between two runs of plain text, the place behind it, and whether a line ended. Nothing
stands between them if there is no space or if a document mark is met. -/
def plainSpace (c : Cursor) : Pieces × Cursor × Bool :=
  let (spaces, after) := c.span (· = ' ')
  let (first, place) := after.lineBreak
  if first.isEmpty then (if spaces.isEmpty then [] else [spaces], after, false)
  else
    let (more, rest) := plainBreaks (place.rest.length + 1) place
    match more with
    | none => ([], rest, true)
    | some more => (foldBreaks first more, rest, true)

/-- Plain text from a place on, behind what stands in front of it; the flag says whether the last thing
read was the end of a line. -/
def plainRest (flow : Bool) (indent : Int) (before : Pieces) :
    Nat → Cursor → Bool → Pieces × Cursor × Bool
  | 0, c, ended => ([], c, ended)
  | fuel + 1, c, ended =>
    let n := plainLength flow c.rest
    if c.peek = '#' || n = 0 then ([], c, ended)
    else
      let text := c.rest.take n
      let (space, place, brokeLine) := plainSpace (c.skip n)
      if space.isEmpty || place.peek = '#' || (!flow && (place.column : Int) < indent) then
        (before ++ [text], place, brokeLine)
      else
        let (more, rest, ended) := plainRest flow indent space fuel place brokeLine
        (before ++ text :: more, rest, ended)

/-- A plain text below an indentation. The flag says whether the last thing read was the end of a
line. -/
def scanPlain (flow : Bool) (indent : Int) (c : Cursor) : String × Cursor × Bool :=
  let (pieces, rest, ended) := plainRest flow (indent + 1) [] (c.rest.length + 1) c false
  (String.ofList pieces.flatten, rest, ended)

end BuildScript.Yaml
