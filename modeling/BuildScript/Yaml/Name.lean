import BuildScript.Number.Numeral
import BuildScript.Yaml.Cursor
import BuildScript.Yaml.Token

/-!
Names in a YAML text: anchors, aliases, tags and directives. Names are made of ASCII letters, digits,
hyphens and underscores; a tag may also hold the characters of a URI, with `%` escapes for UTF-8.
-/

namespace BuildScript.Yaml

/-- Whether a character may stand in a name. -/
def isNameChar (c : Char) : Bool := c.isAlphanum || c = '-' || c = '_'

/-- Whether a character may stand in a tag. -/
def isTagChar (c : Char) : Bool := c.isAlphanum || "-;/?:@&=+$,_.!~*'()[]%".toList.contains c

/-- The value of a hexadecimal digit. -/
def hexValue? (c : Char) : Option Nat :=
  if c.isDigit then some (c.toNat - 48)
  else if 'a' ≤ c ∧ c ≤ 'f' then some (c.toNat - 87)
  else if 'A' ≤ c ∧ c ≤ 'F' then some (c.toNat - 55)
  else none

/-- The number that hexadecimal digits stand for. -/
def hexNumber? (cs : List Char) : Option Nat :=
  cs.foldlM (fun n c => (hexValue? c).map fun d => 16 * n + d) 0

/-- The name of an anchor or alias, whose mark stands here. -/
def scanName (c : Cursor) : Except LoadError (String × Cursor) :=
  let (name, after) := c.next.span isNameChar
  if name.isEmpty || !(isBlankOrEnd after.peek || "?:,]\x7d%@\x60".toList.contains after.peek) then
    flawed .badName
  else .ok (String.ofList name, after)

/-- The handle of a tag: an exclamation mark, or a name between two. -/
def scanHandle (c : Cursor) : Except LoadError (String × Cursor) :=
  if c.peek ≠ '!' then flawed .badTag
  else if c.peekAt 1 = ' ' then .ok ("!", c.next)
  else
    let (name, after) := c.next.span isNameChar
    if after.peek = '!' then .ok (String.ofList ('!' :: name ++ ['!']), after.next)
    else flawed .badTag

/-- Bytes that are written as `%` escapes, and what follows them. -/
def escapedBytes : List Char → Option (List UInt8 × List Char)
  | '%' :: a :: b :: rest => do
    let n ← hexNumber? [a, b]
    let (bytes, after) ← escapedBytes rest
    return (UInt8.ofNat n :: bytes, after)
  | '%' :: _ => none
  | rest => some ([], rest)

/-- The text of a tag, its escapes read. -/
def unescapeTag : Nat → List Char → Option (List Char)
  | 0, _ => none
  | _ + 1, [] => some []
  | fuel + 1, '%' :: rest => do
    let (bytes, after) ← escapedBytes ('%' :: rest)
    let text ← String.fromUTF8? (ByteArray.mk bytes.toArray)
    return text.toList ++ (← unescapeTag fuel after)
  | fuel + 1, c :: rest => (unescapeTag fuel rest).map (c :: ·)

/-- The rest of a tag, which must not be empty. -/
def scanUri (c : Cursor) : Except LoadError (String × Cursor) :=
  let (raw, after) := c.span isTagChar
  match unescapeTag (raw.length + 1) raw with
  | some text => if raw.isEmpty then flawed .badTag else .ok (String.ofList text, after)
  | none => flawed .badTag

/-- A tag: in angle brackets, a lone exclamation mark, or with a handle. -/
def scanTag (c : Cursor) : Except LoadError (Token × Cursor) := do
  let (tag, after) ←
    if c.peekAt 1 = '<' then do
      let (suffix, after) ← scanUri (c.skip 2)
      if after.peek ≠ '>' then flawed .badTag
      else pure (Token.tag none suffix, after.next)
    else if isBlankOrEnd (c.peekAt 1) then pure (Token.tag none "!", c.next)
    else if (c.next.rest.takeWhile fun ch => !isSpaceOrEnd ch).contains '!' then do
      let (handle, middle) ← scanHandle c
      let (suffix, after) ← scanUri middle
      pure (Token.tag (some handle) suffix, after)
    else do
      let (suffix, after) ← scanUri c.next
      pure (Token.tag (some "!") suffix, after)
  if isSpaceOrEnd after.peek then return (tag, after) else flawed .badTag

/-- A number in a directive. -/
def scanNumber (c : Cursor) : Except LoadError (Int × Cursor) :=
  let (digits, after) := c.span Char.isDigit
  if digits.isEmpty then flawed .badDirective
  else match Number.readInt 10 digits with
    | .ok n => .ok (n, after)
    | .error e => .error (.scalar "ValueError" (e.message 10 (Text.quoteChars digits)))

/-- The place behind spaces. -/
def Cursor.skipSpaces (c : Cursor) : Cursor := c.skipWhile (· = ' ')

/-- What a directive says after its name. -/
def scanDirectiveValue (name : String) (c : Cursor) : Except LoadError (Token × Cursor) := do
  if name = "YAML" then
    let (major, point) ← scanNumber c.skipSpaces
    if point.peek ≠ '.' then flawed .badDirective
    else
      let (minor, after) ← scanNumber point.next
      if isSpaceOrEnd after.peek then return (.version major minor, after) else flawed .badDirective
  else if name = "TAG" then
    let (handle, middle) ← scanHandle c.skipSpaces
    if middle.peek ≠ ' ' then flawed .badDirective
    else
      let (stem, after) ← scanUri middle.skipSpaces
      if isSpaceOrEnd after.peek then return (.handle handle stem, after) else flawed .badDirective
  else return (.directive, c.skipLine)

/-- The rest of a line on which only a comment may stand. -/
def skipComment (f : Flaw) (c : Cursor) : Except LoadError Cursor :=
  let spaces := c.skipSpaces
  let after := if spaces.peek = '#' then spaces.skipLine else spaces
  if endsLine after.peek then .ok after.lineBreak.2 else flawed f

/-- A directive, whose mark stands here. -/
def scanDirective (c : Cursor) : Except LoadError (Token × Cursor) := do
  let (name, after) := c.next.span isNameChar
  if name.isEmpty || !isSpaceOrEnd after.peek then flawed .badDirective
  else
    let (token, rest) ← scanDirectiveValue (String.ofList name) after
    return (token, ← skipComment .badDirective rest)

end BuildScript.Yaml
