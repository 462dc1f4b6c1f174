/-!
A place in a text that is read line by line: what is left of the text, and where it starts. Past the
end stands a NUL, which no text that is read contains.
-/

namespace BuildScript.Yaml

/-- Whether a character ends a line. -/
def isBreak (c : Char) : Bool :=
  c = '\n' || c = '\r' || c = '\x85' || c = '\u2028' || c = '\u2029'

/-- Whether a character ends a line or the text. -/
def endsLine (c : Char) : Bool := c = '\x00' || isBreak c

/-- Whether a character is a space or ends a line or the text. -/
def isSpaceOrEnd (c : Char) : Bool := c = ' ' || endsLine c

/-- Whether a character is a space or tab or ends a line or the text. -/
def isBlankOrEnd (c : Char) : Bool := c = '\t' || isSpaceOrEnd c

/-- A place in a text. -/
structure Cursor where
  rest : List Char
  index : Nat := 0
  line : Nat := 0
  column : Nat := 0

namespace Cursor

/-- The start of a text. -/
def start (text : List Char) : Cursor := { rest := text }

/-- The character some places ahead. -/
def peekAt (c : Cursor) (n : Nat) : Char := c.rest.getD n '\x00'

/-- The next character. -/
def peek (c : Cursor) : Char := c.rest.headD '\x00'

/-- The place behind the next character. A carriage return with a line feed behind it ends no line
yet, and a byte order mark takes no column. -/
def next (c : Cursor) : Cursor :=
  match c.rest with
  | [] => c
  | ch :: rest =>
    let index := c.index + 1
    if isBreak ch && !(ch = '\r' && rest.head? = some '\n') then
      { rest, index, line := c.line + 1, column := 0 }
    else if ch = '\ufeff' then { c with rest, index }
    else { c with rest, index, column := c.column + 1 }

/-- The place some characters further. -/
def skip (c : Cursor) : Nat → Cursor
  | 0 => c
  | n + 1 => c.next.skip n

/-- The characters up to the first that fails a test, and the place behind them. -/
def span (c : Cursor) (p : Char → Bool) : List Char × Cursor :=
  let taken := c.rest.takeWhile p
  (taken, c.skip taken.length)

/-- The place behind the characters up to the first that fails a test. -/
def skipWhile (c : Cursor) (p : Char → Bool) : Cursor := (c.span p).2

/-- The rest of the line, without its end. -/
def skipLine (c : Cursor) : Cursor := c.skipWhile fun ch => !endsLine ch

/-- The end of a line, if one is here, as the text that it stands for, and the place behind it. -/
def lineBreak (c : Cursor) : List Char × Cursor :=
  match c.rest with
  | '\r' :: '\n' :: _ => (['\n'], c.skip 2)
  | ch :: _ =>
    if ch = '\r' || ch = '\n' || ch = '\x85' then (['\n'], c.next)
    else if isBreak ch then ([ch], c.next)
    else ([], c)
  | [] => ([], c)

/-- Whether three hyphens or dots stand here, on their own. -/
def atDocumentMark (c : Cursor) : Bool :=
  (c.rest.take 3 = ['-', '-', '-'] || c.rest.take 3 = ['.', '.', '.']) && isBlankOrEnd (c.peekAt 3)

end Cursor

end BuildScript.Yaml
