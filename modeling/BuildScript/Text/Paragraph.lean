import BuildScript.Text.Chunk

/-!
Paragraphs: a text laid out in lines of at most a given width. Chunks go onto a line as long as they
fit; a chunk too long for any line is cut, after a hyphen where it has one. Spaces at the start of a
line (the first apart) and at its end are dropped.
-/

namespace BuildScript.Text

/-- The width of the lines and what each of them starts with. -/
structure Margins where
  width : Int
  firstIndent : List Char := []
  restIndent : List Char := []

/-- Why a paragraph has no layout. -/
inductive WrapError where
  /-- The width is zero or negative. -/
  | invalidWidth (width : Int)
  /-- No indented line has room for a character, and a space comes first: no line is ever finished. -/
  | unending
  deriving Repr, DecidableEq

/-- Tabs become spaces up to the next column that is a multiple of eight. -/
def expandTabs (column : Nat) : List Char → List Char
  | [] => []
  | c :: rest =>
    if c = '\t' then
      List.replicate (8 - column % 8) ' ' ++ expandTabs 0 rest
    else c :: expandTabs (if c = '\n' || c = '\x0d' then 0 else column + 1) rest

/-- The text with every tab and every other ASCII space written as plain spaces. -/
def plainSpaces (cs : List Char) : List Char :=
  (expandTabs 0 cs).map fun c => if isSpace c then ' ' else c

/-- Takes the chunks that fit into the room that `used` characters leave. -/
def fit (room : Int) (used : Nat) : List (List Char) → List (List Char) × List (List Char)
  | [] => ([], [])
  | c :: rest =>
    if (used + c.length : Int) ≤ room then
      let more := fit room (used + c.length) rest
      (c :: more.1, more.2)
    else ([], c :: rest)

/-- The position behind the last hyphen among the first `left` characters, if some character in
front of that hyphen is no hyphen; else `left`. -/
def cutPosition (left : Nat) (chunk : List Char) : Nat :=
  if chunk.length > left then
    let upToHyphen := (chunk.take left).reverse.dropWhile (· ≠ '-')
    if upToHyphen.tail.any (· ≠ '-') then upToHyphen.length else left
  else left

/-- How much of a chunk that fits no line goes onto a line with `used` characters: the room left, at
least one character where a line has no room at all. -/
def roomLeft (room : Int) (used : Nat) : Nat := if room < 1 then 1 else (room - used).toNat

/-- The chunks without the first one if that is blank. -/
def dropBlankChunk : List (List Char) → List (List Char)
  | [] => []
  | c :: rest => if allBlank c then rest else c :: rest

/-- A line's chunks, with a blank one at its end dropped, and the chunks that remain. -/
def cutLine (room : Int) (chunks : List (List Char)) : List (List Char) × List (List Char) :=
  let fitting := fit room 0 chunks
  let line :=
    match fitting.2 with
    | [] => fitting
    | c :: rest =>
      if (c.length : Int) > room then
        let at_ := cutPosition (roomLeft room fitting.1.flatten.length) c
        (fitting.1 ++ [c.take at_], c.drop at_ :: rest)
      else fitting
  ((dropBlankChunk line.1.reverse).reverse, line.2)

/-- What is left to lay out: a unit for each chunk and one for each of its characters. -/
def remaining : List (List Char) → Nat
  | [] => 0
  | c :: rest => c.length + 1 + remaining rest

theorem remaining_dropBlankChunk_le (chunks : List (List Char)) :
    remaining (dropBlankChunk chunks) ≤ remaining chunks := by
  cases chunks with
  | nil => exact Nat.le_refl _
  | cons c rest =>
    simp only [dropBlankChunk]
    split
    · simp only [remaining]; omega
    · exact Nat.le_refl _

/-- Lays out chunks in lines; `started` says whether there is a line already. -/
def layLines (m : Margins) (started : Bool) (chunks : List (List Char)) :
    Except WrapError (List (List Char)) :=
  if chunks.isEmpty then .ok []
  else
    let indent := if started then m.restIndent else m.firstIndent
    let cut := cutLine (m.width - indent.length) (if started then dropBlankChunk chunks else chunks)
    if _h : remaining cut.2 < remaining chunks then
      if cut.1.isEmpty then layLines m started cut.2
      else (layLines m true cut.2).map ((indent ++ cut.1.flatten) :: ·)
    else .error .unending
termination_by remaining chunks

/-- The lines of a paragraph. -/
def wrapChars (m : Margins) (cs : List Char) : Except WrapError (List (List Char)) :=
  if m.width ≤ 0 then .error (.invalidWidth m.width)
  else layLines m false (chunks (plainSpaces cs))

/-- The lines of a paragraph. -/
def wrap (m : Margins) (s : String) : Except WrapError (List String) :=
  (wrapChars m s.toList).map (·.map String.ofList)

end BuildScript.Text
