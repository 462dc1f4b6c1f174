import BuildScript.Insertion
import BuildScript.Text.Blank
import BuildScript.Text.Lines
import BuildScript.Value.Equal

/-!
Values laid out over several lines. A value that fits in its line is written as it is shown, with the
entries of dictionaries in order of their keys. Else a collection has one line for each item, and a
long text or a row of bytes is cut into quoted pieces that fit.
-/

namespace BuildScript.Value

open Text (isBlank lines quoteChars quoted quotedBytes)

/-- The full name of a type, by which keys without an order of their own are sorted. -/
def typePath (v : Value) : String :=
  match v.type with
  | .assembly | .target | .property | .taskBuilder | .platform =>
    "<class 'buildfuncs.context." ++ v.type.name ++ "'>"
  | .host t => "<class '" ++ t.home ++ "." ++ t.name ++ "'>"
  | t => "<class '" ++ t.name ++ "'>"

/-- Whether a key stands in front of another: by their order if they have one, else by the names of
their types. -/
def keyLess (a b : Value) : Bool :=
  match less? a b with
  | some r => r
  | Option.none => decide (typePath a < typePath b)

/-- The entries in order of their keys. -/
def sortEntries (es : List (Value × Value)) : List (Value × Value) :=
  Insertion.sort (fun a b => keyLess a.1 b.1) es

mutual

/-- The value with the entries of every dictionary in order of their keys. -/
def sorted : Value → Value
  | list xs => list (sortedAll xs)
  | tuple xs => tuple (sortedAll xs)
  | dict es => dict (sortEntries (sortedEntries es))
  | v => v

/-- The values with the entries of their dictionaries in order. -/
def sortedAll : List Value → List Value
  | [] => []
  | x :: rest => x.sorted :: sortedAll rest

/-- The entries with the dictionaries among their values in order. -/
def sortedEntries : List (Value × Value) → List (Value × Value)
  | [] => []
  | (k, v) :: rest => (k.sorted, v.sorted) :: sortedEntries rest

end

/-- A place on the page: how far the value is indented, and how many characters have to fit behind it
on its last line. -/
structure Spot where
  indent : Int
  allowance : Int

/-- Whether a text fits at a place. -/
def Spot.fits (s : Spot) (width : Int) (text : String) : Bool :=
  (text.length : Int) ≤ width - s.indent - s.allowance

/-- A line break and an indent. -/
def newLine (indent : Int) : String := String.ofList ('\n' :: List.replicate indent.toNat ' ')

/-- The pieces of a line at which a quoted text may be cut: words with the blanks behind them. -/
def wordPieces : List Char → List (List Char)
  | [] => []
  | c :: rest =>
    match wordPieces rest with
    | [] => [[c]]
    | p :: ps =>
      if isBlank c && !(p.head?.any isBlank) then [c] :: p :: ps else (c :: p) :: ps

/-- Puts as many pieces together as fit into `room` when quoted; the last one has `lastRoom`. -/
def packPieces (room lastRoom : Int) (current : List Char) : List (List Char) → List String
  | [] => if current.isEmpty then [] else [String.ofList (quoteChars current)]
  | p :: ps =>
    let limit := if ps.isEmpty then lastRoom else room
    if ((quoteChars (current ++ p)).length : Int) > limit then
      let later := packPieces room lastRoom p ps
      if current.isEmpty then later else String.ofList (quoteChars current) :: later
    else packPieces room lastRoom (current ++ p) ps

/-- The quoted pieces of the lines of a text. -/
def textPieces (room allowance : Int) : List (List Char) → List String
  | [] => []
  | l :: ls =>
    let lastRoom := if ls.isEmpty then room - allowance else room
    let whole := quoteChars l
    (if (whole.length : Int) ≤ lastRoom then [String.ofList whole]
      else packPieces room lastRoom [] (wordPieces l)) ++ textPieces room allowance ls

/-- Pieces one below the other, in parentheses where they stand on their own. -/
def stack (alone : Bool) (indent : Int) (pieces : List String) : String :=
  let body := (newLine indent).intercalate pieces
  if alone then "(" ++ body ++ ")" else body

/-- A text that does not fit, cut into pieces; `alone` if it is not part of a collection. -/
def layText (width : Int) (alone : Bool) (s : Spot) (text : String) : String :=
  if text = "" then quoted text
  else
    let s : Spot := if alone then ⟨s.indent + 1, s.allowance + 1⟩ else s
    match textPieces (width - s.indent) s.allowance ((lines text.toList).map (·.chars)) with
    | [piece] => piece
    | pieces => stack alone s.indent pieces

/-- Rows of bytes by fours that fit when quoted; where the number of bytes is no multiple of four, the
last of them have to leave the allowance free. -/
def packBytes (room allowance : Int) (current rest : List UInt8) : List String :=
  if _h : rest.isEmpty then if current.isEmpty then [] else [quotedBytes current]
  else
    let part := rest.take 4
    let room := if rest.length < 4 then room - allowance else room
    if ((quotedBytes (current ++ part)).length : Int) > room then
      let later := packBytes room allowance part (rest.drop 4)
      if current.isEmpty then later else quotedBytes current :: later
    else packBytes room allowance (current ++ part) (rest.drop 4)
termination_by rest.length
decreasing_by
  all_goals
    have : 0 < rest.length := by
      cases rest with
      | nil => exact absurd rfl _h
      | cons => exact Nat.succ_pos _
    simp only [List.length_drop]
    omega

/-- Bytes that do not fit, in rows; `alone` if they are not part of a collection. -/
def layBytes (width : Int) (alone : Bool) (s : Spot) (bs : List UInt8) : String :=
  if bs.length ≤ 4 then quotedBytes bs
  else
    let s : Spot := if alone then ⟨s.indent + 1, s.allowance + 1⟩ else s
    stack alone s.indent (packBytes (width - s.indent) s.allowance [] bs)

/-- A text laid out at a place; `alone` if it is not part of a collection. -/
def layQuoted (width : Int) (alone : Bool) (s : Spot) (text : String) : String :=
  if s.fits width (quoted text) then quoted text else layText width alone s text

/-- The text that an instance of the host is, if it is shown like any other text. -/
def quotedText? (h : Instance) : Option String :=
  match h.nature with
  | .text s => if h.shown = quoted s then some s else Option.none
  | _ => Option.none

mutual

/-- A value laid out at a place; `alone` if it is not part of a collection. -/
def lay (width : Int) (alone : Bool) (s : Spot) : Value → String
  | list xs =>
    if s.fits width (list xs).shown then (list xs).shown
    else "[" ++ layAll width ⟨s.indent + 1, s.allowance + 1⟩ xs ++ "]"
  | tuple xs =>
    if s.fits width (tuple xs).shown then (tuple xs).shown
    else
      let close := if xs.length = 1 then ",)" else ")"
      "(" ++ layAll width ⟨s.indent + 1, s.allowance + close.length⟩ xs ++ close
  | dict es =>
    if s.fits width (dict es).shown then (dict es).shown
    else "\x7b" ++ layEntries width ⟨s.indent + 1, s.allowance + 1⟩ es ++ "\x7d"
  | text t => layQuoted width alone s t
  | bytes bs => if s.fits width (quotedBytes bs) then quotedBytes bs else layBytes width alone s bs
  | host _ h =>
    match quotedText? h with
    | some t => layQuoted width alone s t
    | Option.none => h.shown
  | v => v.shown

/-- Items one below the other. -/
def layAll (width : Int) (s : Spot) : List Value → String
  | [] => ""
  | x :: rest =>
    if rest.isEmpty then x.lay width false s
    else x.lay width false ⟨s.indent, 1⟩ ++ "," ++ newLine s.indent ++ layAll width s rest

/-- Entries one below the other. -/
def layEntries (width : Int) (s : Spot) : List (Value × Value) → String
  | [] => ""
  | (k, v) :: rest =>
    let key := k.shown ++ ": "
    let place : Spot := ⟨s.indent + key.length, if rest.isEmpty then s.allowance else 1⟩
    key ++ v.lay width false place
      ++ (if rest.isEmpty then "" else "," ++ newLine s.indent ++ layEntries width s rest)

end

/-- The lines of a value, aimed at a width. -/
def layout (width : Int) (v : Value) : List String :=
  Text.splitLineFeeds (v.sorted.lay width true ⟨0, 0⟩)

end BuildScript.Value
