import BuildScript.Text.Quoted

/-!
Templates: texts with fields in braces. A field has a name, and may have a conversion behind an
exclamation mark and a layout behind a colon; a layout may hold fields of its own. A brace that is
written twice is a brace of the text. A template is cut into pieces up to the first place where that
is not possible.
-/

namespace BuildScript.Template

/-- A field as it is written. -/
structure Field where
  name : List Char
  conversion : Option Char := none
  layout : List Char := []
  deriving Repr, DecidableEq

/-- A piece of a template. -/
inductive Piece where
  | text (cs : List Char)
  | field (f : Field)
  deriving Repr, DecidableEq

/-- What can be wrong with a template. -/
inductive Flaw where
  | singleOpen
  | singleClose
  | braceInName
  | unfinishedField
  | missingConversion
  | unfinishedConversion
  | unfinishedLayout
  | badName (name : List Char)
  | badConversion (c : Char)
  | badLayout (layout : List Char)
  | noFields
  deriving Repr, DecidableEq

/-- The message of a flaw. -/
def Flaw.message : Flaw → String
  | singleOpen => "Single '\x7b' encountered in format string"
  | singleClose => "Single '\x7d' encountered in format string"
  | braceInName => "unexpected '\x7b' in field name"
  | unfinishedField => "expected '\x7d' before end of string"
  | missingConversion => "end of string while looking for conversion specifier"
  | unfinishedConversion => "expected ':' after conversion specifier"
  | unfinishedLayout => "unmatched '\x7b' in format spec"
  | badName name => "invalid field name/expression: " ++ String.ofList (Text.quoteChars name)
  | badConversion c => "invalid conversion: " ++ String.ofList (Text.quoteChars [c])
  | badLayout layout => "bad specifier: " ++ String.ofList (Text.quoteChars layout)
  | noFields => "no fields"

/-- The brace that begins a field. -/
def openBrace : Char := '\x7b'

/-- The brace that ends a field. -/
def closeBrace : Char := '\x7d'

/-- Whether the character ends the name of a field. -/
def endsName (c : Char) : Bool := c = closeBrace || c = ':' || c = '!'

/-- Cuts off the name of a field: the name, the character that ends it and what is behind. Inside square
brackets all characters belong to the name. -/
def cutName (inside : Bool) : List Char → Except Flaw (List Char × Char × List Char)
  | [] => .error .unfinishedField
  | c :: rest =>
    if inside then (cutName (c ≠ ']') rest).map fun r => (c :: r.1, r.2)
    else if c = openBrace then .error .braceInName
    else if endsName c then .ok ([], c, rest)
    else (cutName (c = '[') rest).map fun r => (c :: r.1, r.2)

/-- Cuts off a layout, in which `depth` braces are open, and the brace behind it. -/
def cutLayout (depth : Nat) : List Char → Except Flaw (List Char × List Char)
  | [] => .error .unfinishedLayout
  | c :: rest =>
    if c = openBrace then (cutLayout (depth + 1) rest).map fun r => (c :: r.1, r.2)
    else if c = closeBrace then
      match depth with
      | 0 => .ok ([], rest)
      | depth + 1 => (cutLayout depth rest).map fun r => (c :: r.1, r.2)
    else (cutLayout depth rest).map fun r => (c :: r.1, r.2)

/-- Cuts off a field whose opening brace has been taken. -/
def cutField (cs : List Char) : Except Flaw (Field × List Char) := do
  let (name, last, rest) ← cutName false cs
  if last = ':' then
    let (layout, rest) ← cutLayout 0 rest
    return ({ name, layout }, rest)
  else if last = '!' then
    match rest with
    | [] => .error .missingConversion
    | [_] => .error .unfinishedLayout
    | c :: d :: rest =>
      let conversion := if c = '\x00' then none else some c
      if d = closeBrace then return ({ name, conversion }, rest)
      else if d = ':' then
        let (layout, rest) ← cutLayout 0 rest
        return ({ name, conversion, layout }, rest)
      else .error .unfinishedConversion
  else return ({ name }, rest)

/-- A template cut into pieces, and what stopped the cutting. -/
structure Cut where
  pieces : List Piece := []
  flaw : Option Flaw := none
  deriving Repr, DecidableEq

/-- The cut with one more piece in front. -/
def Cut.cons (p : Piece) (c : Cut) : Cut := { c with pieces := p :: c.pieces }

/-- Whether the character is no brace. -/
def isPlain (c : Char) : Bool := c ≠ openBrace && c ≠ closeBrace

/-- Cuts a template into pieces. -/
def cut (cs : List Char) : Cut :=
  match _h : cs.dropWhile isPlain with
  | [] => if cs.isEmpty then {} else { pieces := [.text cs] }
  | c :: rest =>
    let front := cs.takeWhile isPlain
    if rest.head? = some c then
      (cut rest.tail).cons (.text (front ++ [c]))
    else if c = closeBrace then { flaw := some .singleClose }
    else if rest.isEmpty then { flaw := some .singleOpen }
    else match cutField rest with
      | .error e => { flaw := some e }
      | .ok (f, behind) =>
        if _h : behind.length < cs.length then ((cut behind).cons (.field f)).cons (.text front)
        else {}
termination_by cs.length
decreasing_by
  · have := (List.dropWhile_sublist (l := cs) isPlain).length_le
    simp_all only [List.length_cons, List.length_tail]
    omega
  · assumption

end BuildScript.Template
