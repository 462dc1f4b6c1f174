import BuildScript.Template.Slot

/-!
Filling a template: every field is replaced by the value of its name, converted and laid out. The
template is unfillable if a name has no value, if something that a value has not is asked for, or if
a layout does not suit its value.
-/

namespace BuildScript.Template

/-- The value of a name. -/
def valueOf? (values : String → Option Slot) (name : List Char) : Option Slot := do
  let ends := fun (c : Char) => c = '.' || c = '['
  let first := name.takeWhile fun c => !ends c
  let rest := name.dropWhile fun c => !ends c
  if first.all Text.isDigit then none
  else (← values (String.ofList first)).part? rest.length rest

/-- Fills a piece. Fields in a layout are filled by `inner`. -/
def fillPiece (values : String → Option Slot) (inner : List Char → Option (List Char)) :
    Piece → Option (List Char)
  | .text cs => some cs
  | .field f => do
    let v ← (← valueOf? values f.name).convert? f.conversion
    let layout ← if f.layout.contains openBrace then inner f.layout else some f.layout
    v.laidOut? layout

/-- Fills the fields of a text; `depth` says how deep fields may lie in layouts. -/
def fillChars (values : String → Option Slot) : Nat → List Char → Option (List Char)
  | 0, _ => none
  | depth + 1, cs =>
    let parts := cut cs
    match parts.flaw with
    | some _ => none
    | none =>
      (parts.pieces.mapM (fillPiece values (fillChars values depth))).map List.flatten

/-- Fills a template. Fields may have fields in their layouts, but those none in theirs. -/
def fill (values : String → Option Slot) (template : String) : Option String :=
  (fillChars values 2 template.toList).map String.ofList

end BuildScript.Template
