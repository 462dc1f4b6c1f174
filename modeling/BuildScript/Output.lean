import BuildScript.Fault.Layout

/-!
Printing for the terminal: arguments are joined, cut into paragraphs at line breaks, and each paragraph
is wrapped and may start with a bullet. A colour is switched on before the text and off behind it; what
was printed before an error stays printed.
-/

namespace BuildScript

open Text (Margins WrapError)

/-- The colours that the library prints with. -/
inductive Color where
  | bold
  | red
  | green
  | yellow
  | magenta
  | cyan
  deriving Repr, DecidableEq

/-- The number of a colour. -/
def Color.code : Color → Int
  | bold => 1
  | red => 31
  | green => 32
  | yellow => 33
  | magenta => 35
  | cyan => 36

/-- The text that switches a colour on. -/
def colorOn (code : Int) : String := "\x1b[" ++ Number.intText code ++ "m"

/-- The text that switches all colours off. -/
def colorOff : String := "\x1b[0m"

/-- How to print. Without a width nothing is wrapped, and the width zero is that of the terminal. Indents
are meant that a text can have: no memory is too small for them. -/
structure PrintStyle where
  color : Option Int := none
  bullet : String := ""
  width : Option Int := some 0
  wrapIndent : Int := 0
  separator : String := " "
  ending : String := "\n"

/-- What was printed, and the error that stopped it. -/
structure Printed where
  text : String
  error : Option WrapError := none
  deriving Repr, DecidableEq

/-- Puts the bullet in front of each line with which the whole text starts. -/
def markLines (bullet : String) (text : List Char) : List Char :=
  ((Text.lines text).map Text.Line.chars).flatMap fun l =>
    if l.isPrefixOf text then bullet.toList ++ l else l

/-- A paragraph, wrapped and with its bullet. -/
def paragraph (style : PrintStyle) (width : Int) (text : List Char) :
    Except WrapError (List Char) := do
  let indent := List.replicate style.wrapIndent.toNat ' '
  let ls ← Text.wrapChars { width, restIndent := indent } text
  let body := ['\n'].intercalate ls
  return if style.bullet = "" then body else markLines style.bullet body

/-- The text of joined arguments, wrapped to a width if there is one. -/
def layText (style : PrintStyle) (width : Option Int) (joined : String) : Except WrapError String :=
  match width with
  | none => .ok joined
  | some w => do
    let paragraphs ← (Text.lines joined.toList).mapM fun l => paragraph style w l.body
    return String.ofList (['\n'].intercalate paragraphs)

/-- Prints arguments to a terminal that says it has `columns`. -/
def print (columns : Int) (style : PrintStyle) (args : List String) : Printed :=
  let opening := (style.color.map colorOn).getD ""
  let closing := if style.color.isSome then colorOff else ""
  let width := style.width.map fun w => if w = 0 then terminalWidth columns else w
  match layText style width (style.separator.intercalate args) with
  | .error e => ⟨opening, some e⟩
  | .ok body => ⟨opening ++ body ++ closing ++ style.ending, none⟩

/-- Prints values as they stand in running text, if all of them can be shown and the number of the colour
can be written. -/
def printValues (columns : Int) (style : PrintStyle) (vs : List Value) : Except Obstacle Printed := do
  let texts ← vs.mapM Value.displayPlain
  if style.color.any Number.isTooLong then throw .longInteger
  return print columns style texts

/-- Prints one after the other, until an error. -/
def printAll (columns : Int) : List (PrintStyle × List String) → Printed
  | [] => ⟨"", none⟩
  | (style, args) :: rest =>
    let first := print columns style args
    match first.error with
    | some e => ⟨first.text, some e⟩
    | none =>
      let later := printAll columns rest
      ⟨first.text ++ later.text, later.error⟩

/-- The text of a notice for the user of a terminal. -/
def noticeText (columns : Int) (message : String) : String :=
  (print columns { color := some Color.yellow.code } [message]).text

end BuildScript
