import BuildScript.Fault.Basic
import BuildScript.Text.Lines
import BuildScript.Text.Paragraph
import BuildScript.Value.Layout

/-!
Faults laid out for the terminal: a block of lines for the fault and one for each that led to it, each
block two columns further in. A block holds the message, wrapped, and the data if there is any.
-/

namespace BuildScript

open Text (WrapError Margins)

/-- Why a fault has no layout. -/
inductive LayoutError where
  | wrap (e : WrapError)
  /-- Nothing is left of the width for data at this depth. -/
  | noWidth
  | unshowable (o : Obstacle)
  deriving Repr, DecidableEq

/-- The message that says why a paragraph has no layout. -/
def wrapMessage : WrapError → String
  | .invalidWidth w => "invalid width " ++ Number.intText w ++ " (must be > 0)"
  | .unending => "no line has room for a character"

/-- The message of a layout error. -/
def LayoutError.message : LayoutError → String
  | wrap e => wrapMessage e
  | noWidth => "width must be != 0"
  | unshowable o => o.message

/-- The class of the error that a layout error is. -/
def LayoutError.className : LayoutError → String
  | unshowable o => o.className
  | _ => "ValueError"

/-- The columns of one level of the chain. -/
def tabColumns : Nat := 2

/-- The lines of a message, each of its lines wrapped on its own. -/
def messageLines (m : Margins) (message : String) : Except LayoutError (List String) := do
  let parts ← (Text.splitLineFeeds message).mapM fun part => (Text.wrap m part).mapError .wrap
  return parts.flatten

/-- The lines of the data, if there is any. -/
def dataLines (width : Int) (depth : Nat) (data : Value) : Except LayoutError (List String) :=
  let indent := tabColumns * depth
  let room := width - indent
  if !data.isSomething then .ok []
  else if room = 0 then .error .noWidth
  else match data.obstacle? with
    | some o => .error (.unshowable o)
    | none => .ok ((data.layout room).map fun l => String.ofList (List.replicate indent ' ') ++ l)

/-- The margins of a message at a depth of the chain; the lines after the first are one level further
in if `hanging`. -/
def marginsAt (width : Int) (depth : Nat) (hanging : Bool) : Margins :=
  let indent := tabColumns * depth
  { width, firstIndent := List.replicate indent ' '
    restIndent := List.replicate (if hanging then indent + tabColumns else indent) ' ' }

/-- The block of one fault of the chain. -/
def Link.block (width : Int) (depth : Nat) (l : Link) : Except LayoutError (List String) := do
  let message ← messageLines (marginsAt width depth (0 < depth)) l.message
  let data ← dataLines width depth l.data
  return message ++ data

/-- The blocks of the faults of the chain from a depth on, and that of the error at its end. -/
def chainBlocks (width : Int) (root : Option OtherError) (depth : Nat) :
    List Link → Except LayoutError (List String)
  | [] => match root with
    | none => .ok []
    | some e => do
      let text ← e.layoutText.mapError .unshowable
      messageLines (marginsAt width depth false) text
  | l :: ls => do
    let block ← l.block width depth
    let rest ← chainBlocks width root (depth + 1) ls
    return block ++ rest

/-- The layout of a fault in lines of a width. -/
def Fault.layout (width : Int) (f : Fault) : Except LayoutError String := do
  let ls ← chainBlocks width f.root 0 (f.head :: f.priors)
  return "\n".intercalate ls

/-- The trace of a fault that was never raised: its class and text. -/
def Fault.trace (f : Fault) : String :=
  let name := "buildfuncs.errors." ++ f.head.className
  if f.text = "" then name ++ "\n" else name ++ ": " ++ f.text ++ "\n"

/-- The width of a terminal that says it has `columns`. -/
def terminalWidth (columns : Int) : Int := if 0 < columns then columns else 80

end BuildScript
