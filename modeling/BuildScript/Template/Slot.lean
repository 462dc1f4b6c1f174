import BuildScript.Template.Kind
import BuildScript.Template.Layout
import BuildScript.Record

/-!
The values of fields, and what a template can ask of them: their text, in a layout or not, their parts by
position, and their attributes by name. What is asked of a value and it does not have makes the field
unfillable.
-/

namespace BuildScript.Template

/-- The value of a field. -/
inductive Slot where
  | text (s : String)
  | number (n : Nat)
  /-- Zero as a floating-point number. -/
  | zero
  | nothing
  | kind (k : Kind)
  | kinds (ks : List Kind)
  /-- What fills the gaps of a record. -/
  | told (ts : List Told)
  | method (owner : Slot) (name : String)
  /-- What a kind says of its methods and attributes of a name. -/
  | definition (k : Kind) (name : String)
  /-- A value of which no more than the kind is known. -/
  | unknown (k : Kind)
  deriving Repr, DecidableEq

namespace Slot

/-- The kind of a value. -/
def kindOf : Slot → Kind
  | text _ => .text
  | number _ => .whole
  | zero => .float
  | nothing => .nothing
  | kind _ => .kind
  | kinds _ | told _ => .tuple
  | method _ _ => .method
  | definition k name => if k.methods.contains name then .methodDefinition else .attributeDefinition
  | unknown k => k

/-- The text of a value. -/
def plain? : Slot → Option String
  | text s => some s
  | number n => some (Number.natText n)
  | zero => some "0.0"
  | nothing => some "None"
  | kind k => some k.shown
  | kinds ks => some (Value.inParentheses (ks.map Kind.shown))
  | told ts => ((ts.mapM Told.shown).map Value.inParentheses).toOption
  | definition k name =>
    let what := if k.methods.contains name then "method" else "attribute"
    some ("<" ++ what ++ " '" ++ name ++ "' of '" ++ k.name ++ "' objects>")
  | method _ _ | unknown _ => none

/-- The text that shows a value. -/
def shown? : Slot → Option String
  | text s => some (Text.quoted s)
  | v => v.plain?

/-- A text with escapes for what is not ASCII. -/
def inAscii (s : String) : String :=
  String.ofList (s.toList.flatMap fun c => if c.toNat < 128 then [c] else Text.escapeCode c.toNat)

/-- The value after a conversion. -/
def convert? (v : Slot) : Option Char → Option Slot
  | none => some v
  | some 's' => v.plain?.map text
  | some 'r' => v.shown?.map text
  | some 'a' => v.shown?.map fun s => text (inAscii s)
  | some _ => none

/-- The zero of floating-point numbers as a layout asks for it. -/
def zeroIn? (l : Layout) : Option (List Char) :=
  match l.presentation with
  | none => some (l.putTogether 3 { digits := ['0'], rest := ['.', '0'] })
  | some c => if "eEfFgG%".toList.contains c then l.ofNat? 0 else none

/-- A value as a layout asks for it. -/
def laidOut? (v : Slot) (layout : List Char) : Option (List Char) :=
  if layout.isEmpty then v.plain?.map String.toList
  else match v with
    | text s => do (← Layout.ofChars? layout).ofText? s.toList
    | number n => do (← Layout.ofChars? layout).ofNat? n
    | zero => do zeroIn? (← Layout.ofChars? layout)
    | _ => none

/-- What is at a position: of a text a character. -/
def at? (v : Slot) (position : Nat) : Option Slot :=
  match v with
  | text s => s.toList[position]?.map fun c => text (String.singleton c)
  | kinds ks => ks[position]?.map kind
  | told ts => ts[position]?.map fun
    | .text s => text s
    | .number n => number n
    | .thing .. => unknown .object
  | _ => none

/-- A description as a value. -/
def ofDescription (k : Kind) : Slot := (k.description?.map text).getD nothing

/-- The attribute of a kind. -/
def kindAttribute? (k : Kind) (name : String) : Option Slot :=
  match name with
  | "__name__" | "__qualname__" => some (text k.name)
  | "__module__" => some (text "builtins")
  | "__mro__" => some (kinds (k :: k.bases))
  | "__bases__" => some (kinds k.bases)
  | "__base__" => some ((k.bases.head?.map kind).getD nothing)
  | "__doc__" => some (ofDescription k)
  | _ => if (k.methods ++ k.attributes).contains name then some (definition k name) else none

/-- The attribute of a method. -/
def methodAttribute? (owner : Slot) (method name : String) : Option Slot :=
  match name with
  | "__name__" => some (text method)
  | "__qualname__" => some (text (owner.kindOf.name ++ "." ++ method))
  | "__self__" => some owner
  | "__module__" => some nothing
  | _ => none

/-- The attribute of what a kind says of a name. -/
def definitionAttribute? (k : Kind) (defined name : String) : Option Slot :=
  match name with
  | "__name__" => some (text defined)
  | "__qualname__" => some (text (k.name ++ "." ++ defined))
  | "__objclass__" => some (kind k)
  | _ => none

/-- The part of a number that is `whole` as a value. -/
def numberPart? (whole imaginary : Slot) (isWhole : Bool) (name : String) : Option Slot :=
  match name with
  | "real" => some whole
  | "imag" => some imaginary
  | "numerator" => if isWhole then some whole else none
  | "denominator" => if isWhole then some (number 1) else none
  | _ => none

/-- The part of a value that goes by a name and is a value itself. -/
def member? (v : Slot) (name : String) : Option Slot :=
  match v with
  | number _ | unknown .whole => numberPart? v (number 0) true name
  | zero | unknown .float => numberPart? v zero false name
  | kind k => kindAttribute? k name
  | method owner m => methodAttribute? owner m name
  | definition k defined => definitionAttribute? k defined name
  | _ => none

/-- Whether the description of a value is that of its kind. -/
def hasKindDescription : Slot → Bool
  | kind _ | method _ _ | definition _ _ => false
  | _ => true

/-- The attribute of a value. -/
def attribute? (v : Slot) (name : String) : Option Slot :=
  if name = "__class__" then some (kind v.kindOf)
  else match v.member? name with
    | some part => some part
    | none =>
      if v.kindOf.methods.contains name then some (method v name)
      else if name = "__doc__" ∧ v.hasKindDescription then some (ofDescription v.kindOf)
      else none

/-- The part of a value that the rest of a name asks for: parts by positions and attributes by names. -/
def part? (fuel : Nat) (v : Slot) (cs : List Char) : Option Slot :=
  match fuel, cs with
  | _, [] => some v
  | 0, _ => none
  | fuel + 1, '[' :: rest => do
    let inside := rest.takeWhile (· ≠ ']')
    match ← takeNumber inside with
    | (some position, []) => part? fuel (← v.at? position) ((rest.dropWhile (· ≠ ']')).drop 1)
    | _ => none
  | fuel + 1, '.' :: rest =>
    let inName := fun (c : Char) => c ≠ '.' && c ≠ '['
    match v.attribute? (String.ofList (rest.takeWhile inName)) with
    | some part => part? fuel part (rest.dropWhile inName)
    | none => none
  | _, _ => none

end Slot

end BuildScript.Template
