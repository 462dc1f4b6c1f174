import BuildScript.Number.Integer
import BuildScript.Template.Check

/-!
Layouts: how a text or a number is put into a field. A layout has a side to which the text is moved and
a character that fills the rest, the sign of positive numbers, a width, a mark between groups of
digits, a precision, and a letter for the presentation. What a layout asks of a text or of a number
and they do not have makes the field unfillable.
-/

namespace BuildScript.Template

open Text (digitValue?)

/-- A layout. -/
structure Layout where
  fill : Option Char := none
  alignment : Option Char := none
  sign : Option Char := none
  /-- No negative zero. -/
  plainZero : Bool := false
  alternate : Bool := false
  /-- A zero in front of the width. -/
  zeros : Bool := false
  width : Option Nat := none
  grouping : Option Char := none
  precision : Option Nat := none
  presentation : Option Char := none
  deriving Repr, DecidableEq

/-- Takes one character, if it satisfies a test. -/
def takeOne (p : Char → Bool) (cs : List Char) : Option Char × List Char :=
  match cs with
  | c :: rest => if p c then (some c, rest) else (none, cs)
  | [] => (none, [])

/-- Takes a character that fills, and an alignment. -/
def takeAlignment (cs : List Char) : Option Char × Option Char × List Char :=
  match cs with
  | f :: a :: rest =>
    if isAlignment a then (some f, some a, rest)
    else if isAlignment f then (none, some f, a :: rest) else (none, none, cs)
  | [a] => if isAlignment a then (none, some a, []) else (none, none, cs)
  | [] => (none, none, [])

/-- The numbers below this one can be a width, a precision or a position. -/
def sizeLimit : Nat := Nat.pow 2 63

/-- Takes a number if there is one. It has to be below the limit. -/
def takeNumber (cs : List Char) : Option (Option Nat × List Char) :=
  match (cs.takeWhile Text.isDigit).filterMap digitValue? with
  | [] => some (none, cs)
  | ds =>
    let n := Number.valueOfDigits ds
    if n < sizeLimit then some (some n, cs.dropWhile Text.isDigit) else none

/-- Whether digits can be grouped in a presentation: in decimal ones, and with underscores in those of
other bases too. -/
def canGroup (mark presentation : Char) : Bool :=
  "deEfFgG%".toList.contains presentation || (mark = '_' && "boxX".toList.contains presentation)

/-- The layout that a text describes. -/
def Layout.ofChars? (cs : List Char) : Option Layout := do
  let (fill, alignment, cs) := takeAlignment cs
  let (sign, cs) := takeOne (fun c => c = '+' || c = ' ' || c = '-') cs
  let (z, cs) := takeOne (· = 'z') cs
  let (alternate, cs) := takeOne (· = '#') cs
  let (zero, cs) := if fill.isSome then (none, cs) else takeOne (· = '0') cs
  let (width, cs) ← takeNumber cs
  let (comma, cs) := takeOne (· = ',') cs
  let (low, cs) := takeOne (· = '_') cs
  let (dot, cs) := takeOne (· = '.') cs
  let (precision, cs) ← if dot.isSome then takeNumber cs else some (none, cs)
  let grouping := comma <|> low
  if (comma.isSome && low.isSome) || (dot.isSome && precision.isNone) then none
  else match cs with
    | [] => some ⟨fill, alignment, sign, z.isSome, alternate.isSome, zero.isSome, width, grouping,
        precision, none⟩
    | [c] =>
      if grouping.all (canGroup · c) then
        some ⟨fill, alignment, sign, z.isSome, alternate.isSome, zero.isSome, width, grouping,
          precision, some c⟩
      else none
    | _ => none

namespace Layout

/-- The character that fills. -/
def filler (l : Layout) : Char := l.fill.getD (if l.zeros then '0' else ' ')

/-- A text as a layout asks for it. -/
def ofText? (l : Layout) (cs : List Char) : Option (List Char) :=
  if l.sign.isSome || l.plainZero || l.alternate || l.grouping.isSome || l.alignment = some '='
      || l.presentation.any (· ≠ 's') then none
  else
    let body := match l.precision with
      | some p => cs.take p
      | none => cs
    let room := l.width.getD 0 - body.length
    let before := match l.alignment with
      | some '>' => room
      | some '^' => room / 2
      | _ => 0
    some (List.replicate before l.filler ++ body ++ List.replicate (room - before) l.filler)

/-- What a number is made of: a mark of its base, digits that can be grouped, and what follows them. -/
structure Parts where
  mark : List Char := []
  digits : List Char
  rest : List Char := []

/-- Digits in groups from the right, with zeros in front as far as `least` characters ask for them. -/
def grouped (mark : Char) (size : Nat) (fuel least : Nat) (back : List Char) : List Char :=
  match fuel with
  | 0 => []
  | fuel + 1 =>
    let wanted := min size (max (max back.length least) 1)
    let group := back.take wanted
    let here := group ++ List.replicate (wanted - group.length) '0'
    let left := back.drop wanted
    if left.isEmpty && least ≤ wanted then here
    else here ++ mark :: grouped mark size fuel (least - wanted - 1) left

/-- The digits of a number as a layout asks for them. -/
def groupedDigits (l : Layout) (size least : Nat) (digits : List Char) : List Char :=
  if digits.isEmpty then []
  else match l.grouping with
    | none => List.replicate (least - digits.length) '0' ++ digits
    | some mark => (grouped mark size (digits.length + least + 1) least digits.reverse).reverse

/-- The parts of a number put together, to which side and how wide a layout says. -/
def putTogether (l : Layout) (groupSize : Nat) (p : Parts) : List Char :=
  let alignment := l.alignment.getD (if l.zeros then '=' else '>')
  let sign := match l.sign with
    | some '+' => ['+']
    | some ' ' => [' ']
    | _ => []
  let others := sign.length + p.mark.length + p.rest.length
  let width := l.width.getD 0
  let least := if l.filler = '0' && alignment = '=' then width - others else 0
  let digits := l.groupedDigits groupSize least p.digits
  let room := width - (others + digits.length)
  let before := if alignment = '>' then room else if alignment = '^' then room / 2 else 0
  let inside := if alignment = '=' then room else 0
  let body := sign ++ p.mark ++ List.replicate inside l.filler ++ digits ++ p.rest
  List.replicate before l.filler ++ body ++ List.replicate (room - before - inside) l.filler

/-- A number in a base. -/
def inBase (base n : Nat) : List Char := Nat.toDigits base n

/-- The number of digits that are left of `n` when the last `dropped` are rounded away, a half to the
even neighbour. -/
def roundAway (n dropped : Nat) : Nat :=
  let unit := Nat.pow 10 dropped
  let q := n / unit
  let r := n % unit
  if unit < 2 * r || (unit = 2 * r && q % 2 = 1) then q + 1 else q

/-- The first digits of a number, `count` of them, and the power of ten that the first stands for. -/
def leading (n count : Nat) : List Char × Nat :=
  let digits := Number.natChars n
  let place := digits.length - 1
  if digits.length ≤ count then (digits ++ List.replicate (count - digits.length) '0', place)
  else
    let rounded := Number.natChars (roundAway n (digits.length - count))
    if count < rounded.length then (rounded.take count, place + 1) else (rounded, place)

/-- What stands behind the first digit: a point if there is something to follow. -/
def pointed (always : Bool) (cs : List Char) : List Char :=
  if cs.isEmpty && !always then [] else '.' :: cs

/-- A number without the zeros at its end. -/
def withoutZeros (cs : List Char) : List Char := (cs.reverse.dropWhile (· = '0')).reverse

/-- The text of a power of ten. -/
def exponent (letter : Char) (place : Nat) : List Char :=
  letter :: '+' :: ((if place < 10 then ['0'] else []) ++ Number.natChars place)

/-- A number with a power of ten behind it. -/
def scientific (letter : Char) (always : Bool) (precision n : Nat) : Parts :=
  let (digits, place) := leading n (precision + 1)
  { digits := digits.take 1, rest := pointed always (digits.drop 1) ++ exponent letter place }

/-- A number with digits behind the point. -/
def fixed (always : Bool) (precision n : Nat) (ending : List Char) : Parts :=
  { digits := Number.natChars n
    rest := pointed always (List.replicate precision '0') ++ ending }

/-- A number with a number of digits that count: with a power of ten if it is too great for that. -/
def general (letter : Char) (always : Bool) (precision n : Nat) : Parts :=
  let count := max precision 1
  let (digits, place) := leading n count
  let trim := fun cs => if always then cs else withoutZeros cs
  if place < count then
    { digits := digits.take (place + 1), rest := pointed always (trim (digits.drop (place + 1))) }
  else { digits := digits.take 1
         rest := pointed always (trim (digits.drop 1)) ++ exponent letter place }

/-- The parts of a whole number in a presentation of whole numbers. -/
def wholeParts? (l : Layout) (n : Nat) : Option Parts :=
  let marked := fun (mark : String) (digits : List Char) =>
    some { mark := if l.alternate then mark.toList else [], digits : Parts }
  if l.precision.isSome || l.plainZero then none
  else match l.presentation.getD 'd' with
    | 'd' => some { digits := inBase 10 n }
    | 'n' => some { digits := inBase 10 n }
    | 'b' => marked "0b" (inBase 2 n)
    | 'o' => marked "0o" (inBase 8 n)
    | 'x' => marked "0x" (inBase 16 n)
    | 'X' => marked "0X" ((inBase 16 n).map Char.toUpper)
    | 'c' =>
      if l.sign.isSome || l.alternate || 0x110000 ≤ n then none
      else some { digits := [], rest := [Char.ofNat n] }
    | _ => none

/-- The parts of a number in a presentation with a point. -/
def pointParts? (l : Layout) (n : Nat) : Option Parts :=
  let precision := l.precision.getD 6
  if Nat.pow 2 31 ≤ precision then none
  else match l.presentation with
    | some 'e' => some (scientific 'e' l.alternate precision n)
    | some 'E' => some (scientific 'E' l.alternate precision n)
    | some 'f' => some (fixed l.alternate precision n [])
    | some 'F' => some (fixed l.alternate precision n [])
    | some 'g' => some (general 'e' l.alternate precision n)
    | some 'G' => some (general 'E' l.alternate precision n)
    | some '%' => some (fixed l.alternate precision (100 * n) ['%'])
    | _ => none

/-- A whole number as a layout asks for it. -/
def ofNat? (l : Layout) (n : Nat) : Option (List Char) := do
  let size := if l.presentation.any "boxX".toList.contains then 4 else 3
  let parts ← l.wholeParts? n <|> l.pointParts? n
  return l.putTogether size parts

end Layout

end BuildScript.Template
