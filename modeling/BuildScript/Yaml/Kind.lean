import BuildScript.Number.Integer

/-!
Tags, and the tag that a plain scalar asks for by its form: nothing, a flag, a number, a date or point in
time, a merge, or else text.
-/

namespace BuildScript.Yaml

/-- The stem of the tags of YAML's own types. -/
def typeStem : String := "tag:yaml.org,2002:"

/-- The tag of one of YAML's own types. -/
def typeTag (name : String) : String := typeStem ++ name

/-- The tag of texts. -/
def textTag : String := typeTag "str"

/-- The tag of sequences. -/
def sequenceTag : String := typeTag "seq"

/-- The tag of mappings. -/
def mappingTag : String := typeTag "map"

/-- The tag of keys whose value is merged into the mapping. -/
def mergeTag : String := typeTag "merge"

/-- The tag of the key that stands for the value of a mapping as a whole. -/
def valueTag : String := typeTag "value"

/-- The texts of flags. -/
def flagTexts : List String :=
  ["yes", "Yes", "YES", "no", "No", "NO", "true", "True", "TRUE", "false", "False", "FALSE",
   "on", "On", "ON", "off", "Off", "OFF"]

/-- The texts of nothing. -/
def nothingTexts : List String := ["", "~", "null", "Null", "NULL"]

/-- Whether a character is a digit or an underscore. -/
def isDigitOrLow (c : Char) : Bool := c.isDigit || c = '_'

/-- One or more characters, all of which satisfy a test. -/
def isRun (p : Char → Bool) (cs : List Char) : Bool := !cs.isEmpty && cs.all p

/-- A digit, and then digits and underscores. -/
def isDigitRun : List Char → Bool
  | [] => false
  | c :: cs => c.isDigit && cs.all isDigitOrLow

/-- A number below sixty, with one or two digits. -/
def isSixtieth : List Char → Bool
  | [a] => a.isDigit
  | [a, b] => '0' ≤ a && a ≤ '5' && b.isDigit
  | _ => false

/-- The pieces of a list between marks. -/
def piecesBetween {α : Type} (isMark : α → Bool) : List α → List (List α)
  | [] => [[]]
  | a :: rest =>
    if isMark a then [] :: piecesBetween isMark rest
    else match piecesBetween isMark rest with
      | [] => [[a]]
      | p :: ps => (a :: p) :: ps

/-- The pieces of a text between colons. -/
def colonPieces (cs : List Char) : List (List Char) := piecesBetween (· = ':') cs

/-- An unsigned integer: binary, octal, decimal, hexadecimal, or with a colon between sixtieths. -/
def isIntegerForm (cs : List Char) : Bool :=
  (match cs with
    | '0' :: 'b' :: rest => isRun (fun c => c = '0' || c = '1' || c = '_') rest
    | '0' :: 'x' :: rest => isRun (fun c => (c.isDigit || 'a' ≤ c && c ≤ 'f' || 'A' ≤ c && c ≤ 'F')
        || c = '_') rest
    | ['0'] => true
    | '0' :: rest => rest.all fun c => '0' ≤ c && c ≤ '7' || c = '_'
    | c :: rest => c.isDigit && rest.all isDigitOrLow
    | [] => false)
  || (match colonPieces cs with
    | (c :: first) :: (p :: ps) =>
      c.isDigit && c ≠ '0' && first.all isDigitOrLow && (p :: ps).all isSixtieth
    | _ => false)

/-- An exponent with a sign, or nothing. -/
def isExponentForm : List Char → Bool
  | [] => true
  | e :: s :: digits =>
    (e = 'e' || e = 'E') && (s = '+' || s = '-') && isRun Char.isDigit digits
  | _ => false

/-- Digits and underscores, and then an exponent. -/
def isFractionForm (cs : List Char) : Bool := isExponentForm (cs.dropWhile isDigitOrLow)

/-- A floating-point number: digits around a point and an exponent, sixtieths, or a word behind a
point. -/
def isFloatForm (text : List Char) : Bool :=
  let cs := (Number.cutSign text).2
  let signed := cs.length < text.length
  let word := String.ofList (cs.drop 1)
  (match cs with
    | '.' :: rest =>
      (!signed && isDigitRun (rest.takeWhile isDigitOrLow) && isFractionForm rest)
        || ["inf", "Inf", "INF"].contains word
        || (!signed && ["nan", "NaN", "NAN"].contains word)
    | _ =>
      match cs.span fun c => c ≠ '.' with
      | (whole, '.' :: rest) =>
        (isDigitRun whole && isFractionForm rest)
          || (rest.all isDigitOrLow &&
            match colonPieces whole with
            | first :: (p :: ps) => isDigitRun first && (p :: ps).all isSixtieth
            | _ => false)
      | _ => false)

/-- What a form asks for at the front of a text: so many digits at least and at most. -/
def cutNumber (least most : Nat) (cs : List Char) : Option (List Char × List Char) :=
  let digits := (cs.takeWhile Char.isDigit).take most
  if digits.length < least then none else some (digits, cs.drop digits.length)

/-- Cuts a character off. -/
def cutChar (c : Char) : List Char → Option (List Char)
  | c' :: rest => if c' = c then some rest else none
  | [] => none

/-- The fields of a point in time, as digits. -/
structure TimeFields where
  year : List Char
  month : List Char
  day : List Char
  /-- Hour, minute, second and the digits behind the point. -/
  clock : Option (List Char × List Char × List Char × List Char) := none
  /-- Whether the offset is below zero, its hours and its minutes; for the zone without offset the digits
  are missing. -/
  zone : Option (Bool × List Char × List Char) := none

/-- The zone at the end of a point in time. -/
def readZone (cs : List Char) : Option (Option (Bool × List Char × List Char)) :=
  match cs.dropWhile fun c => c = ' ' || c = '\t' with
  | ['Z'] => some (some (false, [], []))
  | s :: rest =>
    if s = '+' || s = '-' then do
      let (hours, more) ← cutNumber 1 2 rest
      match more with
      | [] => return some (s = '-', hours, [])
      | _ =>
        let (minutes, after) ← cutNumber 2 2 (← cutChar ':' more)
        if after.isEmpty then return some (s = '-', hours, minutes) else none
    else none
  | [] => if cs.isEmpty then some none else none

/-- The clock and zone behind the date of a point in time. -/
def readClock (f : TimeFields) (cs : List Char) : Option TimeFields := do
  let (hour, afterHour) ← cutNumber 1 2 cs
  let (minute, afterMinute) ← cutNumber 2 2 (← cutChar ':' afterHour)
  let (second, afterSecond) ← cutNumber 2 2 (← cutChar ':' afterMinute)
  let (fraction, rest) := match afterSecond with
    | '.' :: rest => (rest.takeWhile Char.isDigit, rest.dropWhile Char.isDigit)
    | rest => ([], rest)
  let zone ← readZone rest
  return { f with clock := some (hour, minute, second, fraction), zone }

/-- The fields of a date, or of a point in time: a date, blanks or a T, and a clock. -/
def timeFields? (cs : List Char) : Option TimeFields := do
  let (year, afterYear) ← cutNumber 4 4 cs
  let (month, afterMonth) ← cutNumber 1 2 (← cutChar '-' afterYear)
  let (day, afterDay) ← cutNumber 1 2 (← cutChar '-' afterMonth)
  let f : TimeFields := { year, month, day }
  match afterDay with
  | [] => return f
  | c :: rest =>
    if c = 'T' ∨ c = 't' then readClock f rest
    else if c = ' ' ∨ c = '\t' then readClock f (rest.dropWhile fun c => c = ' ' || c = '\t')
    else none

/-- A date whose fields are of full length, or a point in time. -/
def isTimeForm (cs : List Char) : Bool :=
  match timeFields? cs with
  | none => false
  | some f => f.clock.isSome || (f.month.length = 2 && f.day.length = 2)

/-- A text without the line break at its end, if there is one. -/
def withoutLastBreak (cs : List Char) : List Char :=
  if cs.getLast? = some '\n' then cs.dropLast else cs

/-- The tag that a plain scalar asks for. A line break at its end is not looked at. -/
def plainTag (text : String) : String :=
  let cs := if text = "\n" then text.toList else withoutLastBreak text.toList
  let s := String.ofList cs
  let unsigned := (Number.cutSign cs).2
  if flagTexts.contains s then typeTag "bool"
  else if isFloatForm cs then typeTag "float"
  else if isIntegerForm unsigned then typeTag "int"
  else if s = "<<" then mergeTag
  else if nothingTexts.contains s then typeTag "null"
  else if isTimeForm cs then typeTag "timestamp"
  else if s = "=" then valueTag
  else if s = "!" ∨ s = "&" ∨ s = "*" then typeTag "yaml"
  else textTag

end BuildScript.Yaml
