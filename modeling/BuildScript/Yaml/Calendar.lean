import BuildScript.Number.Integer

/-!
Dates and points in time of the Gregorian calendar, from the year 1 to the year 9999. A point in time
has a clock to the microsecond, and may have an offset to universal time in minutes.
-/

namespace BuildScript.Yaml

open Number (natText intText)

/-- A date. -/
structure Date where
  year : Nat
  month : Nat
  day : Nat
  deriving Repr, DecidableEq

/-- A point in time. -/
structure Moment where
  date : Date
  hour : Nat
  minute : Nat
  second : Nat
  microsecond : Nat := 0
  offset : Option Int := none
  deriving Repr, DecidableEq

/-- Whether a year has a leap day. -/
def isLeapYear (y : Nat) : Bool := y % 4 = 0 && (y % 100 ≠ 0 || y % 400 = 0)

/-- The number of days of a month. -/
def daysInMonth (year month : Nat) : Nat :=
  if month = 2 then (if isLeapYear year then 29 else 28)
  else if month = 4 ∨ month = 6 ∨ month = 9 ∨ month = 11 then 30
  else 31

/-- What is wrong with a date or point in time. -/
inductive CalendarError where
  | year (y : Nat)
  | month
  | day
  | hour
  | minute
  | second
  /-- An offset of a day or more, in minutes. -/
  | offset (minutes : Int)
  deriving Repr, DecidableEq

/-- A number with at least so many digits. -/
def padded (width n : Nat) : String :=
  let digits := natText n
  String.ofList (List.replicate (width - digits.length) '0') ++ digits

/-- The text that shows a span of minutes: whole days, rounded down, and the seconds that are left. -/
def spanShown (minutes : Int) : String :=
  let days := Int.fdiv minutes 1440
  let seconds := Int.fmod minutes 1440 * 60
  let parts := (if days = 0 then [] else ["days=" ++ intText days])
    ++ (if seconds = 0 then [] else ["seconds=" ++ intText seconds])
  "datetime.timedelta(" ++ (if parts.isEmpty then "0" else ", ".intercalate parts) ++ ")"

/-- The message of a calendar error. -/
def CalendarError.message : CalendarError → String
  | year y => "year " ++ natText y ++ " is out of range"
  | month => "month must be in 1..12"
  | day => "day is out of range for month"
  | hour => "hour must be in 0..23"
  | minute => "minute must be in 0..59"
  | second => "second must be in 0..59"
  | offset minutes =>
    "offset must be a timedelta strictly between -timedelta(hours=24) and timedelta(hours=24), not "
      ++ spanShown minutes ++ "."

namespace Date

/-- The date of a year, month and day, if there is one. -/
def make (year month day : Nat) : Except CalendarError Date :=
  if year < 1 ∨ 9999 < year then .error (.year year)
  else if month < 1 ∨ 12 < month then .error .month
  else if day < 1 ∨ daysInMonth year month < day then .error .day
  else .ok ⟨year, month, day⟩

/-- The text of a date. -/
def text (d : Date) : String := padded 4 d.year ++ "-" ++ padded 2 d.month ++ "-" ++ padded 2 d.day

/-- The fields of a date as arguments. -/
def fields (d : Date) : List String := [natText d.year, natText d.month, natText d.day]

/-- The text that shows a date. -/
def shown (d : Date) : String := "datetime.date(" ++ ", ".intercalate d.fields ++ ")"

/-- The number of days from the start of the calendar to the start of a year. -/
def daysBeforeYear (year : Nat) : Nat :=
  let y := year - 1
  365 * y + y / 4 - y / 100 + y / 400

/-- The number of days from the start of the calendar to a date. -/
def ordinal (d : Date) : Nat :=
  daysBeforeYear d.year
    + (List.range (d.month - 1)).foldl (fun n m => n + daysInMonth d.year (m + 1)) 0 + d.day

end Date

namespace Moment

/-- The point in time of a date, a clock and an offset, if there is one. -/
def make (year month day hour minute second microsecond : Nat) (offset : Option Int) :
    Except CalendarError Moment := do
  match offset with
  | some m => if 1440 ≤ m.natAbs then throw (.offset m)
  | none => pure ()
  let date ← Date.make year month day
  if 23 < hour then throw .hour
  else if 59 < minute then throw .minute
  else if 59 < second then throw .second
  else return { date, hour, minute, second, microsecond, offset }

/-- The text of an offset. -/
def offsetText (minutes : Int) : String :=
  (if minutes < 0 then "-" else "+") ++ padded 2 (minutes.natAbs / 60) ++ ":"
    ++ padded 2 (minutes.natAbs % 60)

/-- The text of a point in time. -/
def text (m : Moment) : String :=
  m.date.text ++ " " ++ padded 2 m.hour ++ ":" ++ padded 2 m.minute ++ ":" ++ padded 2 m.second
    ++ (if m.microsecond = 0 then "" else "." ++ padded 6 m.microsecond)
    ++ (match m.offset with | none => "" | some o => offsetText o)

/-- The text that shows an offset. -/
def offsetShown (minutes : Int) : String :=
  if minutes = 0 then "datetime.timezone.utc"
  else "datetime.timezone(" ++ spanShown minutes ++ ")"

/-- The text that shows a point in time. Seconds and microseconds that are zero are left out at the
end. -/
def shown (m : Moment) : String :=
  let clock := [natText m.hour, natText m.minute]
    ++ (if m.second = 0 ∧ m.microsecond = 0 then [] else [natText m.second])
    ++ (if m.microsecond = 0 then [] else [natText m.microsecond])
  let zone := match m.offset with | none => [] | some o => ["tzinfo=" ++ offsetShown o]
  "datetime.datetime(" ++ ", ".intercalate (m.date.fields ++ clock ++ zone) ++ ")"

/-- The microseconds from the start of the calendar, at no offset. -/
def instant (m : Moment) : Int :=
  let minutes : Int := (m.date.ordinal * 1440 + m.hour * 60 + m.minute : Nat)
  ((minutes - m.offset.getD 0) * 60 + m.second) * 1000000 + m.microsecond

/-- Whether two points in time are the same: both have an offset, or neither has. -/
def same (a b : Moment) : Bool := a.offset.isSome = b.offset.isSome && a.instant = b.instant

end Moment

end BuildScript.Yaml
