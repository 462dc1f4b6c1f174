import BuildScript.Value.Obstacle

/-!
Log records: what the library gives to its loggers, before any handler sees it. A record is a text with
gaps and what they are to be filled with; it is filled by whoever writes it, and only then does it turn
out whether that can be done.
-/

namespace BuildScript

/-- How grave a record is. -/
inductive Level where
  | debug
  | info
  | warning
  | error
  | critical
  deriving Repr, DecidableEq

namespace Level

/-- The number of a level. -/
def number : Level → Nat
  | debug => 10
  | info => 20
  | warning => 30
  | error => 40
  | critical => 50

/-- The name of a level. -/
def name : Level → String
  | debug => "DEBUG"
  | info => "INFO"
  | warning => "WARNING"
  | error => "ERROR"
  | critical => "CRITICAL"

/-- All levels. -/
def all : List Level := [debug, info, warning, error, critical]

/-- The level with the given name. -/
def ofName? (s : String) : Option Level := all.find? fun l => l.name = s

theorem ofName?_name (l : Level) : ofName? l.name = some l := by
  cases l <;> decide

end Level

/-- What fills a gap in the text of a record. -/
inductive Told where
  | text (s : String)
  | number (n : Nat)
  /-- A thing, with the text that stands for it and the one that shows it, and what stands against both. -/
  | thing (plain shown : String) (obstacle? : Option Obstacle := none)
  deriving Repr, DecidableEq

namespace Told

/-- The mark of a gap. -/
def mark : Told → String
  | number _ => "%d"
  | _ => "%s"

/-- The text that stands for what is told of. -/
def plain : Told → Except Obstacle String
  | text s => .ok s
  | number n => .ok (Number.natText n)
  | thing plain _ obstacle? => Value.barring plain obstacle?

/-- The text that shows what is told of. -/
def shown : Told → Except Obstacle String
  | text s => .ok (Text.quoted s)
  | number n => .ok (Number.natText n)
  | thing _ shown obstacle? => Value.barring shown obstacle?

end Told

/-- A part of the text of a record. -/
inductive Part where
  | literal (s : String)
  | gap (t : Told)
  deriving Repr, DecidableEq

namespace Part

/-- A part as it is written down. -/
def pattern : Part → String
  | literal s => s
  | gap t => t.mark

/-- The text of a part. -/
def text : Part → Except Obstacle String
  | literal s => .ok s
  | gap t => t.plain

/-- What fills a part, if it is a gap. -/
def told? : Part → Option Told
  | literal _ => none
  | gap t => some t

end Part

/-- A record: its level, the logger it was given to, the parts of its text, and the class and text of an
error that goes with it. -/
structure Record where
  level : Level
  logger : String
  parts : List Part
  error : Option (String × String) := none
  deriving Repr, DecidableEq

namespace Record

/-- The text of a record as it is written down, with its gaps. -/
def pattern (r : Record) : String := String.join (r.parts.map Part.pattern)

/-- The text of a record, if all that fills its gaps can be shown. -/
def message (r : Record) : Except Obstacle String := do
  return String.join (← r.parts.mapM Part.text)

/-- What fills the gaps of a record. -/
def arguments (r : Record) : List Told := r.parts.filterMap Part.told?

end Record

end BuildScript
