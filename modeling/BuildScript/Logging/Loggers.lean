import BuildScript.Files.Writing
import BuildScript.Record
import BuildScript.Template.Fill

/-!
Loggers: which records get through, and where they are written. A record that its logger lets through
goes to the handlers of the plugin logger if it was given to that one or to one below it, and then to
those of the root logger. A handler writes the records that are grave enough for it, each on a line of
its own; a record whose text cannot be made, or that does not fill its template, is not written. The traceback of
an error stands behind the line of its record.
-/

namespace BuildScript

open Files (FileTree)

/-- Where a handler writes: to the error output, or to the file at a place. -/
inductive Sink where
  | errorOutput
  | file (names : List String)
  deriving Repr, DecidableEq

/-- A handler: where it writes, the least level that it writes, and the template of its lines. -/
structure Handler where
  sink : Sink
  level : Nat
  template : String
  deriving Repr, DecidableEq

/-- The state of the root logger and of the plugin logger: their levels, and their handlers in order. A
logger of level zero has that of the logger above it. -/
structure Loggers where
  rootLevel : Nat := Level.warning.number
  rootHandlers : List Handler := []
  pluginLevel : Nat := 0
  pluginHandlers : List Handler := []
  deriving Repr, DecidableEq

/-- What has been written: the error output, and files. -/
structure LogOutput where
  errors : String := ""
  files : FileTree

/-- The name of the root logger. -/
def rootName : String := "root"

/-- The name of the plugin logger. -/
def pluginLoggerName : String := "yapsy"

/-- Whether a logger is the one with the name `top` or one below it. -/
def isWithin (top logger : String) : Bool := logger = top || logger.startsWith (top ++ ".")

/-- What comes to a record when it is written: the time, and the traceback of the error that goes with it. -/
structure Occasion where
  time : String := ""
  traceback : String := ""
  deriving Repr, DecidableEq

namespace Record

/-- What a template of log lines can ask of a record with this message. -/
def slot? (r : Record) (m : Occasion) (message name : String) : Option Template.Slot :=
  match name with
  | "name" => some (.text r.logger)
  | "msg" => some (.text r.pattern)
  | "message" => some (.text message)
  | "levelname" => some (.text r.level.name)
  | "levelno" => some (.number r.level.number)
  | "asctime" => some (.text m.time)
  | "args" => some (.told r.arguments)
  | "exc_info" | "exc_text" => some (if r.error.isNone then .nothing else .unknown .object)
  | "stack_info" => some .nothing
  | "threadName" => some (.text "MainThread")
  | "processName" => some (.text "MainProcess")
  | "pathname" | "filename" | "module" | "funcName" => some (.unknown .text)
  | "lineno" | "thread" | "process" => some (.unknown .whole)
  | "created" | "msecs" | "relativeCreated" => some (.unknown .float)
  | _ => none

/-- What stands behind the line of a record: the traceback of its error, if it has one, on lines of its
own. -/
def below (r : Record) (m : Occasion) (line : String) : String :=
  if r.error.isNone then "" else (if line.endsWith "\n" then "" else "\n") ++ m.traceback

/-- What is written for a record in a template. -/
def line? (r : Record) (m : Occasion) (template : String) : Option String :=
  match r.message with
  | .error _ => none
  | .ok message =>
    (Template.fill (r.slot? m message) template).map fun line => line ++ r.below m line ++ "\n"

end Record

namespace LogOutput

/-- Adds text to a sink. -/
def add (o : LogOutput) (text : String) : Sink → LogOutput
  | .errorOutput => { o with errors := o.errors ++ text }
  | .file names => { o with files := o.files.addText names text }

/-- What there is after a handler has been given a record. -/
def handle (o : LogOutput) (m : Occasion) (r : Record) (h : Handler) : LogOutput :=
  if r.level.number < h.level then o
  else match r.line? m h.template with
    | some line => o.add line h.sink
    | none => o

end LogOutput

namespace Loggers

/-- The least level of the records that a logger lets through. -/
def threshold (l : Loggers) (logger : String) : Nat :=
  if isWithin pluginLoggerName logger && l.pluginLevel ≠ 0 then l.pluginLevel
  else l.rootLevel

/-- The handlers that get the records of a logger, in order. -/
def handlersFor (l : Loggers) (logger : String) : List Handler :=
  (if isWithin pluginLoggerName logger then l.pluginHandlers else []) ++ l.rootHandlers

/-- Logs a record. -/
def deliver (l : Loggers) (m : Occasion) (o : LogOutput) (r : Record) : LogOutput :=
  if r.level.number < l.threshold r.logger then o
  else (l.handlersFor r.logger).foldl (fun o h => o.handle m r h) o

end Loggers

end BuildScript
