import BuildScript.Config.Basic
import BuildScript.Fault.Basic
import BuildScript.Logging.Loggers
import BuildScript.Output

/-!
Setting up the loggers for a configuration. The log file, if there is one, and the error output get
handlers; a log file that cannot be made because its directory is not there is only told of. A level
that no handler can have is found out when the first handler is to get it; what goes wrong before that
changes no logger.
-/

namespace BuildScript

open Files (FileTree Path Trouble)

/-- The names of levels and their numbers. -/
def levelTable : List (String × Nat) :=
  [("CRITICAL", 50), ("FATAL", 50), ("ERROR", 40), ("WARNING", 30), ("WARN", 30), ("INFO", 20),
   ("DEBUG", 10), ("NOTSET", 0)]

/-- What goes by the name of a level: a level, or by chance the format or the table of styles that the
logging library names in the same way. -/
inductive NamedLevel where
  | number (n : Nat)
  | format
  | styles
  deriving Repr, DecidableEq

/-- The format that has a name like a level. -/
def basicFormat : String := "%(levelname)s:%(name)s:%(message)s"

/-- The text that shows the table of styles. -/
def stylesShown : String :=
  let style (mark cls format : String) : String :=
    Text.quoted mark ++ ": (<class 'logging." ++ cls ++ "'>, " ++ Text.quoted format ++ ")"
  Value.inBraces
    [style "%" "PercentStyle" basicFormat,
     style "\x7b" "StrFormatStyle" "\x7blevelname\x7d:\x7bname\x7d:\x7bmessage\x7d",
     style "$" "StringTemplateStyle" "$\x7blevelname\x7d:$\x7bname\x7d:$\x7bmessage\x7d"]

/-- Why loggers cannot be set up. -/
inductive LoggingError where
  | unknownLevel (name : String)
  /-- A handler cannot have this for its level. -/
  | notLevel (given : NamedLevel)
  | badTemplate (flaw : Template.Flaw)
  | trouble (t : Trouble)
  deriving Repr, DecidableEq

/-- What is raised for an error. -/
def LoggingError.raised : LoggingError → Raised
  | unknownLevel name =>
    Raised.ofText "AttributeError" ("module 'logging' has no attribute '" ++ name ++ "'")
  | notLevel .styles =>
    Raised.ofText "TypeError" ("Level not an integer or a valid string: " ++ stylesShown)
  | notLevel _ => Raised.ofText "ValueError" ("Unknown level: " ++ Text.quoted basicFormat)
  | badTemplate f => Raised.ofText "ValueError" ("invalid format: " ++ f.message)
  | trouble t => .other (OtherError.ofTrouble t)

/-- What a text names as a level, in letters of any case. -/
def levelNamed (s : String) : Except LoggingError NamedLevel :=
  let name := Text.upper s
  if name = "BASIC_FORMAT" then .ok .format
  else if name = "_STYLES" then .ok .styles
  else match levelTable.lookup name with
    | some n => .ok (.number n)
    | none => .error (.unknownLevel name)

/-- The number of a level, if it is one. -/
def NamedLevel.number? : NamedLevel → Except LoggingError Nat
  | number n => .ok n
  | other => .error (.notLevel other)

/-- The template that a format is. An empty one stands for the message alone. -/
def templateOf (format : String) : Except LoggingError String :=
  let template := if format = "" then "\x7bmessage\x7d" else format
  match Template.flaw? template.toList with
  | some f => .error (.badTemplate f)
  | none => .ok template

/-- What has become of the log file: none was asked for, it is open, or it cannot be made. -/
inductive LogFile where
  | none
  | opened (names : List String)
  | missing (notice : String)
  deriving Repr, DecidableEq

/-- The notice about a log file that cannot be made. -/
def unwritableLog (path : Path) (t : Trouble) : String :=
  "Could not write to buildfuncs log at '" ++ path.text ++ "': " ++ t.message

/-- Opens the log file, with the files as they are afterwards, whether it can be opened or not. -/
def openLog (files : FileTree) : Option Path → Except LoggingError LogFile × FileTree
  | none => (.ok .none, files)
  | some path =>
    match files.touch path with
    | .error t =>
      match t with
      | .system .notFound _ => (.ok (.missing (unwritableLog path t)), files)
      | _ => (.error (.trouble t), files)
    | .ok touched =>
      match touched.openToAdd (path.absolute touched.current) with
      | .error t => (.error (.trouble t), touched)
      | .ok (opened, names) => (.ok (.opened names), opened)

/-- The template of the lines of the plugin logger: the time and the message, in red. -/
def pluginTemplate : String :=
  colorOn Color.red.code ++ "\x7basctime\x7d \x7bmessage\x7d" ++ colorOff

/-- What setting up has come to: whether the log file can be used, the loggers, and what was written. -/
structure LogSetup where
  outcome : Except LoggingError Bool
  loggers : Loggers
  output : LogOutput

namespace Loggers

/-- Adds handlers to the root logger. -/
def addRootHandlers (l : Loggers) (hs : List Handler) : Loggers :=
  { l with rootHandlers := l.rootHandlers ++ hs }

/-- Lets the root logger pass everything, and the plugin logger report to the error output. -/
def openUp (l : Loggers) : Loggers :=
  { l with
    rootLevel := Level.debug.number
    pluginLevel := Level.info.number
    pluginHandlers := l.pluginHandlers ++ [⟨.errorOutput, 0, pluginTemplate⟩] }

/-- The level of the handler of the error output, if there is to be one: everything if it is asked for, and
the given level if there is no other handler. -/
def errorLevel? (l : Loggers) (verbose : Bool) (level : NamedLevel) :
    Except LoggingError (Option Nat) :=
  if verbose then .ok (some Level.debug.number)
  else if l.rootHandlers.isEmpty then level.number?.map some
  else .ok none

/-- Lets everything pass, and adds the handler of the error output if there is to be one. -/
def report (l : Loggers) (verbose : Bool) (level : NamedLevel) (template : String) :
    Except LoggingError Unit × Loggers :=
  let opened := l.openUp
  match opened.errorLevel? verbose level with
  | .error e => (.error e, opened)
  | .ok none => (.ok (), opened)
  | .ok (some n) => (.ok (), opened.addRootHandlers [⟨.errorOutput, n, template⟩])

/-- The loggers for a level, a template and a log file, and whether all handlers could be set up. -/
def configure (l : Loggers) (verbose : Bool) (level : NamedLevel) (template : String)
    (file : LogFile) : Except LoggingError Unit × Loggers :=
  match file, level.number? with
  | .opened _, .error e => (.error e, l)
  | .opened names, .ok n =>
    (l.addRootHandlers [⟨.file names, n, template⟩]).report verbose level template
  | _, _ => l.report verbose level template

/-- Sets up the loggers. -/
def setUp (l : Loggers) (o : LogOutput) (columns : Int) (c : Config) (verbose : Bool) : LogSetup :=
  match levelNamed c.logLevel with
  | .error e => ⟨.error e, l, o⟩
  | .ok level =>
    match templateOf c.logFormat with
    | .error e => ⟨.error e, l, o⟩
    | .ok template =>
      let (opening, files) := openLog o.files c.logFile
      let o := { o with files }
      match opening with
      | .error e => ⟨.error e, l, o⟩
      | .ok file =>
        let (outcome, loggers) := l.configure verbose level template file
        match file with
        | .missing notice =>
          ⟨outcome.map fun _ => false, loggers, o.add (noticeText columns notice) .errorOutput⟩
        | _ => ⟨outcome.map fun _ => true, loggers, o⟩

end Loggers

end BuildScript
