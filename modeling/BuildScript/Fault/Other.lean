import BuildScript.Files.Trouble
import BuildScript.Value.Copy
import BuildScript.Value.Equal
import BuildScript.Value.Obstacle

/-!
Errors from outside the library: a class and arguments. An error of the system that has a number and a
text may also be about files, which are then no longer among its arguments, and the number decides its
class if it is given as the most general one.
-/

namespace BuildScript

/-- An error from outside the library. -/
structure OtherError where
  className : String
  args : List Value
  /-- The files that an error of the system is about. -/
  files : List Value := []
  /-- What the error says, where its arguments do not say it. -/
  said : Option String := none
  deriving Repr, Inhabited

namespace OtherError

/-- An error whose only argument is a text. -/
def ofText (className message : String) : OtherError := { className, args := [.text message] }

/-- An error that says something. -/
def saying (className message : String) : OtherError :=
  { className, args := [], said := some message }

/-- The class of all errors of the system. -/
def systemError : String := "OSError"

/-- The class of errors of operations that would have to wait. -/
def waitError : String := "BlockingIOError"

/-- The classes of errors of the system. -/
def systemClasses : List String :=
  [systemError, waitError, "FileNotFoundError", "FileExistsError", "IsADirectoryError",
   "NotADirectoryError", "PermissionError", "BrokenPipeError", "ChildProcessError",
   "ConnectionError", "ConnectionAbortedError", "ConnectionRefusedError", "ConnectionResetError",
   "InterruptedError", "ProcessLookupError", "TimeoutError"]

/-- The class of an error of the system with a number. -/
def classOfCode (code : Int) : String :=
  match code with
  | 1 | 13 => "PermissionError"
  | 2 => "FileNotFoundError"
  | 3 => "ProcessLookupError"
  | 4 => "InterruptedError"
  | 10 => "ChildProcessError"
  | 11 | 114 | 115 => waitError
  | 17 => "FileExistsError"
  | 20 => "NotADirectoryError"
  | 21 => "IsADirectoryError"
  | 32 | 108 => "BrokenPipeError"
  | 103 => "ConnectionAbortedError"
  | 104 => "ConnectionResetError"
  | 110 => "TimeoutError"
  | 111 => "ConnectionRefusedError"
  | _ => systemError

/-- Whether an error of a class with so many arguments is one of the system with a number and a text. -/
def isNumbered (className : String) (count : Nat) : Bool :=
  systemClasses.contains className && 2 ≤ count && count ≤ 5

/-- The class of an error of the system whose number is a value. -/
def classOfNumber (className : String) (number : Value) : String :=
  if className = systemError then ((number.integer?).map classOfCode).getD className
  else className

/-- The error that counts what was written before the wait, if a value can count it. -/
def counted (e : OtherError) (count : Value) : Option (Except OtherError OtherError) :=
  match count.bare, count.integer? with
  | .float _, _ =>
    some (.error (ofText "TypeError"
      ("'" ++ count.type.name ++ "' object cannot be interpreted as an integer")))
  | _, some i =>
    let limit : Int := Nat.pow 2 63
    some (if -limit ≤ i ∧ i < limit then .ok e
      else .error (ofText "ValueError"
        ("cannot fit '" ++ count.type.name ++ "' into an index-sized integer")))
  | _, none => none

/-- The files that arguments behind the number and the text name: the first, and the third if there is the
first. -/
def filesOf : List Value → List Value
  | [] => []
  | .none :: _ => []
  | [file, _, .none] => [file]
  | [file, _, other] => [file, other]
  | file :: _ => [file]

/-- The error that a class makes of arguments, or the error that comes of trying that. -/
def make (className : String) (args : List Value) : Except OtherError OtherError :=
  match isNumbered className args.length, args with
  | true, number :: text :: more =>
    let cls := classOfNumber className number
    let filed := match filesOf more with
      | [] => { className := cls, args }
      | files => { className := cls, args := [number, text], files }
    match more with
    | count :: _ =>
      if cls = waitError then (counted { className := cls, args } count).getD (.ok filed)
      else .ok filed
    | [] => .ok filed
  | _, _ => .ok { className, args }

/-- The values that the text of an error shows. -/
def parts (e : OtherError) : List Value :=
  if isNumbered e.className e.args.length then e.args.take 2 ++ e.files else e.args

/-- The text of an error: of an error of the system its number, text and files; of a missing key the key
as it is shown; else its argument, or all of them if there are several. -/
def text (e : OtherError) : String :=
  match e.said, isNumbered e.className e.args.length, e.args with
  | some s, _, _ => s
  | none, true, number :: text :: _ =>
    let about := " -> ".intercalate (e.files.map Value.shown)
    "[Errno " ++ number.plain ++ "] " ++ text.plain ++ (if e.files.isEmpty then "" else ": " ++ about)
  | _, _, [] => ""
  | _, _, [a] => if e.className = "KeyError" then a.shown else a.plain
  | _, _, args => (Value.tuple args).shown

/-- What stands against the text of an error. -/
def obstacle? (e : OtherError) : Option Obstacle := Value.obstacleAll? e.parts

/-- The text by which a layout shows the error: its first argument if that is a text, else the text of the
error if that can be shown. -/
def layoutText (e : OtherError) : Except Obstacle String :=
  match e.args.head?.bind Value.text? with
  | some s => .ok s
  | none => Value.barring e.text e.obstacle?

/-- The error that a trouble with a path is. -/
def ofTrouble (t : Files.Trouble) : OtherError :=
  match t with
  | .system e path =>
    { className := t.className, args := [.int e.code, .text e.text], files := [.text path] }
  | _ => ofText t.className t.message

end OtherError

end BuildScript
