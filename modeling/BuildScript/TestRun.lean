import BuildScript.Files.Path
import BuildScript.Glob
import BuildScript.Output

/-!
Running the tests of a class. When a test is looked up, globs on its names can deselect it, and it is given
out as one to be skipped; whoever runs it then reports that and runs nothing. Around the body of every
other test something is set up and torn down. What a test came to is reported in its colour.
-/

namespace BuildScript

open Files (Path)

/-- What a test comes to, or a piece of its code. -/
inductive TestOutcome where
  | passed
  | failed
  | broken
  | skipped (reason : String)
  deriving Repr, DecidableEq

/-- How a method is called: on the instance, on the class, or on nothing. -/
inductive MethodKind where
  | ofInstance
  | ofClass
  | static
  deriving Repr, DecidableEq

/-- A test: the name under which its class has it, the name and the kind of the function that is written
down there, and what its body comes to. -/
structure TestMethod where
  name : String
  written : String := name
  kind : MethodKind := .ofInstance
  outcome : TestOutcome
  deriving Repr, DecidableEq

/-- The tests of a class, in the order in which they are run, and what its set-up and its tear-down come
to. -/
structure TestClass where
  name : String
  moduleName : String
  file : Path
  tests : List TestMethod
  setUp : TestOutcome := .passed
  tearDown : TestOutcome := .passed
  deriving Repr

/-- Which tests are wanted: none that match a glob of `skip`, or, where that list is empty, only those that
match a glob of `only`. If both lists are empty all tests are wanted. -/
structure TestSelection where
  skip : List String := []
  only : List String := []
  deriving Repr, DecidableEq

/-- What happens while tests are run. -/
inductive TestEvent where
  | setUp
  | body (test : String)
  | tearDown
  deriving Repr, DecidableEq

/-- The text of an event. -/
def TestEvent.text : TestEvent → String
  | setUp => "set_up"
  | body test => test
  | tearDown => "tear_down"

/-- How much is reported of a test: nothing, a character, or a line. -/
inductive Verbosity where
  | quiet
  | dots
  | lines
  deriving Repr, DecidableEq

/-- The verbosity of a number. -/
def Verbosity.ofInt (n : Int) : Verbosity := if n = 1 then dots else if 1 < n then lines else quiet

/-- What the name of a test begins with. -/
def testMark : String := "test_"

/-- The reason for which a test that is deselected is skipped. -/
def deselectedReason : String := "via cmdline"

/-- Whether one of the names matches one of the globs. Letters in globs match those of names in any case:
names are given in small letters. -/
def anyMatch (globs names : List String) : Bool :=
  globs.any fun g => names.any fun n => globMatches (Text.lower g) n

namespace TestSelection

/-- Whether something with these names is not wanted. -/
def excludes (s : TestSelection) (names : List String) : Bool :=
  if s.skip.isEmpty then !s.only.isEmpty && !anyMatch s.only names else anyMatch s.skip names

end TestSelection

namespace TestOutcome

/-- The colour of an outcome. -/
def color : TestOutcome → Color
  | passed => .green
  | failed => .magenta
  | broken => .red
  | skipped _ => .cyan

/-- The character for an outcome. -/
def dot : TestOutcome → String
  | passed => "."
  | failed => "F"
  | broken => "E"
  | skipped _ => "s"

/-- The line for an outcome. -/
def line : TestOutcome → String
  | passed => "ok\n"
  | failed => "FAIL\n"
  | broken => "ERROR\n"
  | skipped reason => "skipped " ++ Text.quoted reason ++ "\n"

end TestOutcome

/-- Whether the globs are asked about a test: it is bound to something when it is looked up, and the name
that its function is written down with begins as those of tests do. -/
def TestMethod.isMarked (t : TestMethod) : Bool := t.kind ≠ .static && t.written.startsWith testMark

/-- What a class gives out for the name of a test: what the test does, and the reason for which it is to be
skipped. -/
structure Fetched where
  does : TestOutcome
  skipReason? : Option String
  deriving Repr, DecidableEq

namespace TestClass

/-- The names by which a test can be selected, in small letters: its own, that of its class, and that of
the file. -/
def selectors (c : TestClass) (t : TestMethod) : List String :=
  [Text.lower (String.ofList (t.written.toList.drop testMark.length)), Text.lower c.name,
   Text.lower c.file.stem]

/-- Looks a test up. One that is marked and not wanted is given out as one to be skipped. -/
def fetch (c : TestClass) (s : TestSelection) (t : TestMethod) : Fetched :=
  ⟨t.outcome, if t.isMarked && s.excludes (c.selectors t) then some deselectedReason else none⟩

/-- The text that names a test. -/
def describe (c : TestClass) (t : TestMethod) : String :=
  t.name ++ " (" ++ c.moduleName ++ "." ++ c.name ++ "." ++ t.name ++ ")"

end TestClass

/-- What was reported of a test. -/
structure TestResult where
  name : String
  outcome : TestOutcome
  deriving Repr, DecidableEq

/-- What running tests has come to: how many were started, what was reported of each, what happened, and
what was printed. -/
structure TestReport where
  started : Nat := 0
  results : List TestResult := []
  events : List TestEvent := []
  output : String := ""
  /-- Whether what is printed next is at the beginning of a line. -/
  fresh : Bool := true
  deriving Repr, DecidableEq

namespace TestReport

/-- The tests that came to something. -/
def withOutcome (r : TestReport) (o : TestOutcome) : List String :=
  (r.results.filter fun t => t.outcome = o).map (·.name)

/-- The tests that were skipped, with the reasons. -/
def skipped (r : TestReport) : List (String × String) :=
  r.results.filterMap fun t => match t.outcome with
    | .skipped reason => some (t.name, reason)
    | _ => none

/-- Prints a text. -/
def write (r : TestReport) (text : String) : TestReport := { r with output := r.output ++ text }

/-- Something happens. -/
def happen (r : TestReport) (e : TestEvent) : TestReport := { r with events := r.events ++ [e] }

/-- Starts a test, which is named by a text. -/
def start (r : TestReport) (v : Verbosity) (about : String) : TestReport :=
  let r := { r with started := r.started + 1 }
  if v = .lines then { r.write (about ++ " ... ") with fresh := false } else r

/-- Prints the mark of an outcome. A line for a test whose name does not stand in front of it begins with
that name. -/
def mark (r : TestReport) (v : Verbosity) (about : String) (o : TestOutcome) : TestReport :=
  match v with
  | .quiet => r
  | .dots => r.write o.dot
  | .lines =>
    let r := if r.fresh then r.write (about ++ " ... ") else r
    { r.write o.line with fresh := true }

/-- Puts an outcome on record and prints its mark in its colour. -/
def add (r : TestReport) (v : Verbosity) (name about : String) (o : TestOutcome) : TestReport :=
  let r := r.write (colorOn o.color.code)
  let r := { r with results := r.results ++ [TestResult.mk name o] }
  (r.mark v about o).write colorOff

/-- Runs a piece of the code of a test, and adds what went wrong in it. -/
def part (r : TestReport) (v : Verbosity) (name about : String) (e : TestEvent) (o : TestOutcome) :
    TestReport :=
  let r := r.happen e
  if o = .passed then r else r.add v name about o

end TestReport

namespace TestClass

/-- Runs a test behind what was run before: it is started and looked up, and if it is not to be skipped,
set up; if that goes well its body is run, and it is torn down; if all goes well it has passed. -/
def runOne (c : TestClass) (s : TestSelection) (v : Verbosity) (r : TestReport) (t : TestMethod) :
    TestReport :=
  let about := c.describe t
  let r := r.start v about
  let fetched := c.fetch s t
  match fetched.skipReason? with
  | some reason => r.add v t.name about (.skipped reason)
  | none =>
    let r := r.part v t.name about .setUp c.setUp
    if c.setUp = .passed then
      let r := r.part v t.name about (.body t.name) fetched.does
      let r := r.part v t.name about .tearDown c.tearDown
      if fetched.does = .passed ∧ c.tearDown = .passed then r.add v t.name about .passed else r
    else r

/-- Runs the tests of a class. -/
def run (c : TestClass) (s : TestSelection) (v : Verbosity) : TestReport :=
  c.tests.foldl (c.runOne s v) {}

end TestClass

end BuildScript
