import BuildScript.Session

/-!
Fixtures for tests of functions: task builders that are made from a few names, and what a test expects of
a call. A value is as expected only if it is of the very same type.
-/

namespace BuildScript

open Files (Path)

/-- The directory in which the files of fixtures' assemblies lie. -/
def fixtureDirectory : Path := Path.ofText "/opt/tasks"

/-- A task builder with its assembly. The class of its tasks is named for the task. -/
def TaskBuilder.forTest (id : Nat) (name assembly version : String) : TaskBuilder :=
  let location := fixtureDirectory.join (Path.ofText (assembly ++ ".py"))
  { id, name
    assembly := .assembly { name := assembly, version, location := some location }
    className := Text.title name ++ "Task" }

/-- What is expected of a call: a value, or a failure of a kind. -/
inductive Expectation where
  | value (v : Value)
  | failure (kind : FailureKind)
  deriving Repr

namespace Expectation

/-- Whether the result of a call is as expected. -/
def isMetBy : Expectation → CallResult → Bool
  | value expected, .value v => v.eq expected && v.type = expected.type
  | failure kind, .failure f => f.kind = kind
  | _, _ => false

end Expectation

/-- The message of a failed call. -/
def CallResult.message? : CallResult → Option String
  | value _ => none
  | failure f => some f.message

end BuildScript
