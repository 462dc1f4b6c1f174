import BuildScript.Files.Resolve
import BuildScript.Table
import BuildScript.Text.Percent
import BuildScript.Value.Obstacle

/-!
The project that is being built: where it lies, its targets, properties and tasks, and which target is
being executed. Targets are individuals: the same one stays the same when it is found again, and a new
one of the same name is another. A target has executed if it was made so or if its execution has ended.
-/

namespace BuildScript

open Files (Path FileTree Trouble)

/-- A property of the build and its flags. -/
structure Property where
  value : Value
  readOnly : Bool := false
  dynamic : Bool := false
  deriving Repr, Inhabited

/-- The text that shows a property, if its value can be shown. -/
def Property.display (name : String) (p : Property) : Except Obstacle String :=
  (Value.property 0 name p.value p.readOnly p.dynamic).display

/-- The properties of a build, by name. -/
abbrev Properties := Table String Property

/-- A maker of one kind of task, and the assembly that it comes from. -/
structure TaskBuilder where
  id : Nat
  name : String
  assembly : Value
  className : String := ""
  deriving Repr, Inhabited

/-- The task builder as a value. -/
def TaskBuilder.value (b : TaskBuilder) : Value := .taskBuilder b.id b.name b.assembly b.className

/-- A target as an individual: its identity, and what it was made as. -/
structure Member where
  id : Nat
  made : Target
  deriving Repr, DecidableEq, Inhabited

/-- The state of a build. A missing name counts as an empty one. -/
structure Project where
  baseDir : Path
  name : Option String := some ""
  buildFile : Option Path := none
  defaultTarget : Option String := some ""
  platform : Platform
  probingPaths : List Path := []
  /-- The target that is being executed. -/
  current : Option Member := none
  targets : Table String Member := .empty
  /-- The identities of the targets whose execution has ended. -/
  ended : List Nat := []
  properties : Properties := .empty
  tasks : Table String TaskBuilder := .empty

/-- What is missing from a project. -/
inductive Missing where
  | target (name : String) (available : List String)
  | property (name : String)
  deriving Repr, DecidableEq

/-- The message that says what is missing. -/
def Missing.message : Missing → String
  | target name available =>
    "No target named '" ++ name ++ "'. Available targets are: "
      ++ (Value.tuple (available.map .text)).shown
  | property name => "Property '" ++ name ++ "' has not been set."

/-- An execution that has begun: its target, and the one that it interrupts. -/
structure Execution where
  target : Member
  interrupted : Option Member
  deriving Repr, DecidableEq

namespace Project

/-- Whether a target has executed. -/
def hasExecuted (p : Project) (m : Member) : Bool := m.made.executed || p.ended.contains m.id

/-- The target as it is now. -/
def view (p : Project) (m : Member) : Target := { m.made with executed := p.hasExecuted m }

/-- Adds a target; it takes the place of one of the same name. -/
def addTarget (p : Project) (m : Member) : Project :=
  { p with targets := p.targets.put m.made.name m }

/-- The project with these targets and no others. -/
def withTargets (p : Project) (ms : List Member) : Project :=
  { p with targets := ms.foldl (fun t m => t.put m.made.name m) .empty }

/-- The target of a name. -/
def target (p : Project) (name : String) : Except Missing Member :=
  match p.targets.get? name with
  | some m => .ok m
  | none => .error (.target name p.targets.keys)

/-- Begins to execute the target of a name. -/
def enter (p : Project) (name : String) : Except Missing (Project × Execution) := do
  let m ← p.target name
  return ({ p with current := some m }, ⟨m, p.current⟩)

/-- Ends an execution: its target has executed, and the one that it interrupted goes on. -/
def leave (p : Project) (e : Execution) : Project :=
  { p with current := e.interrupted, ended := e.target.id :: p.ended }

/-- Adds a task builder; it takes the place of one of the same name. -/
def addTask (p : Project) (b : TaskBuilder) : Project := { p with tasks := p.tasks.put b.name b }

/-- The project with these task builders and no others. -/
def withTasks (p : Project) (bs : List TaskBuilder) : Project :=
  { p with tasks := bs.foldl (fun t b => t.put b.name b) .empty }

/-- The path of the build file, or nothing. -/
def buildFilePath (p : Project) : String :=
  match p.buildFile with
  | none => ""
  | some f => f.text

/-- The build file as a URI, or nothing. -/
def buildFileUri (p : Project) (tree : FileTree) : Except Trouble String :=
  match p.buildFile with
  | none => .ok ""
  | some f => (tree.resolve f).map fun r => "file://" ++ Text.percentEncode r.text

end Project

/-- The property of a name. -/
def Properties.find (ps : Properties) (name : String) : Except Missing Property :=
  match ps.get? name with
  | some q => .ok q
  | none => .error (.property name)

end BuildScript
