import BuildScript.Files.Probe
import BuildScript.FunctionSet.Basic

/-!
The function sets of the library itself. They answer questions about the build: the project, its
targets, tasks and properties, the platform, and the library. Whether a thing exists is always
answered; what is asked of a thing that does not exist is a fault.
-/

namespace BuildScript

open Files (Path)

namespace Core

/-- The name of the library. -/
def libraryName : String := "buildfuncs"

/-- The version of the library. -/
def libraryVersion : String := "0.3.0"

/-- The identity of the library that was loaded from a directory. -/
def libraryAssembly (directory : Path) : Assembly :=
  { name := libraryName, version := libraryVersion, location := some directory }

/-- A method that only looks at the build. -/
def query (receiver : Receiver) (params : List String) (doc : String)
    (f : Scene → List Value → Except Raised Value) : Method :=
  { receiver, doc := some doc
    written := (if receiver = .nothing then params else "self" :: params).map fun n => { name := n }
    run := fun s memory args => { result := f s args, memory } }

/-- A method of a bound set without parameters. -/
def plainQuery (doc : String) (f : Scene → Except Raised Value) : Method :=
  query .boundSet [] doc fun s _ => f s

/-- A method of a bound set that is asked about something by name. -/
def namedQuery (doc : String) (f : Scene → String → Except Raised Value) : Method :=
  query .boundSet ["name"] doc fun s args =>
    match args with
    | name :: _ => f s (name.text?.getD "")
    | [] => f s ""

/-- An entry whose method has the name of the function, with `_` for `-`. -/
def entry (name : String) (params : List TypeName := []) (returns : TypeName := .text) : Entry :=
  { name := .text name
    method := String.ofList (name.toList.map fun c => if c = '-' then '_' else c)
    params := params.map .type, returns := .type returns }

/-- A fault of a class with a message. -/
def fault {α : Type} (cls : FaultClass) (message : String) : Except Raised α :=
  .error (.fault (.of cls message))

/-- What a trouble with a path raises. -/
def troubled {α : Type} (t : Files.Trouble) : Except Raised α :=
  .error (.other (.ofTrouble t))

/-- A class of the library, whose sets remember nothing. -/
def setClass (id : Nat) (name file space doc : String) (entries : List Entry)
    (methods : List (String × Method)) : SetClass :=
  { id, name, file := .ok file, space := .text space, doc := some doc, entries
    attributes := methods.foldl (fun t m => t.put m.1 (.method m.2)) .empty
    construct := fun _ => .ok .empty }

/-! ## The library and the files that it can find -/

/-- Looks for a file in the probing paths of the project. -/
def scanProbingPaths (s : Scene) (name : String) : Except Raised Value × List Record :=
  let found := s.host.tree.probe s.project.probingPaths name true
  let result : Except Raised Value :=
    match found.outcome with
    | .error t => troubled t
    | .ok none =>
      fault .fileNotFound
        ("'" ++ name ++ "' could not be found in any of the configured probing paths.")
    | .ok (some p) => .ok (.text p.text)
  (result, found.log)

/-- The method that looks for a file. -/
def scanMethod : Method :=
  { written := [{ name := "self" }, { name := "file_name" }]
    doc := some <| "Searches the configured probing paths for the given file (name including the "
      ++ "extension), returning its absolute path. The paths are scanned recursively in the order "
      ++ "they were configured."
    run := fun s memory args =>
      let (result, log) := scanProbingPaths s ((args.head?.bind Value.text?).getD "")
      { result, memory, events := log.map .logged } }

/-- Functions about the library. -/
def libraryFunctions (file : String) : SetClass :=
  setClass 1 "NAntFunctions" file "nant"
    "Functions about the function library itself and the framework files it can find."
    [entry "get-base-directory", entry "get-assembly" [] .assembly, entry "scan-probing-paths" [.text]]
    [("get_base_directory", query .nothing [] "Gets the directory the function library was loaded from."
        fun s _ => .ok (.text s.host.libraryDir.text)),
     ("get_assembly", query .nothing [] "Gets the identity of the function library."
        fun s _ => .ok (.assembly (libraryAssembly s.host.libraryDir))),
     ("scan_probing_paths", scanMethod)]

/-! ## The project -/

/-- Functions about the project. -/
def projectFunctions (file : String) : SetClass :=
  setClass 2 "ProjectFunctions" file "project" "Functions that describe the current project."
    [entry "get-name", entry "get-buildfile-uri", entry "get-buildfile-path",
     entry "get-default-target", entry "get-base-directory"]
    [("get_name", plainQuery
        ("Gets the name of the current project, or an empty string if no name is given in the "
          ++ "build file.")
        fun s => .ok (.text (s.project.name.getD ""))),
     ("get_buildfile_uri", plainQuery
        ("Gets the URI form of the build file, or an empty string if the project is not file "
          ++ "backed.")
        fun s => match s.project.buildFileUri s.host.tree with
          | .ok uri => .ok (.text uri)
          | .error t => troubled t),
     ("get_buildfile_path", plainQuery
        ("Gets the local path to the build file, or an empty string if the project is not file "
          ++ "backed.")
        fun s => .ok (.text s.project.buildFilePath)),
     ("get_default_target", plainQuery
        ("Gets the name of the target that runs when no other targets are specified, or an empty "
          ++ "string if there is no default target.")
        fun s => .ok (.text (s.project.defaultTarget.getD ""))),
     ("get_base_directory", plainQuery "Gets the base directory of the current project."
        fun s => .ok (.text s.project.baseDir.text))]

/-! ## Targets -/

/-- Functions about targets. -/
def targetFunctions (file : String) : SetClass :=
  setClass 3 "TargetFunctions" file "target" "Functions that query the project's targets."
    [entry "exists" [.text] .bool, entry "get-current-target", entry "has-executed" [.text] .bool]
    [("exists", namedQuery "Checks whether the specified target exists."
        fun s name => .ok (.bool (s.project.targets.contains name))),
     ("get_current_target", plainQuery "Gets the name of the target being executed."
        fun s => match s.project.current with
          | some m => .ok (.text m.made.name)
          | none => fault .invalidState "No target is being executed."),
     ("has_executed", namedQuery "Checks whether the specified target has already been executed."
        fun s name => match s.project.targets.get? name with
          | some m => .ok (.bool (s.project.hasExecuted m))
          | none => fault .unknownTarget ("Target '" ++ name ++ "' does not exist."))]

/-! ## Tasks -/

/-- Functions about tasks. -/
def taskFunctions (file : String) : SetClass :=
  setClass 4 "TaskFunctions" file "task" "Functions that query the available tasks."
    [entry "exists" [.text] .bool, entry "get-assembly" [.text] .assembly]
    [("exists", namedQuery "Checks whether the specified task exists."
        fun s name => .ok (.bool (s.project.tasks.contains name))),
     ("get_assembly", namedQuery
        "Returns the assembly from which the specified task was loaded."
        fun s name => match s.project.tasks.get? name with
          | some b => .ok b.assembly
          | none => fault .unknownTask ("Task '" ++ name ++ "' is not available."))]

/-! ## Properties -/

/-- What is asked of a property that has to exist. -/
def ofProperty (s : Scene) (name : String) (f : Property → Value) : Except Raised Value :=
  match s.properties.get? name with
  | some p => .ok (f p)
  | none => fault .unknownProperty ("Property '" ++ name ++ "' has not been set.")

/-- Functions about properties. -/
def propertyFunctions (file : String) : SetClass :=
  setClass 5 "PropertyFunctions" file "property" "Functions that query build properties."
    [entry "exists" [.text] .bool, entry "get-value" [.text],
     entry "is-readonly" [.text] .bool,
     entry "is-dynamic" [.text] .bool]
    [("exists", namedQuery "Checks whether the specified property exists."
        fun s name => .ok (.bool (s.properties.contains name))),
     ("get_value", namedQuery "Gets the value of the specified property."
        fun s name => ofProperty s name (·.value)),
     ("is_readonly", namedQuery "Checks whether the specified property is read-only."
        fun s name => ofProperty s name (.bool ·.readOnly)),
     ("is_dynamic", namedQuery "Checks whether the specified property is a dynamic property."
        fun s name => ofProperty s name (.bool ·.dynamic))]

/-! ## The platform -/

/-- Functions about the platform. -/
def platformFunctions (file : String) : SetClass :=
  setClass 6 "PlatformFunctions" file "platform" "Functions that describe the host platform."
    [entry "get-name", entry "is-win32" [] .bool, entry "is-unix" [] .bool]
    [("get_name", plainQuery "Gets the name of the platform the build is running on."
        fun s => .ok (.text s.project.platform.name)),
     ("is_win32", plainQuery "Checks whether the build is running on the win32 platform."
        fun s => .ok (.bool s.project.platform.isWin32)),
     ("is_unix", plainQuery "Checks whether the build is running on unix."
        fun s => .ok (.bool s.project.platform.isUnix))]

/-! ## Assemblies -/

/-- What is asked of an assembly. -/
def ofAssembly (asked : String) (doc : String) (f : Assembly → String) : Method :=
  query .nothing ["assembly"] doc fun _ args =>
    match args with
    | .assembly a :: _ => .ok (.text (f a))
    | v :: _ => .error (Raised.ofText "AttributeError"
        ("'" ++ v.type.name ++ "' object has no attribute '" ++ asked ++ "'"))
    | [] => .ok .none

/-- Functions about assemblies. -/
def assemblyFunctions (file : String) : SetClass :=
  setClass 7 "AssemblyFunctions" file "assembly"
    ("Functions that describe assemblies returned by other functions, such as "
      ++ "task::get-assembly.")
    [entry "get-full-name" [.assembly], entry "get-name" [.assembly],
     entry "get-version" [.assembly], entry "get-location" [.assembly]]
    [("get_full_name", ofAssembly "full_name"
        "Gets the full name (name and version) of the assembly." (·.fullName)),
     ("get_name", ofAssembly "name" "Gets the simple name of the assembly." (·.name)),
     ("get_version", ofAssembly "version" "Gets the version of the assembly." (·.version)),
     ("get_location", ofAssembly "location"
        ("Gets the path the assembly was loaded from, or an empty string if it wasn't loaded from "
          ++ "a file.")
        fun a => (a.location.map (·.text)).getD "")]

/-- The function sets of the library, written in a file, in the order in which they are
registered. -/
def classes (file : String) : List SetClass :=
  [libraryFunctions file, projectFunctions file, targetFunctions file, taskFunctions file,
   propertyFunctions file, platformFunctions file, assemblyFunctions file]

end Core

end BuildScript
