import BuildScript.FunctionSet.Basic

/-!
What a name stands for in a class of function sets, and in its sets. A class has what it writes down
itself, what the class of all function sets writes down, and what the language gives to all objects and
to all classes. The last a set does not have, and some names mean to a class what the language says,
whatever it writes down. The names are those of one version of the language.
-/

namespace BuildScript

namespace Inherited

/-- A method of the language with these parameters. -/
def ofLanguage (name : String) (written : List Parameter) (doc : String) : String × Method :=
  (name, { written, doc := some doc, foreign := true
           run := fun s memory args => { result := s.host.language name memory args, memory } })

/-- One that is called on an object, with parameters for its arguments. -/
def ofObjects (name : String) (params : List String) (doc : String) : String × Method :=
  ofLanguage name (({ name := "self" } : Parameter) :: params.map fun n => { name := n }) doc

/-- One that takes whatever it is given. -/
def ofAnything (name doc : String) : String × Method :=
  ofLanguage name [{ name := "args", kind := .variadic }, { name := "kwargs", kind := .keywords }] doc

/-- One that does not tell its parameters. -/
def untold (name shown : String) : String × Method :=
  (name, { (ofLanguage name [] "").2 with
           untold := some (Raised.ofText "ValueError" ("no signature found for builtin " ++ shown)) })

/-- What the constructor of every set says of itself. -/
def constructorDoc : String :=
  "\n        :param buildfuncs.context.ProjectContext project: The live project\n"
    ++ "            context.\n"
    ++ "        :param buildfuncs.context.PropertyDictionary properties: The live\n"
    ++ "            property dictionary. Defaults to the project's own.\n        "

/-- The parameters of the constructor of every set behind the set. -/
def constructorParams : List Parameter :=
  [{ name := "project" }, { name := "properties", optional := true }]

/-- The constructor of every set. What it does with the project and the properties is not followed: a
set sees those that it was bound to. -/
def constructor : Method :=
  { written := { name := "self" } :: constructorParams, doc := some constructorDoc
    title := some "FunctionSet.__init__", run := fun _ memory _ => { result := .ok .none, memory } }

/-- What classes and their sets have. -/
def shared (shownBuiltin : String → String) : List (String × Method) :=
  [("__init__", constructor),
   ofObjects "__delattr__" ["name"] "Implement delattr(self, name).",
   ofObjects "__dir__" [] "Default dir() implementation.",
   ofObjects "__eq__" ["value"] "Return self==value.",
   ofObjects "__format__" ["format_spec"] "Default object formatter.",
   ofObjects "__ge__" ["value"] "Return self>=value.",
   ofObjects "__getattribute__" ["name"] "Return getattr(self, name).",
   ofObjects "__getstate__" [] "Helper for pickle.",
   ofObjects "__gt__" ["value"] "Return self>value.",
   ofObjects "__hash__" [] "Return hash(self).",
   ofObjects "__le__" ["value"] "Return self<=value.",
   ofObjects "__lt__" ["value"] "Return self<value.",
   ofObjects "__ne__" ["value"] "Return self!=value.",
   ofAnything "__new__" "Create and return a new object.  See help(type) for accurate signature.",
   ofObjects "__reduce__" [] "Helper for pickle.",
   ofObjects "__reduce_ex__" ["protocol"] "Helper for pickle.",
   ofObjects "__repr__" [] "Return repr(self).",
   ofObjects "__setattr__" ["name", "value"] "Implement setattr(self, name, value).",
   ofObjects "__sizeof__" [] "Size of object in memory, in bytes.",
   ofObjects "__str__" [] "Return str(self).",
   untold "__class__" "<class 'type'>",
   untold "__init_subclass__" (shownBuiltin "__init_subclass__"),
   untold "__subclasshook__" (shownBuiltin "__subclasshook__")]

/-- What classes have, but not their sets. -/
def ofClasses (shownBuiltin : String → String) : List (String × Method) :=
  [ofLanguage "mro" [] "Return a type's method resolution order.",
   ofLanguage "__subclasses__" [] "Return a list of immediate subclasses.",
   ofLanguage "__instancecheck__" [{ name := "instance" }] "Check if an object is an instance.",
   ofLanguage "__subclasscheck__" [{ name := "subclass" }] "Check if a class is a subclass.",
   ofLanguage "__or__" [{ name := "value" }] "Return self|value.",
   ofLanguage "__ror__" [{ name := "value" }] "Return value|self.",
   ofAnything "__call__" "Call self as a function.",
   ofLanguage "__base__" constructorParams baseDoc,
   untold "__prepare__" (shownBuiltin "__prepare__")]

/-- The names that mean the same in every class, whatever it writes down. -/
def fixedNames : List String :=
  ["__base__", "__bases__", "__basicsize__", "__class__", "__dict__", "__dictoffset__", "__flags__",
   "__itemsize__", "__mro__", "__name__", "__qualname__", "__text_signature__", "__weakrefoffset__"]

/-- What sets have that cannot be called, each with the name of its type. -/
def uncallable (c : SetClass) : List (String × String) :=
  [("NAMESPACE", c.space.type.name), ("FUNCTIONS", "tuple"), ("properties", "PropertyDictionary"),
   ("__doc__", if c.doc.isSome then "str" else "NoneType"), ("__module__", "str"), ("__dict__", "dict"),
   ("__weakref__", "NoneType")]

end Inherited

namespace SetClass

/-- What is inherited under a name and can be called on the class. -/
def inherited? (c : SetClass) (name : String) : Option Method :=
  (Inherited.shared c.shownBuiltin ++ Inherited.ofClasses c.shownBuiltin).lookup name

/-- What a name stands for in a class, if that can be called. -/
def method? (c : SetClass) (name : String) : Option Method :=
  if name ∈ Inherited.fixedNames then c.inherited? name
  else match c.attributes.get? name with
    | some (.method m) => some m
    | some (.value _) => none
    | none => c.inherited? name

end SetClass

/-- What a name stands for in a bound set: a method, or something that cannot be called, by the name
of its type. -/
inductive Found where
  | method (m : Method)
  | uncallable (typeName : String)

/-- What a name stands for in the sets of a class that hold nothing of their own under it. -/
def SetClass.find? (c : SetClass) (name : String) : Option Found :=
  match c.attributes.get? name with
  | some (.method m) => some (.method m)
  | some (.value v) => some (.uncallable v.type.name)
  | none =>
    match (Inherited.shared c.shownBuiltin).lookup name with
    | some m => some (.method m)
    | none => ((Inherited.uncallable c).lookup name).map .uncallable

end BuildScript
