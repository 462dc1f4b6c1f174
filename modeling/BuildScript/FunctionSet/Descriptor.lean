import BuildScript.Failure
import BuildScript.Coercion

/-!
Descriptors: what is known of a function without running it. Its key, under which it is looked up, is
its namespace, its name and its number of parameters; its signature also names the types.
-/

namespace BuildScript

/-- The key of a function. -/
structure FunctionKey where
  space : String
  name : String
  arity : Nat
  deriving Repr, DecidableEq

/-- Whether a key stands in front of another: by namespace, then by name, then by number of
parameters. -/
def FunctionKey.less (a b : FunctionKey) : Bool :=
  decide (a.space < b.space) || (a.space = b.space &&
    (decide (a.name < b.name) || (a.name = b.name && decide (a.arity < b.arity))))

/-- What is known of a function. -/
structure Descriptor where
  space : String
  name : String
  method : String
  params : List TypeName
  returns : TypeName
  deprecated : Bool := false
  description : String := ""
  deriving Repr, DecidableEq

namespace Descriptor

/-- The number of parameters. -/
def arity (d : Descriptor) : Nat := d.params.length

/-- The key. -/
def key (d : Descriptor) : FunctionKey := ⟨d.space, d.name, d.arity⟩

@[simp]
theorem space_key (d : Descriptor) : d.key.space = d.space := rfl

/-- The name of the function with its namespace. -/
def qualified (d : Descriptor) : String := qualifiedName d.space d.name

/-- The names `arg1`, `arg2`, … that parameters have by default. -/
def defaultNames (count : Nat) : List String :=
  (List.range count).map fun i => "arg" ++ Number.natText (i + 1)

/-- The signature, with these names for the parameters. -/
def signatureWith (d : Descriptor) (names : List String) : String :=
  d.qualified ++ "("
    ++ ", ".intercalate (List.zipWith (fun n t => n ++ ": " ++ t.name) names d.params)
    ++ ") -> " ++ d.returns.name

/-- The signature with the default names. -/
def signature (d : Descriptor) : String := d.signatureWith (defaultNames d.arity)

/-- Whether two descriptors describe the same function; what they say of it is left out. -/
def same (a b : Descriptor) : Bool :=
  a.key = b.key && a.params = b.params && a.returns = b.returns && a.method = b.method
    && a.deprecated = b.deprecated

/-- The text that shows a descriptor. -/
def shown (d : Descriptor) : String :=
  "<FunctionDescriptor " ++ d.qualified ++ "/" ++ Number.natText d.arity ++ ">"

end Descriptor

end BuildScript
