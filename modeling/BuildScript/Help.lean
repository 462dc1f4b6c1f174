import BuildScript.Output
import BuildScript.Registry

/-!
Help: what a registry offers, namespace by namespace, in the order of their names. A namespace has its
name, its description, and the signature and description of each function.
-/

namespace BuildScript

/-- The signature as help shows it, with the method's own names for the parameters. -/
def helpSignature (p : Plugin) (d : Descriptor) : String :=
  d.signatureWith (p.argNames d) ++ (if d.deprecated then " [deprecated]" else "")

/-- What is printed about a function. -/
def functionHelp (width : Int) (p : Plugin) (d : Descriptor) : List (PrintStyle × List String) :=
  ({ bullet := "  - ", wrapIndent := 4, width := some width }, [helpSignature p d])
    :: if d.description = "" then []
      else [({ bullet := "      ", width := some width }, [d.description])]

/-- What is printed about a function set. -/
def setHelp (r : Registry) (width : Int) (p : Plugin) : List (PrintStyle × List String) :=
  [({ color := some Color.bold.code, width := some width }, [p.space]),
   ({ bullet := "  ", width := some width }, [p.description])]
    ++ (r.listed (some p.space)).flatMap (functionHelp width p)
    ++ [({ width := some width }, [])]

/-- The function sets in the order of their namespaces; only that of one namespace if it is given. -/
def Registry.sortedSets (r : Registry) (space : Option String) : List Plugin :=
  let wanted := r.sets.entries.filter fun e => space.isNone || space = some e.1
  (wanted.mergeSort fun a b => !decide (b.1 < a.1)).map (·.2)

/-- The help on a registry, on a terminal that says it has `columns`. -/
def Registry.help (r : Registry) (columns : Int) (space : Option String) (width : Int) : Printed :=
  printAll columns ((r.sortedSets space).flatMap (setHelp r width))

end BuildScript
