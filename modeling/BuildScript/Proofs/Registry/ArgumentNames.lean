import BuildScript.Proofs.Registry.Declarations

/-!
The names that help gives the parameters of a function. The check of a declaration takes off what a method is called on
by the kind of the method, and the names are the last of those that the method lists, as many as there are types; both
come to the parameters behind what the method is called on. Main statement: `argNames_of_mem`, for every function of a
checked plugin, whatever its method is called on and however many parameters it has.
-/

namespace BuildScript

/-- What a signature says of a parameter. -/
def Parameter.told (q : Parameter) (t : TypeName) : String := q.name ++ ": " ++ t.name

/-- The signature with the names that the plugin has for the parameters, against the method behind the
function: `qs` are the parameters that it is written with behind `own`, which is what it is called on. -/
structure Plugin.Names (p : Plugin) (d : Descriptor) (m : Method) (own qs : List Parameter) : Prop where
  method : p.cls.Means d.method m
  written : m.written = own ++ qs
  own_eq : own = m.own
  names : p.argNames d = qs.map (·.name)
  length_eq : (p.argNames d).length = d.arity
  /-- Where no two parameters have the same name, that of what the method is called on is not among the names. -/
  own_not_mem : (m.written.map (·.name)).Nodup → ∀ q ∈ own, q.name ∉ p.argNames d
  /-- Each type stands behind the name of its own parameter. -/
  signature : d.signatureWith (p.argNames d) =
    d.qualified ++ "(" ++ ", ".intercalate (List.zipWith Parameter.told qs d.params) ++ ") -> " ++ d.returns.name

theorem Descriptor.signatureWith_map_name (d : Descriptor) (qs : List Parameter) :
    d.signatureWith (qs.map (·.name)) =
      d.qualified ++ "(" ++ ", ".intercalate (List.zipWith Parameter.told qs d.params) ++ ") -> " ++
        d.returns.name := by
  rw [signatureWith, List.zipWith_map_left]
  rfl

theorem names_of_method {p : Plugin} {d : Descriptor} {m : Method} {qs : List Parameter}
    (hm : p.cls.method? d.method = some m) (htaken : m.taken = .ok qs) (harity : qs.length = d.arity) :
    p.Names d m m.own qs := by
  have hwritten := Method.written_eq_own_append htaken
  have hnames : p.argNames d = qs.map (·.name) := p.argNames_of_method hm htaken harity
  refine ⟨(p.cls.method?_eq_some_iff d.method m).mp hm, hwritten, rfl, hnames, ?_, fun hnodup q hq hmem => ?_, ?_⟩
  · rw [hnames, List.length_map, harity]
  · rw [hwritten, List.map_append] at hnodup
    rw [hnames] at hmem
    exact (List.nodup_append.mp hnodup).2.2 q.name (List.mem_map_of_mem hq) q.name hmem rfl
  · rw [hnames, d.signatureWith_map_name]

/-- Of each function of a checked plugin as many names are given as its entry declares types. They are those of the
parameters that its method is written with, in their order and without what the method is called on, and the signature
has each type behind the name of its own parameter. -/
theorem argNames_of_mem {p : Plugin} (hp : p.Checked) {d : Descriptor} (hd : d ∈ p.descriptors) :
    ∃ e ∈ p.cls.entries, Describes p.cls p.space e d ∧ ∃ m own qs, p.Names d m own qs := by
  obtain ⟨e, he, hdescribe⟩ := hp.entry_of_mem hd
  obtain ⟨m, qs, hm, htaken, harity⟩ := hp.method_of_mem hd
  exact ⟨e, he, (describe_eq_ok_iff d).mp hdescribe, m, m.own, qs, names_of_method hm htaken harity⟩

/-! ## A class with methods of all kinds -/

/-- A method that comes to nothing. -/
def idleMethod (receiver : Receiver) (written : List Parameter) : Method :=
  { receiver, written, run := fun _ memory _ => { result := .ok .none, memory } }

/-- A class with a method of its sets that takes all arguments behind the first, one that is called on nothing and has
no parameters, and one that is called on the class. -/
def mixedClass : SetClass :=
  { id := 1, name := "Mixed", file := .ok "", space := .text "n", doc := none
    entries := [
      { name := .text "show", method := "show", params := [.type .text, .type .int] },
      { name := .text "count", method := "count" },
      { name := .text "make", method := "make", params := [.type .float] }]
    attributes := ((Table.empty.put
      "show" (.method (idleMethod .boundSet
        [{ name := "this" }, { name := "name" }, { name := "rest", kind := .variadic }]))).put
      "count" (.method (idleMethod .nothing []))).put
      "make" (.method (idleMethod .ownClass [{ name := "cls" }, { name := "size" }]))
    construct := fun _ => .ok .empty }

/-- A function of the class. -/
def mixedDescriptor (name : String) (params : List TypeName) : Descriptor :=
  { space := "n", name, method := name, params, returns := .text }

/-- The plugin of the class. -/
def mixedPlugin : Plugin :=
  { id := 1, space := "n", cls := mixedClass, description := ""
    descriptors := [mixedDescriptor "show" [.text, .int], mixedDescriptor "count" [], mixedDescriptor "make" [.float]] }

theorem checked_mixedPlugin : mixedPlugin.Checked := ⟨1, some "", .set mixedClass, rfl⟩

theorem argNames_of_mem_mixed :
    mixedPlugin.Checked ∧ mixedDescriptor "show" [.text, .int] ∈ mixedPlugin.descriptors ∧
      (∃ e ∈ mixedClass.entries, Describes mixedClass "n" e (mixedDescriptor "show" [.text, .int]) ∧
        ∃ m own qs, mixedPlugin.Names (mixedDescriptor "show" [.text, .int]) m own qs) ∧
      mixedPlugin.descriptors.map (fun d => d.signatureWith (mixedPlugin.argNames d)) =
        ["n::show(name: str, rest: int) -> str", "n::count() -> str", "n::make(size: float) -> str"] :=
  ⟨checked_mixedPlugin, List.mem_cons_self,
    argNames_of_mem checked_mixedPlugin List.mem_cons_self, by decide +kernel⟩

end BuildScript
