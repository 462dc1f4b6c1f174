import BuildScript.Proofs.Dispatch.Stages
import BuildScript.Proofs.Registry.Answers

/-!
A session over a registry that changes: what is held under a namespace, and what set the session
has of it, after every history of changes and calls.

A set is made once, from the class that is held then (`exists_firstUse`), and stays. The registry
goes its own way: `NotReplaced` says of a history that no other class has been registered under a
namespace since, and then the set that the session has is of the class that is held, if one is
(`cls_of_notReplaced`).
-/

namespace BuildScript

/-- A step of a history: a change to the registry, or a call. -/
inductive Act where
  | change (c : Change)
  | call (s : Scene) (c : Call)

/-- The change to the registry that a step is. -/
def Act.change? : Act → Option Change
  | .change c => some c
  | .call .. => none

/-- A registry, and the sets that a session over it has. -/
structure Evaluation where
  registry : Registry := {}
  bindings : Bindings := .empty

namespace Evaluation

/-- Makes a step. -/
def after (v : Evaluation) : Act → Evaluation
  | .change c => { v with registry := v.registry.after c }
  | .call s c => { v with bindings := (invoke v.registry s v.bindings c).bindings }

/-- What a history leads to. -/
def ofActs (acts : List Act) : Evaluation := acts.foldl after {}

/-- The changes to the registry in a history. -/
def changes (acts : List Act) : List Change := acts.filterMap Act.change?

/-- The plugins that hold a namespace after a history. -/
def catalogue (acts : List Act) : Catalogue := .ofChanges (changes acts)

theorem ofActs_concat (acts : List Act) (a : Act) :
    ofActs (acts ++ [a]) = (ofActs acts).after a := by
  unfold ofActs
  rw [List.foldl_append, List.foldl_cons, List.foldl_nil]

theorem changes_concat_change (acts : List Act) (c : Change) :
    changes (acts ++ [.change c]) = changes acts ++ [c] := by
  unfold changes
  rw [List.filterMap_append]
  rfl

theorem changes_concat_call (acts : List Act) (s : Scene) (c : Call) :
    changes (acts ++ [.call s c]) = changes acts := by
  unfold changes
  rw [List.filterMap_append]
  exact List.append_nil _

/-! ## The registry -/

/-- Calls do not change the registry. -/
theorem registry_ofActs (acts : List Act) :
    (ofActs acts).registry = Registry.ofChanges (changes acts) := by
  induction acts using List.reverseRecOn with
  | nil => rfl
  | append_singleton acts a ih =>
    rw [ofActs_concat]
    cases a with
    | change c =>
      rw [changes_concat_change, Registry.ofChanges, List.foldl_append, List.foldl_cons,
        List.foldl_nil]
      exact congrArg (·.after c) ih
    | call s c =>
      rw [changes_concat_call]
      exact ih

theorem represents_ofActs (acts : List Act) :
    Represents (ofActs acts).registry (catalogue acts) := by
  rw [registry_ofActs]
  exact Represents.ofChanges _

theorem getSet_eq_ok_iff_holder (acts : List Act) (space : String) (q : Plugin) :
    (ofActs acts).registry.getSet space = .ok q ↔ (catalogue acts).holder? space = some q := by
  rw [getSet_eq_ok_iff, (represents_ofActs acts).get?_sets]

/-- What is held was checked. -/
theorem checked_of_getSet {acts : List Act} {space : String} {p : Plugin}
    (h : (ofActs acts).registry.getSet space = .ok p) : p.Checked := by
  obtain ⟨⟨q, -, rfl⟩, -⟩ := Catalogue.holder?_mem ((getSet_eq_ok_iff_holder ..).mp h)
  exact q.2

/-- A call is resolved to a function of the set that is held. -/
theorem mem_of_resolve {acts : List Act} {space name : String} {arity : Nat} {d : Descriptor}
    {p : Plugin} (hd : (ofActs acts).registry.resolve space name arity = .ok d)
    (hp : (ofActs acts).registry.getSet space = .ok p) :
    d ∈ p.descriptors ∧ d.arity = arity := by
  obtain ⟨q, hq, hmem, -, harity⟩ := ((represents_ofActs acts).resolve_ok_iff ..).mp hd
  have hqp : q = p :=
    Option.some.inj (hq.symm.trans ((getSet_eq_ok_iff_holder acts space p).mp hp))
  exact ⟨hqp ▸ hmem, harity⟩

/-- After a change a namespace is held by the plugin that held it, or by one that was taken. -/
theorem getSet_after {r : Registry} {c : Change} {space : String} {p : Plugin}
    (h : (r.after c).getSet space = .ok p) :
    r.getSet space = .ok p ∨
      ∃ q : CheckedPlugin, c = .register q ∧ q.1 = p ∧ p.space = space ∧ r.Takes p := by
  rw [Registry.after] at h
  cases c with
  | register q =>
    by_cases htakes : r.Takes q.1
    · rw [Registry.change, Registry.register_of_takes htakes, getSet_eq_ok_iff, Registry.add,
        Table.get?_put] at h
      by_cases hs : space = q.1.space
      · rw [if_pos hs, Option.some.injEq] at h
        exact .inr ⟨q, rfl, h, h ▸ hs.symm, h ▸ htakes⟩
      · rw [if_neg hs] at h
        exact .inl ((getSet_eq_ok_iff ..).mpr h)
    · obtain ⟨e, he⟩ := Registry.register_of_not_takes htakes
      rw [Registry.change, he] at h
      exact .inl h
  | unregister taken =>
    rw [Registry.change, Registry.unregister] at h
    by_cases hheld : r.sets.contains taken = true
    · rw [if_pos hheld, getSet_eq_ok_iff, Table.get?_erase] at h
      by_cases hs : space = taken
      · rw [if_pos hs] at h
        cases h
      · rw [if_neg hs] at h
        exact .inl ((getSet_eq_ok_iff ..).mpr h)
    · rw [if_neg hheld] at h
      exact .inl h

/-! ## The sets of the session -/

/-- With this call, made after a history, the session comes to have a set of its namespace, while
the plugin holds it. -/
structure FirstUse (before : List Act) (s : Scene) (c : Call) (p : Plugin) : Prop where
  unbound : (ofActs before).bindings.get? c.space = none
  held : (ofActs before).registry.getSet c.space = .ok p
  bound : ((ofActs (before ++ [.call s c])).bindings.get? c.space).isSome

/-- Every set of the session was made in a call of its namespace, of the class held then. -/
theorem exists_firstUse {acts : List Act} {space : String} {b : BoundSet}
    (hb : (ofActs acts).bindings.get? space = some b) :
    ∃ before s c rest p, acts = before ++ .call s c :: rest ∧ c.space = space ∧
      FirstUse before s c p ∧ b.cls = p.cls := by
  induction acts using List.reverseRecOn generalizing b with
  | nil => cases hb
  | append_singleton acts a ih =>
    have hb' := hb
    rw [ofActs_concat] at hb
    cases a with
    | change c =>
      obtain ⟨before, s, c', rest, p, rfl, hspace, huse, hcls⟩ := ih hb
      exact ⟨before, s, c', rest ++ [.change c], p, by simp, hspace, huse, hcls⟩
    | call s c =>
      rcases get?_bindings_invoke hb with ⟨b₀, hb₀, hcls₀⟩ | ⟨hnone, rfl, p, hp, hcls⟩
      · obtain ⟨before, s', c', rest, p, rfl, hspace, huse, hcls⟩ := ih hb₀
        exact ⟨before, s', c', rest ++ [.call s c], p, by simp, hspace, huse, hcls₀.trans hcls⟩
      · exact ⟨acts, s, c, [], p, rfl, rfl, ⟨hnone, hp, Option.isSome_of_eq_some hb'⟩, hcls⟩

/-- The session keeps a set that it has. -/
theorem bound_append {acts : List Act} {space : String}
    (h : ((ofActs acts).bindings.get? space).isSome) (rest : List Act) :
    ((ofActs (acts ++ rest)).bindings.get? space).isSome := by
  induction rest using List.reverseRecOn with
  | nil => rwa [List.append_nil]
  | append_singleton rest a ih =>
    rw [← List.append_assoc, ofActs_concat]
    cases a with
    | change c => exact ih
    | call s c =>
      obtain ⟨b, hb⟩ := Option.isSome_iff_exists.mp ih
      obtain ⟨b', hb', -⟩ := bound_after_invoke (ofActs (acts ++ rest)).registry s c hb
      exact Option.isSome_of_eq_some hb'

/-- Of two first uses of a namespace none comes before the other: the other would have found the
set that it left. -/
theorem FirstUse.length_le {before before' rest rest' : List Act} {s s' : Scene} {c c' : Call}
    {p p' : Plugin} (h : FirstUse before s c p) (h' : FirstUse before' s' c' p')
    (hspace : c.space = c'.space)
    (hacts : before ++ .call s c :: rest = before' ++ .call s' c' :: rest') :
    before'.length ≤ before.length := by
  by_contra hlt
  have hprefix : before ++ [.call s c] <+: before ++ .call s c :: rest :=
    ⟨rest, by rw [List.append_assoc, List.singleton_append]⟩
  have hprefix' : before' <+: before ++ .call s c :: rest := ⟨_, hacts.symm⟩
  obtain ⟨more, hmore⟩ := List.prefix_of_prefix_length_le hprefix hprefix' (by
    rw [List.length_append, List.length_singleton]
    omega)
  have hbound := bound_append h.bound more
  rw [hmore, hspace, h'.unbound] at hbound
  cases hbound

/-- There is one first use of a namespace in a history. -/
theorem FirstUse.unique {before before' rest rest' : List Act} {s s' : Scene} {c c' : Call}
    {p p' : Plugin} (h : FirstUse before s c p) (h' : FirstUse before' s' c' p')
    (hspace : c.space = c'.space)
    (hacts : before ++ .call s c :: rest = before' ++ .call s' c' :: rest') :
    before = before' ∧ p = p' := by
  have hlen : before.length = before'.length :=
    Nat.le_antisymm (h'.length_le h hspace.symm hacts.symm) (h.length_le h' hspace hacts)
  obtain ⟨rfl, -⟩ := List.append_inj hacts hlen
  refine ⟨rfl, ?_⟩
  have hheld := h'.held
  rw [← hspace, h.held] at hheld
  exact Except.ok.inj hheld

/-- Since the session has a set of the namespace, no plugin of another class was taken under it. -/
def NotReplaced (acts : List Act) (space : String) : Prop :=
  ∀ before p rest b, acts = before ++ .change (.register p) :: rest → p.1.space = space →
    (ofActs before).registry.Takes p.1 →
      (ofActs before).bindings.get? space = some b → p.1.cls = b.cls

theorem NotReplaced.of_append {acts rest : List Act} {space : String}
    (h : NotReplaced (acts ++ rest) space) : NotReplaced acts space := by
  rintro before p more b rfl
  refine h before p (more ++ rest) b ?_
  rw [List.append_assoc, List.cons_append]

/-- Nothing is replaced by the first registration. -/
theorem notReplaced_register (p : CheckedPlugin) (space : String) :
    NotReplaced [.change (.register p)] space := by
  intro before q rest b hacts _ _ hb
  cases before with
  | nil => cases hb
  | cons a before =>
    rw [List.cons_append, List.cons.injEq] at hacts
    exact absurd hacts.2.symm (List.append_ne_nil_of_right_ne_nil _ (List.cons_ne_nil _ _))

/-- The set that the session has is of the class that is held, unless one was registered since. -/
theorem cls_of_notReplaced {acts : List Act} {space : String} {b : BoundSet} {p : Plugin}
    (hsame : NotReplaced acts space) (hb : (ofActs acts).bindings.get? space = some b)
    (hp : (ofActs acts).registry.getSet space = .ok p) : b.cls = p.cls := by
  induction acts using List.reverseRecOn generalizing b p with
  | nil => cases hb
  | append_singleton acts a ih =>
    rw [ofActs_concat] at hb hp
    cases a with
    | change c =>
      -- of all changes only a registration under the namespace can bring in another class
      rcases getSet_after hp with hp | ⟨q, rfl, rfl, hspace, htakes⟩
      · exact ih hsame.of_append hb hp
      · exact (hsame acts q [] b rfl hspace htakes hb).symm
    | call s c =>
      rcases get?_bindings_invoke hb with ⟨b₀, hb₀, hcls⟩ | ⟨-, -, q, hq, hcls⟩
      · rw [hcls]
        exact ih hsame.of_append hb₀ hp
      · have hqp : q = p := Except.ok.inj (hq.symm.trans hp)
        rw [hcls, hqp]

/-! ## Methods that are held -/

/-- The class that is held has the method of a resolved call, with as many parameters for arguments as the
call gives. -/
theorem method_of_resolve {acts : List Act} {space name : String} {arity : Nat} {d : Descriptor}
    {p : Plugin} (hd : (ofActs acts).registry.resolve space name arity = .ok d)
    (hp : (ofActs acts).registry.getSet space = .ok p) :
    ∃ m ps, p.cls.method? d.method = some m ∧ m.taken = .ok ps ∧ ps.length = arity := by
  obtain ⟨hmem, harity⟩ := mem_of_resolve hd hp
  obtain ⟨m, ps, hm, htaken, hlength⟩ := (checked_of_getSet hp).method_of_mem hmem
  exact ⟨m, ps, hm, htaken, hlength.trans harity⟩

/-- A set lacks the method of a resolved call only if it is not of the class that is held, or if only
classes have the method. -/
theorem lacking_cases {acts : List Act} {space name : String} {arity : Nat}
    {d : Descriptor} {p : Plugin} {b : BoundSet} {s : Scene}
    (hd : (ofActs acts).registry.resolve space name arity = .ok d)
    (hp : (ofActs acts).registry.getSet space = .ok p) (hno : b.lookup s d.method = none) :
    b.cls ≠ p.cls ∨ d.method ∈ p.cls.classNames := by
  refine or_iff_not_imp_left.mpr fun hcls => ?_
  obtain ⟨m, ps, hm, -⟩ := method_of_resolve hd hp
  have hmeans := (p.cls.method?_eq_some_iff d.method m).mp hm
  refine hmeans.mem_classNames ?_
  rw [← not_not.mp hcls]
  rcases b.lookup_eq_find? s d.method with hfind | ⟨typeName, hfind⟩
  · rw [← hfind, hno]
  · exact nomatch hno.symm.trans hfind

end Evaluation

/-! ## Sets with one function -/

/-- A build of an empty project. -/
def bareScene : Scene :=
  { project := { baseDir := default, platform := ⟨"linux", .unix⟩ }
    host := { tree := default, libraryDir := default } }

/-- A class with one function, `n::f`, whose method always comes to the same. -/
def soleClass (id : Nat) (params : List TypeName) (result : Except Raised Value) : SetClass :=
  { id, name := "Sole", file := .ok "", space := .text "n", doc := none
    entries := [{ name := .text "f", method := "f", params := params.map .type }]
    attributes := Table.empty.put "f" (.method
      { written := { name := "self" } :: params.map fun _ => { name := "x" }
        run := fun _ memory _ => { result, memory } })
    construct := fun _ => .ok .empty }

/-- The function of such a class. -/
def soleDescriptor (params : List TypeName) : Descriptor :=
  { space := "n", name := "f", method := "f", params, returns := .text }

/-- A call of it. -/
def soleCall (args : List Value) : Call := { space := "n", function := "f", args }

theorem declaredTypes_map_type (ts : List TypeName) : declaredTypes (ts.map .type) = .ok ts := by
  induction ts with
  | nil => rfl
  | cons t ts ih => rw [List.map_cons, declaredTypes, ih, Except.map]

theorem ofClass_soleClass (id : Nat) (params : List TypeName) (result : Except Raised Value) :
    Plugin.ofClass id (some "") (soleClass id params result) =
      .ok { id, space := "n", cls := soleClass id params result, description := ""
            descriptors := [soleDescriptor params] } := by
  have hdescribe : (soleClass id params result).describe "n"
      { name := .text "f", method := "f", params := params.map .type } =
        .ok (soleDescriptor params) := by
    have hname : (Value.text "f").name? = some "f" := by decide
    have hmethod : (soleClass id params result).method? "f" = some
        { written := { name := "self" } :: params.map fun _ => { name := "x" }
          run := fun _ memory _ => { result, memory } } := rfl
    unfold SetClass.describe
    simp only [hname, hmethod, Method.taken, Method.listed, Except.map, List.drop_succ_cons, List.drop_zero,
      List.length_map, ne_eq, not_true, if_false, declaredTypes_map_type]
    rfl
  have hspace : (soleClass id params result).space.name? = some "n" := by
    show (Value.text "n").name? = some "n"
    decide
  have hentries : (soleClass id params result).entries.mapM
      ((soleClass id params result).describe "n") = .ok [soleDescriptor params] :=
    (mapM_eq_ok_iff _ _ _).mpr (.cons hdescribe .nil)
  unfold Plugin.ofClass
  rw [hspace]
  show (do
    let ds ← (soleClass id params result).entries.mapM ((soleClass id params result).describe "n")
    return (⟨id, "n", soleClass id params result, "", ds⟩ : Plugin)) = _
  rw [hentries]
  rfl

/-- The plugin of such a class. -/
def solePlugin (id : Nat) (params : List TypeName) (result : Except Raised Value) : CheckedPlugin :=
  ⟨_, id, some "", .set (soleClass id params result), ofClass_soleClass id params result⟩

end BuildScript
