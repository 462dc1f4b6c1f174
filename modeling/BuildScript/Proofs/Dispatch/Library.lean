import BuildScript.Proofs.Dispatch.Declared
import BuildScript.Proofs.Dispatch.Forgetful

/-!
Calls of the library's own functions. A session offers a class of the library if its registry holds
the class and the session has no set of another class in its place (`Offers`). Whatever came before,
in whatever scenes, such a call comes to what the method comes to on a new set, and in the scene of
the moment. Main statements: `Offers.result_named` and `Offers.result_plain`, for functions that are
asked about a name and for functions without arguments; and what the functions about targets, tasks
and properties come to.
-/

namespace BuildScript

/-- A call of a function that is asked about a name. -/
def Call.about (space function name : String) : Call := ⟨space, function, [.text name]⟩

/-- What a call comes to whose method comes to this, if the call can be shown. -/
def Call.settled (c : Call) : Except Raised Value → Except Escape CallResult
  | .ok v => .ok (.value v)
  | .error e =>
    match e.wrapped "Function call failed" with
    | .inl x => .error x
    | .inr f => .ok (.failure (c.failure f))

@[simp]
theorem Call.settled_ok (c : Call) (v : Value) : c.settled (.ok v) = .ok (.value v) := rfl

/-- A fault of a function is a failure of the same kind and with the same text. -/
theorem Call.settled_fault (c : Call) {cls : FaultClass} {kind : FailureKind}
    (hkind : cls.kind? = some kind) (message : String) :
    c.settled (Core.fault cls message) = .ok (.failure (c.failing kind message)) := by
  have hbelow : cls.below .function = true := by
    rw [← FaultClass.isSome_kind?_iff, hkind]
    rfl
  have hfault : (Raised.fault (.of cls message)).functionFault? = some (.of cls message) := by
    simp [Raised.functionFault?, Fault.of, hbelow]
  have hfailure : c.failure (.of cls message) = c.failing kind message := c.failure_own hkind
  simp only [Core.fault, Call.settled, Raised.wrapped_of_fault _ hfault, hfailure]

/-- The result of a call that asks something of what a name leads to: the answer, or a failure if the
name leads nowhere. -/
def Call.answered (c : Call) (kind : FailureKind) (message : String) : Option Value → CallResult
  | some v => .value v
  | none => .failure (c.failing kind message)

/-! ## Sets that remember nothing -/

/-- Every set of a session that remembers nothing is as it was made. -/
def Bindings.Blank (bs : Bindings) : Prop :=
  ∀ space b, bs.get? space = some b → b.cls.Forgetful → b.memory = .empty

namespace Bindings.Blank

variable {r : Registry} {bs : Bindings} {c : Call}

theorem of_provides (h : Blank bs) {space : String} {b : BoundSet} (hb : Provides r s bs space b)
    (hcls : b.cls.Forgetful) : b.memory = .empty := by
  cases hb with
  | had hb => exact h space b hb hcls
  | made _ _ hmade =>
    have hsame := (hcls.construct_eq _).symm.trans hmade
    exact (Except.ok.inj hsame).symm

/-- A call leaves them so. -/
theorem invoke (h : Blank bs) (s : Scene) : Blank (invoke r s bs c).bindings := by
  have hbound : ∀ {b}, Provides r s bs c.space b → Blank (bindSet r s bs c.space).bindings := by
    intro b hb space b' hb'
    rw [hb.get?_bindings] at hb'
    by_cases hspace : space = c.space
    · rw [if_pos hspace, Option.some.injEq] at hb'
      exact hb' ▸ h.of_provides hb
    · rw [if_neg hspace] at hb'
      exact h space b' hb'
  rw [bindings_invoke]
  rcases stage_cases r s bs c with
    ⟨e, he⟩ | ⟨d, hd, ⟨i, a, t, e, he⟩ | ⟨args, hargs, ⟨p, e, hnone, hp, he⟩ | ⟨b, hb⟩⟩⟩
  · rw [perform_of_unresolved he]
    exact h
  · rw [perform_of_refused hd he]
    exact h
  · rw [perform_of_coerced hd hargs, runFunction_of_unmade _ hnone hp he]
    exact h
  · have hreach : Reaches r s bs c d args b := ⟨hd, hargs, hb⟩
    cases hm : b.lookup s d.method with
    | none =>
      rw [hreach.perform_of_missing hm]
      exact hbound hb
    | some m =>
      rw [hreach.perform_of_found hm]
      intro space b' hb' hcls
      rw [Table.get?_put] at hb'
      by_cases hspace : space = c.space
      · rw [if_pos hspace, Option.some.injEq] at hb'
        subst hb'
        have hforgetful : b.cls.Forgetful := hcls
        have hmemory : (b.run s d.method m args).memory = b.memory :=
          hforgetful.memory_run_set hm args
        exact hmemory.trans (h.of_provides hb hforgetful)
      · rw [if_neg hspace] at hb'
        exact hbound hb space b' hb' hcls

end Bindings.Blank

namespace Evaluation

theorem blank_ofActs (acts : List Act) : (ofActs acts).bindings.Blank := by
  induction acts using List.reverseRecOn with
  | nil => intro space b hb; cases hb
  | append_singleton acts a ih =>
    rw [ofActs_concat]
    cases a with
    | change c => exact ih
    | call s c => exact ih.invoke s

/-! ## Calls of the library's functions -/

/-- The functions that ask something of a property, with what they are answered. -/
def propertyQuestions : List (String × (Property → Value)) :=
  [("get-value", (·.value)), ("is-readonly", (.bool ·.readOnly)), ("is-dynamic", (.bool ·.dynamic))]

/-- A session offers the functions of a class: its registry holds the class under the namespace, and
the set of the namespace that the session may have is of this class. -/
structure Offers (acts : List Act) (space : String) (cls : SetClass) : Prop where
  held : ∃ p, (ofActs acts).registry.getSet space = .ok p ∧ p.cls = cls
  own : ∀ b, (ofActs acts).bindings.get? space = some b → b.cls = cls

/-- What a call comes to after a history. -/
def result (acts : List Act) (s : Scene) (c : Call) : Except Escape CallResult :=
  (invoke (ofActs acts).registry s (ofActs acts).bindings c).outcome

namespace Offers

variable {acts : List Act} {cls : SetClass} {space : String}

/-- A class and its sets have the method under the name, and a call by place fills its parameters. -/
structure Gives (cls : SetClass) (name : String) (m : Method) : Prop where
  means : cls.method? name = some m
  found : cls.find? name = some (.method m)
  fits : m.Fits
  free : ¬ (BoundSet.mk cls .empty).Hides name

/-- No method of the library has a name that its sets have for their project or their properties. -/
theorem gives {name : String} {m : Method} (hmeans : cls.method? name = some m)
    (hfound : cls.find? name = some (.method m)) (hplaced : ∀ q ∈ m.written, q.kind = .positional)
    (hne : m.written ≠ []) (hfree : name ≠ "project" ∧ name ≠ "_properties") : Gives cls name m where
  means := hmeans
  found := hfound
  fits := by
    refine .inr ⟨fun q hq hkind => ?_, .inr ⟨hplaced, fun _ => hne⟩⟩
    exact nomatch (hplaced q hq).symm.trans hkind
  free := by simp [BoundSet.Hides, hfree]

/-- A call of a function that is offered comes to what its method comes to on a new set. -/
theorem result_eq {c : Call} {e : Entry} {m : Method} {args : List Value}
    (h : Offers acts c.space cls) (hcls : cls.Forgetful) (he : e ∈ cls.entries)
    (hname : e.name.text? = some c.function) (hm : Gives cls e.method m)
    (hargs : CoercedTo c.args e.params args) (hshown : c.obstacle? = none) (s : Scene) :
    result acts s c = c.settled (m.run s .empty args).result := by
  obtain ⟨p, hp, rfl⟩ := h.held
  have hmade : (ofActs acts).bindings.get? c.space = none →
      ∃ memory, p.cls.construct s = .ok memory := fun _ => ⟨.empty, hcls.construct_eq s⟩
  obtain ⟨d, m', b, hcalls⟩ := exists_calls acts s p e c args hp he hname hargs h.own hmade
  have hb := hcalls.serves
  obtain rfl : m = m' := ((p.cls.method?_eq_some_iff _ m).mp hm.means).unique hcalls.means
  -- the session may have the set already, and it is as new
  have hempty : b = ⟨p.cls, .empty⟩ := by
    have hmemory : b.memory = .empty := by
      rcases hb.memory with hb' | ⟨-, hnew⟩
      · exact blank_ofActs acts c.space b hb' (hb.cls ▸ hcls)
      · exact (Except.ok.inj ((hcls.construct_eq s).symm.trans hnew)).symm
    have hbcls := hb.cls
    obtain ⟨bcls, bmemory⟩ := b
    simp only at hmemory hbcls
    rw [hmemory, hbcls]
  subst hempty
  have hruns := hcalls.runs hm.free hm.found hm.fits
  have houtcome := hruns.outcome
  show (invoke _ _ _ _).outcome = _
  cases hres : (m.run s .empty args).result with
  | ok v => exact hruns.value v hres
  | error x =>
    rw [hres] at houtcome
    simp only [Call.settled]
    cases hw : x.wrapped "Function call failed" with
    | inl y =>
      refine invoke_of_escape (houtcome.trans ?_)
      show Except.error (x.wrapped "Function call failed") = _
      rw [hw]
    | inr f =>
      refine invoke_of_fault (houtcome.trans ?_) hshown
      show Except.error (x.wrapped "Function call failed") = _
      rw [hw]

/-- A function that is asked about something by name. -/
theorem result_named (function : String) (returns : TypeName) {m : Method}
    (h : Offers acts space cls) (hcls : cls.Forgetful)
    (he : Core.entry function [.text] returns ∈ cls.entries)
    (hm : Gives cls (Core.entry function [.text] returns).method m) (s : Scene) (name : String) :
    result acts s (.about space function name) =
      Call.settled (.about space function name) (m.run s .empty [.text name]).result := by
  have hargs : CoercedTo [.text name] [.type .text] [.text name] := .cons rfl .nil
  exact result_eq (c := .about space function name) h hcls he rfl hm hargs rfl s

/-- A function without arguments. -/
theorem result_plain (function : String) (returns : TypeName) {m : Method}
    (h : Offers acts space cls) (hcls : cls.Forgetful)
    (he : Core.entry function [] returns ∈ cls.entries)
    (hm : Gives cls (Core.entry function [] returns).method m) (s : Scene) :
    result acts s ⟨space, function, []⟩ =
      Call.settled ⟨space, function, []⟩ (m.run s .empty []).result :=
  result_eq (c := ⟨space, function, []⟩) h hcls he rfl hm .nil rfl s

/-! ## Targets, tasks and properties -/

variable {file : String}

theorem forgetful_targets : (Core.targetFunctions file).Forgetful :=
  Core.forgetful_of_mem (show Core.targetFunctions file ∈ Core.classes file by simp [Core.classes])

theorem forgetful_tasks : (Core.taskFunctions file).Forgetful :=
  Core.forgetful_of_mem (show Core.taskFunctions file ∈ Core.classes file by simp [Core.classes])

theorem forgetful_properties : (Core.propertyFunctions file).Forgetful :=
  Core.forgetful_of_mem
    (show Core.propertyFunctions file ∈ Core.classes file by simp [Core.classes])

section

variable (s : Scene) (name : String)

theorem target_exists (h : Offers acts "target" (Core.targetFunctions file)) :
    result acts s (.about "target" "exists" name) =
      .ok (.value (.bool (s.project.targets.contains name))) :=
  h.result_named "exists" .bool forgetful_targets (.head _) (gives rfl rfl (by decide) (by decide) (by decide)) s name

theorem target_hasExecuted (h : Offers acts "target" (Core.targetFunctions file)) :
    result acts s (.about "target" "has-executed" name) =
      .ok (Call.answered (.about "target" "has-executed" name) .unknownTarget
        ("Target '" ++ name ++ "' does not exist.")
        ((s.project.targets.get? name).map fun m => .bool (s.project.hasExecuted m))) := by
  have hcall := h.result_named "has-executed" .bool forgetful_targets
    (by simp [Core.targetFunctions, Core.setClass]) (gives rfl rfl (by decide) (by decide) (by decide)) s name
  dsimp only [Core.namedQuery, Core.query, Value.text?, Value.bare, Option.getD_some] at hcall
  rw [hcall]
  cases s.project.targets.get? name with
  | none => exact Call.settled_fault _ rfl _
  | some m => rfl

theorem target_getCurrentTarget (h : Offers acts "target" (Core.targetFunctions file)) :
    result acts s ⟨"target", "get-current-target", []⟩ =
      .ok (Call.answered ⟨"target", "get-current-target", []⟩ .invalidState
        "No target is being executed." (s.project.current.map fun m => .text m.made.name)) := by
  have hcall := h.result_plain "get-current-target" .text forgetful_targets
    (by simp [Core.targetFunctions, Core.setClass]) (gives rfl rfl (by decide) (by decide) (by decide)) s
  dsimp only [Core.plainQuery, Core.query] at hcall
  rw [hcall]
  cases s.project.current with
  | none => exact Call.settled_fault _ rfl _
  | some m => rfl

theorem task_exists (h : Offers acts "task" (Core.taskFunctions file)) :
    result acts s (.about "task" "exists" name) =
      .ok (.value (.bool (s.project.tasks.contains name))) :=
  h.result_named "exists" .bool forgetful_tasks (.head _) (gives rfl rfl (by decide) (by decide) (by decide)) s name

theorem task_getAssembly (h : Offers acts "task" (Core.taskFunctions file)) :
    result acts s (.about "task" "get-assembly" name) =
      .ok (Call.answered (.about "task" "get-assembly" name) .unknownTask
        ("Task '" ++ name ++ "' is not available.")
        ((s.project.tasks.get? name).map (·.assembly))) := by
  have hcall := h.result_named "get-assembly" .assembly forgetful_tasks
    (by simp [Core.taskFunctions, Core.setClass]) (gives rfl rfl (by decide) (by decide) (by decide)) s name
  dsimp only [Core.namedQuery, Core.query, Value.text?, Value.bare, Option.getD_some] at hcall
  rw [hcall]
  cases s.project.tasks.get? name with
  | none => exact Call.settled_fault _ rfl _
  | some b => rfl

theorem property_exists (h : Offers acts "property" (Core.propertyFunctions file)) :
    result acts s (.about "property" "exists" name) =
      .ok (.value (.bool (s.properties.contains name))) :=
  h.result_named "exists" .bool forgetful_properties (.head _)
    (gives rfl rfl (by decide) (by decide) (by decide)) s name

theorem property_asked (h : Offers acts "property" (Core.propertyFunctions file))
    {q : String × (Property → Value)} (hq : q ∈ propertyQuestions) :
    result acts s (.about "property" q.1 name) =
      .ok (Call.answered (.about "property" q.1 name) .unknownProperty
        ("Property '" ++ name ++ "' has not been set.") ((s.properties.get? name).map q.2)) := by
  have hcall : result acts s (.about "property" q.1 name) =
      Call.settled (.about "property" q.1 name) (Core.ofProperty s name q.2) := by
    simp only [propertyQuestions, List.mem_cons, List.not_mem_nil, or_false] at hq
    rcases hq with rfl | rfl | rfl
    · exact h.result_named "get-value" .text forgetful_properties
        (by simp [Core.propertyFunctions, Core.setClass]) (gives rfl rfl (by decide) (by decide) (by decide)) s name
    · exact h.result_named "is-readonly" .bool forgetful_properties
        (by simp [Core.propertyFunctions, Core.setClass]) (gives rfl rfl (by decide) (by decide) (by decide)) s name
    · exact h.result_named "is-dynamic" .bool forgetful_properties
        (by simp [Core.propertyFunctions, Core.setClass]) (gives rfl rfl (by decide) (by decide) (by decide)) s name
  rw [hcall, Core.ofProperty]
  cases s.properties.get? name with
  | none => exact Call.settled_fault _ rfl _
  | some p => rfl

end

end Offers

end Evaluation

end BuildScript
