import BuildScript.Proofs.Dispatch.Offered
import BuildScript.Proofs.Project.Edits

/-!
Whether a target, a task or a property exists, and what is asked of it. In every build that edits
have brought about, with a separate dictionary or without one, the question whether a thing exists has
an answer, and it is yes exactly if the other questions about the thing have one. Main statement:
`existence_agrees`, where the answers are those of the target, builder or property that the last edit
left under the name.
-/

namespace BuildScript

namespace Evaluation

/-- Two questions about a name. The first, whether there is something, is always answered: with yes if
the second succeeds, and with no if the second fails in this way. The second is answered for what is
stored, and with these answers. -/
structure Agrees {α : Type} (acts : List Act) (s : Scene) (whether asked : Call)
    (kind : FailureKind) (message : String) (Stored : α → Prop) (answer : α → Value) : Prop where
  answered : ∃ b, result acts s whether = .ok (.value (.bool b))
  exists_iff : result acts s whether = .ok (.value (.bool true)) ↔
    ∃ v, result acts s asked = .ok (.value v)
  fails : result acts s whether = .ok (.value (.bool false)) →
    result acts s asked = .ok (.failure (asked.failing kind message))
  value_iff : ∀ v, result acts s asked = .ok (.value v) ↔ ∃ a, Stored a ∧ v = answer a

/-- Two questions agree that look the same thing up. -/
theorem Agrees.of_lookup {α : Type} {acts : List Act} {s : Scene} {whether asked : Call}
    {kind : FailureKind} {message : String} {Stored : α → Prop} {answer : α → Value}
    {found : Option α} (hstored : ∀ a, found = some a ↔ Stored a)
    (hwhether : result acts s whether = .ok (.value (.bool found.isSome)))
    (hasked : result acts s asked = .ok (asked.answered kind message (found.map answer))) :
    Agrees acts s whether asked kind message Stored answer := by
  cases found with
  | none =>
    have hnothing : ∀ a, ¬ Stored a := fun a ha => nomatch (hstored a).mpr ha
    have hfails : ∀ v, result acts s asked ≠ .ok (.value v) := by
      intro v hv
      rw [hasked] at hv
      cases hv
    refine ⟨⟨false, hwhether⟩, ?_, fun _ => hasked, fun v => ?_⟩
    · rw [hwhether]
      exact iff_of_false nofun fun ⟨v, hv⟩ => hfails v hv
    · exact iff_of_false (hfails v) fun ⟨a, ha, _⟩ => hnothing a ha
  | some a =>
    have honly : ∀ a', Stored a' ↔ a' = a := by
      intro a'
      rw [← hstored a', Option.some.injEq, eq_comm]
    refine ⟨⟨true, hwhether⟩, iff_of_true hwhether ⟨_, hasked⟩, fun hno => ?_, fun v => ?_⟩
    · rw [hwhether] at hno
      cases hno
    · rw [hasked]
      simp [honly, Call.answered, eq_comm]

section

variable {acts : List Act} {file : String} (s : Scene) (edits : List Edit) (name : String)

/-- A target is stored that the last edit of its name left. -/
theorem target_agrees (h : Offers acts "target" (Core.targetFunctions file)) :
    Agrees acts (s.emptied.edited edits)
      (.about "target" "exists" name) (.about "target" "has-executed" name)
      .unknownTarget ("Target '" ++ name ++ "' does not exist.")
      (fun m => Edit.Last (Edit.target? name) edits (some m))
      (fun m => .bool ((s.emptied.edited edits).project.hasExecuted m)) :=
  .of_lookup (s.target?_edited edits name) (h.target_exists _ name) (h.target_hasExecuted _ name)

theorem task_agrees (h : Offers acts "task" (Core.taskFunctions file)) :
    Agrees acts (s.emptied.edited edits)
      (.about "task" "exists" name) (.about "task" "get-assembly" name)
      .unknownTask ("Task '" ++ name ++ "' is not available.")
      (fun b => Edit.Last (Edit.task? name) edits (some b)) (·.assembly) :=
  .of_lookup (s.task?_edited edits name) (h.task_exists _ name) (h.task_getAssembly _ name)

theorem property_agrees (h : Offers acts "property" (Core.propertyFunctions file))
    {q : String × (Property → Value)} (hq : q ∈ propertyQuestions) :
    Agrees acts (s.emptied.edited edits)
      (.about "property" "exists" name) (.about "property" q.1 name)
      .unknownProperty ("Property '" ++ name ++ "' has not been set.")
      (fun p => Edit.Last (Edit.property? s.separate.isSome name) edits (some p)) q.2 :=
  .of_lookup (s.property?_edited edits name) (h.property_exists _ name) (h.property_asked _ name hq)

/-- In every build that edits have brought about, each question whether something exists agrees with
the questions about what exists. -/
theorem existence_agrees (htargets : Offers acts "target" (Core.targetFunctions file))
    (htasks : Offers acts "task" (Core.taskFunctions file))
    (hproperties : Offers acts "property" (Core.propertyFunctions file)) :
    Agrees acts (s.emptied.edited edits)
        (.about "target" "exists" name) (.about "target" "has-executed" name)
        .unknownTarget ("Target '" ++ name ++ "' does not exist.")
        (fun m => Edit.Last (Edit.target? name) edits (some m))
        (fun m => .bool ((s.emptied.edited edits).project.hasExecuted m)) ∧
      Agrees acts (s.emptied.edited edits)
        (.about "task" "exists" name) (.about "task" "get-assembly" name)
        .unknownTask ("Task '" ++ name ++ "' is not available.")
        (fun b => Edit.Last (Edit.task? name) edits (some b)) (·.assembly) ∧
      ∀ q ∈ propertyQuestions, Agrees acts (s.emptied.edited edits)
        (.about "property" "exists" name) (.about "property" q.1 name)
        .unknownProperty ("Property '" ++ name ++ "' has not been set.")
        (fun p => Edit.Last (Edit.property? s.separate.isSome name) edits (some p)) q.2 :=
  ⟨target_agrees s edits name htargets, task_agrees s edits name htasks,
    fun _ hq => property_agrees s edits name hproperties hq⟩

end

/-- Two targets of one name, and a property that is set in the separate dictionary, and removed from
the project. -/
def twoTargets : List Edit :=
  [.addTarget ⟨0, { name := "x" }⟩, .setProperty true "x" { value := .text "v", readOnly := true },
    .addTarget ⟨1, { name := "x", executed := true }⟩, .removeProperty false "x"]

theorem existence_of_twoTargets :
    result (registering (libraryPlugins ""))
        (Scene.edited { bareScene with separate := some .empty } twoTargets)
        (.about "target" "has-executed" "x") = .ok (.value (.bool true)) ∧
      result (registering (libraryPlugins ""))
        (Scene.edited { bareScene with separate := some .empty } twoTargets)
        (.about "property" "get-value" "x") = .ok (.value (.text "v")) := by
  have hagrees := existence_agrees { bareScene with separate := some .empty } twoTargets "x"
    (offers_library "" (.tail _ (.tail _ (.head _))) rfl)
    (offers_library "" (.tail _ (.tail _ (.tail _ (.head _)))) rfl)
    (offers_library "" (.tail _ (.tail _ (.tail _ (.tail _ (.head _))))) rfl)
  constructor
  · refine (hagrees.1.value_iff _).mpr ⟨⟨1, { name := "x", executed := true }⟩, ?_, rfl⟩
    exact ⟨[_, _], _, [_], rfl, rfl, by simp [Edit.target?]⟩
  · refine ((hagrees.2.2 _ (.head _)).value_iff _).mpr
      ⟨{ value := .text "v", readOnly := true }, ?_, rfl⟩
    exact ⟨[_], _, [_, _], rfl, rfl, by simp [Edit.property?]⟩

end Evaluation

end BuildScript
