import BuildScript.FunctionSet.Basic
import Mathlib.Data.List.Induction

/-!
Edits of a build: targets and task builders are added or replaced, and properties are set and
removed, among the project's own or in a separate dictionary. An edit tells what a name leads to from
then on, or tells nothing of it (`Edit.target?`, `Edit.task?`, `Edit.property?`). Main statements:
`target?_edited`, `task?_edited` and `property?_edited`, that in a build which began empty a name
leads to what the last edit told that told anything of it.
-/

namespace BuildScript

/-- A change to the targets, task builders or properties of a build. Whether properties are those of
the separate dictionary or the project's own is told by `separate`. -/
inductive Edit where
  | addTarget (m : Member)
  | setTargets (ms : List Member)
  | addTask (b : TaskBuilder)
  | setTasks (bs : List TaskBuilder)
  | setProperty (separate : Bool) (name : String) (p : Property)
  | removeProperty (separate : Bool) (name : String)

namespace Scene

/-- Changes the properties of the separate dictionary, if there is one, or else the project's own. -/
def changeProperties (s : Scene) (separate : Bool) (f : Properties → Properties) : Scene :=
  match separate with
  | true => { s with separate := s.separate.map f }
  | false => { s with project := { s.project with properties := f s.project.properties } }

/-- The build after an edit. -/
def edit (s : Scene) : Edit → Scene
  | .addTarget m => { s with project := s.project.addTarget m }
  | .setTargets ms => { s with project := s.project.withTargets ms }
  | .addTask b => { s with project := s.project.addTask b }
  | .setTasks bs => { s with project := s.project.withTasks bs }
  | .setProperty separate name p => s.changeProperties separate fun ps => ps.put name p
  | .removeProperty separate name => s.changeProperties separate fun ps => ps.erase name

/-- The build after edits. -/
def edited (s : Scene) (edits : List Edit) : Scene := edits.foldl edit s

/-- The build without targets, task builders and properties. -/
def emptied (s : Scene) : Scene :=
  { s with
    project := { s.project with targets := .empty, properties := .empty, tasks := .empty }
    separate := s.separate.map fun _ => .empty }

end Scene

namespace Edit

/-! ## What an edit tells of a name -/

/-- The target that a name leads to after the edit, if the edit tells it. -/
def target? (name : String) : Edit → Option (Option Member)
  | addTarget m => if m.made.name = name then some (some m) else none
  | setTargets ms => some (ms.reverse.find? fun m => m.made.name = name)
  | _ => none

/-- The task builder that a name leads to after the edit, if the edit tells it. -/
def task? (name : String) : Edit → Option (Option TaskBuilder)
  | addTask b => if b.name = name then some (some b) else none
  | setTasks bs => some (bs.reverse.find? fun b => b.name = name)
  | _ => none

/-- The property that a name leads to after the edit, in the separate dictionary or in the project, if
the edit tells it. -/
def property? (separate : Bool) (name : String) : Edit → Option (Option Property)
  | setProperty other n p => if other = separate ∧ n = name then some (some p) else none
  | removeProperty other n => if other = separate ∧ n = name then some none else none
  | _ => none

section

variable {α : Type} (tells : Edit → Option (Option α)) (edits : List Edit) (told : Option α)

/-- The last edit that tells anything tells this. -/
def Last : Prop :=
  ∃ before e after, edits = before ++ e :: after ∧ tells e = some told ∧
    ∀ e' ∈ after, tells e' = none

theorem not_last_nil : ¬ Last tells [] told := by
  rintro ⟨before, e, after, hedits, -, -⟩
  simp at hedits

theorem last_concat (e : Edit) : Last tells (edits ++ [e]) told ↔
    tells e = some told ∨ (tells e = none ∧ Last tells edits told) := by
  constructor
  · rintro ⟨before, x, after, hedits, hx, hafter⟩
    rcases List.eq_nil_or_concat after with rfl | ⟨after, y, rfl⟩
    · obtain ⟨-, hlast⟩ := List.append_inj' hedits rfl
      left
      rw [List.singleton_inj.mp hlast]
      exact hx
    · rw [List.concat_eq_append] at hedits hafter
      rw [← List.cons_append, ← List.append_assoc] at hedits
      obtain ⟨hfront, hlast⟩ := List.append_inj' hedits rfl
      right
      refine ⟨?_, before, x, after, hfront, hx, fun e' he' => hafter e' (by simp [he'])⟩
      rw [List.singleton_inj.mp hlast]
      exact hafter y (by simp)
  · rintro (he | ⟨he, before, x, after, rfl, hx, hafter⟩)
    · exact ⟨edits, e, [], rfl, he, by simp⟩
    · refine ⟨before, x, after ++ [e], by simp, hx, fun e' he' => ?_⟩
      rcases List.mem_append.mp he' with he' | he'
      · exact hafter e' he'
      · rw [List.mem_singleton.mp he', he]

end

end Edit

/-! ## Tables -/

/-- Of the things that are put into a table, the last with a key is the one that the key leads to. -/
theorem Table.get?_foldl_putBy {α : Type} (key : α → String) (as : List α) (t : Table String α)
    (name : String) : (as.foldl (fun t a => t.put (key a) a) t).get? name =
      (as.reverse.find? fun a => key a = name).or (t.get? name) := by
  induction as generalizing t with
  | nil => rfl
  | cons a as ih =>
    rw [List.foldl_cons, ih, Table.get?_put, List.reverse_cons, List.find?_append, Option.or_assoc]
    congr 1
    by_cases hkey : key a = name
    · simp [hkey]
    · simp [hkey, Ne.symm hkey]

namespace Scene

variable (s : Scene)

theorem edited_concat (edits : List Edit) (e : Edit) :
    s.edited (edits ++ [e]) = (s.edited edits).edit e := by
  unfold edited
  rw [List.foldl_append, List.foldl_cons, List.foldl_nil]

/-! ## One edit -/

theorem target?_edit (e : Edit) (name : String) :
    (s.edit e).project.targets.get? name =
      (e.target? name).getD (s.project.targets.get? name) := by
  cases e with
  | addTarget m =>
    simp only [edit, Project.addTarget, Edit.target?, Table.get?_put, eq_comm (a := name)]
    split <;> rfl
  | setTargets ms =>
    simp only [edit, Project.withTargets, Edit.target?, Table.get?_foldl_putBy]
    simp
  | addTask | setTasks => rfl
  | setProperty separate | removeProperty separate => cases separate <;> rfl

theorem task?_edit (e : Edit) (name : String) :
    (s.edit e).project.tasks.get? name = (e.task? name).getD (s.project.tasks.get? name) := by
  cases e with
  | addTask b =>
    simp only [edit, Project.addTask, Edit.task?, Table.get?_put, eq_comm (a := name)]
    split <;> rfl
  | setTasks bs =>
    simp only [edit, Project.withTasks, Edit.task?, Table.get?_foldl_putBy]
    simp
  | addTarget | setTargets => rfl
  | setProperty separate | removeProperty separate => cases separate <;> rfl

/-- No edit gives a build a separate dictionary or takes it away. -/
theorem isSome_separate_edit (e : Edit) : (s.edit e).separate.isSome = s.separate.isSome := by
  cases e with
  | addTarget | setTargets | addTask | setTasks => rfl
  | setProperty separate | removeProperty separate =>
    cases separate with
    | true => exact Option.isSome_map
    | false => rfl

/-- Only a change to the dictionary in force is seen. -/
theorem properties_changeProperties (separate : Bool) (f : Properties → Properties) :
    (s.changeProperties separate f).properties =
      if separate = s.separate.isSome then f s.properties else s.properties := by
  obtain ⟨project, own, host⟩ := s
  cases separate <;> cases own <;> rfl

theorem property?_edit (e : Edit) (name : String) :
    (s.edit e).properties.get? name =
      (e.property? s.separate.isSome name).getD (s.properties.get? name) := by
  cases e with
  | addTarget | setTargets | addTask | setTasks => rfl
  | setProperty separate n p =>
    simp only [edit, properties_changeProperties, Edit.property?]
    by_cases hsep : separate = s.separate.isSome
    · by_cases hn : n = name
      · simp [hsep, hn]
      · simp [hsep, hn, Ne.symm hn]
    · simp [hsep]
  | removeProperty separate n =>
    simp only [edit, properties_changeProperties, Edit.property?]
    by_cases hsep : separate = s.separate.isSome
    · by_cases hn : n = name
      · simp [hsep, hn]
      · simp [hsep, hn, Ne.symm hn]
    · simp [hsep]

/-! ## Sequences of edits -/

theorem isSome_separate_edited (edits : List Edit) :
    (s.edited edits).separate.isSome = s.separate.isSome := by
  induction edits using List.reverseRecOn with
  | nil => rfl
  | append_singleton edits e ih => rw [edited_concat, isSome_separate_edit, ih]

/-- What is looked up in a build that began empty was told last, if each edit leaves it as it is or
tells what it is from then on. -/
theorem look_edited {α : Type} (look : Scene → Option α) {tells : Edit → Option (Option α)}
    (hempty : look s = none)
    (hstep : ∀ s', s'.separate.isSome = s.separate.isSome → ∀ e,
      look (s'.edit e) = (tells e).getD (look s'))
    (edits : List Edit) (a : α) :
    look (s.edited edits) = some a ↔ Edit.Last tells edits (some a) := by
  induction edits using List.reverseRecOn with
  | nil =>
    rw [show s.edited [] = s from rfl, hempty]
    exact iff_of_false nofun (Edit.not_last_nil tells _)
  | append_singleton edits e ih =>
    -- either the last edit tells, or those before it do
    rw [edited_concat, hstep _ (isSome_separate_edited s edits), Edit.last_concat]
    cases htold : tells e with
    | none => simpa using ih
    | some told => simp

theorem target?_edited (edits : List Edit) (name : String) (m : Member) :
    (s.emptied.edited edits).project.targets.get? name = some m ↔
      Edit.Last (Edit.target? name) edits (some m) :=
  look_edited s.emptied (fun s => s.project.targets.get? name) rfl
    (fun s' _ e => target?_edit s' e name) edits m

theorem task?_edited (edits : List Edit) (name : String) (b : TaskBuilder) :
    (s.emptied.edited edits).project.tasks.get? name = some b ↔
      Edit.Last (Edit.task? name) edits (some b) :=
  look_edited s.emptied (fun s => s.project.tasks.get? name) rfl
    (fun s' _ e => task?_edit s' e name) edits b

/-- The properties are those of the separate dictionary exactly if there is one. -/
theorem property?_edited (edits : List Edit) (name : String) (p : Property) :
    (s.emptied.edited edits).properties.get? name = some p ↔
      Edit.Last (Edit.property? s.separate.isSome name) edits (some p) := by
  have hsep : s.emptied.separate.isSome = s.separate.isSome := Option.isSome_map
  have hempty : s.emptied.properties.get? name = none := by
    cases h : s.separate <;> simp [emptied, properties, h]
  refine look_edited s.emptied (fun s => s.properties.get? name) hempty
    (fun s' hs' e => ?_) edits p
  rw [property?_edit, hs', hsep]

end Scene

end BuildScript
