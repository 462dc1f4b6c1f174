import BuildScript.Proofs.Dispatch.Offered
import BuildScript.Proofs.Project.Edits
import BuildScript.Proofs.Session.Frame

/-!
Targets that are executed in blocks. A script opens blocks inside blocks, edits the build in
between, raises errors and goes on after them; a target may be replaced while it is being executed,
and then the name leads to another one. Beside the build stand the targets of the blocks that are open
and of those that were left (`Moment`). Main statement: `executions_reported`, for every moment of
every script: which target is being executed, and which have been, is told by these two lists; a block
on a name that leads nowhere raises and changes nothing; and whatever happens in a block, the target
that was being executed before it is being executed again after it.
-/

namespace BuildScript

/-- What is done with a build, from one step to the next. -/
inductive Script where
  | done
  | raise (e : Raised)
  | edit (e : Edit) (rest : Script)
  /-- Executes the target of a name while the body is done. -/
  | executing (name : String) (body rest : Script)
  /-- Goes on after the body even if it raises. -/
  | trying (body rest : Script)

/-- A build, the targets of the blocks that are open, the innermost first, and those of the blocks
that were left, the latest first. -/
structure Moment where
  scene : Scene
  opened : List Member := []
  left : List Member := []

namespace Moment

/-- In a block whose execution has begun. -/
def inside (x : Moment) (p : Project) (e : Execution) : Moment :=
  { x with scene := { x.scene with project := p }, opened := e.target :: x.opened }

/-- After a block that was opened at a moment, when its execution has ended. -/
def outside (y x : Moment) (e : Execution) : Moment :=
  { scene := { y.scene with project := y.scene.project.leave e }
    opened := x.opened, left := e.target :: y.left }

end Moment

/-- The moments through which a script goes, the last one apart, and what it raises in the end. -/
structure Played where
  before : List Moment
  last : Moment
  raised : Option Raised

namespace Played

def moments (a : Played) : List Moment := a.before ++ [a.last]

/-- The same, with an earlier moment. -/
def since (a : Played) (x : Moment) : Played := { a with before := x :: a.before }

/-- The same with the end of the block around it, which comes whether it raises or not. -/
def leaving (a : Played) (x : Moment) (e : Execution) : Played :=
  ⟨a.moments, a.last.outside x e, a.raised⟩

/-- What follows, unless something is raised. -/
def andThen (a : Played) (rest : Moment → Played) : Played :=
  match a.raised with
  | some _ => a
  | none => { rest a.last with before := a.before ++ (rest a.last).before }

end Played

/-- Does a script. -/
def Script.play : Script → Moment → Played
  | done, x => ⟨[], x, none⟩
  | raise e, x => ⟨[], x, some e⟩
  | edit e rest, x => (rest.play { x with scene := x.scene.edit e }).since x
  | executing name body rest, x =>
    match x.scene.project.enter name with
    | .error missing => ⟨[], x, some (.ofText "KeyError" missing.message)⟩
    | .ok (p, e) =>
      (((body.play (x.inside p e)).leaving x e).since x).andThen fun y => rest.play y
  | trying body rest, x => { body.play x with raised := none }.andThen fun y => rest.play y

namespace Played

variable {a : Played} {x y : Moment} {rest : Moment → Played}

theorem last_mem_moments (a : Played) : a.last ∈ a.moments :=
  List.mem_append_right _ (List.mem_singleton_self _)

theorem mem_moments_since (h : y ∈ (a.since x).moments) : y = x ∨ y ∈ a.moments :=
  List.mem_cons.mp h

theorem mem_moments_leaving {e : Execution} (h : y ∈ (a.leaving x e).moments) :
    y ∈ a.moments ∨ y = a.last.outside x e := by
  rcases List.mem_append.mp h with h | h
  · exact .inl h
  · exact .inr (List.mem_singleton.mp h)

theorem mem_moments_andThen (h : y ∈ (a.andThen rest).moments) :
    y ∈ a.moments ∨ y ∈ (rest a.last).moments := by
  unfold andThen at h
  split at h
  · exact .inl h
  · rcases List.mem_append.mp h with h | h
    · rcases List.mem_append.mp h with h | h
      · exact .inl (List.mem_append_left _ h)
      · exact .inr (List.mem_append_left _ h)
    · exact .inr (List.mem_append_right _ h)

/-- What follows ends where it ends, or does not come about. -/
theorem last_andThen (a : Played) (rest : Moment → Played) :
    (a.andThen rest).last = a.last ∨ (a.andThen rest).last = (rest a.last).last := by
  unfold andThen
  split <;> simp

end Played

/-! ## What holds at every moment -/

/-- The build agrees with the lists: the innermost open block tells what is being executed, and the
blocks that were left tell what has been, after what had been at the start. -/
structure Moment.Sound (start : Project) (x : Moment) : Prop where
  current : x.scene.project.current = x.opened.head?
  ended : x.scene.project.ended = x.left.map (·.id) ++ start.ended

namespace Scene

/-- Edits do not concern executions. -/
theorem current_edit (s : Scene) (e : Edit) :
    (s.edit e).project.current = s.project.current := by
  cases e with
  | setProperty separate | removeProperty separate => cases separate <;> rfl
  | _ => rfl

theorem ended_edit (s : Scene) (e : Edit) : (s.edit e).project.ended = s.project.ended := by
  cases e with
  | setProperty separate | removeProperty separate => cases separate <;> rfl
  | _ => rfl

end Scene

namespace Project

theorem enter_of_found {p : Project} {name : String} {m : Member}
    (h : p.targets.get? name = some m) :
    p.enter name = .ok ({ p with current := some m }, ⟨m, p.current⟩) := by
  unfold enter target
  rw [h]
  rfl

theorem enter_of_unknown {p : Project} {name : String} (h : p.targets.get? name = none) :
    p.enter name = .error (.target name p.targets.keys) := by
  unfold enter target
  rw [h]
  rfl

end Project

namespace Moment.Sound

variable {start : Project} {x y : Moment}

theorem edit (h : x.Sound start) (e : Edit) :
    Moment.Sound start { x with scene := x.scene.edit e } where
  current := (x.scene.current_edit e).trans h.current
  ended := (x.scene.ended_edit e).trans h.ended

theorem inside (h : x.Sound start) (m : Member) :
    (x.inside { x.scene.project with current := some m } ⟨m, x.scene.project.current⟩).Sound
      start where
  current := rfl
  ended := h.ended

theorem outside (hx : x.Sound start) (hy : y.Sound start) (m : Member) :
    (y.outside x ⟨m, x.scene.project.current⟩).Sound start where
  current := hx.current
  ended := by
    show m.id :: y.scene.project.ended = _
    rw [hy.ended]
    rfl

end Moment.Sound

/-- Every moment of a script is sound that begins at such a moment. -/
theorem Script.sound_of_mem {start : Project} (script : Script) {x : Moment} (hx : x.Sound start) :
    ∀ y ∈ (script.play x).moments, y.Sound start := by
  induction script generalizing x with
  | done | raise =>
    intro y hy
    rw [List.mem_singleton.mp hy]
    exact hx
  | edit e rest ih =>
    intro y hy
    rcases Played.mem_moments_since hy with rfl | hy
    · exact hx
    · exact ih (hx.edit e) y hy
  | executing name body rest hbody hrest =>
    intro y hy
    simp only [play] at hy
    cases htarget : x.scene.project.targets.get? name with
    | none =>
      rw [Project.enter_of_unknown htarget] at hy
      rw [List.mem_singleton.mp hy]
      exact hx
    | some m =>
      rw [Project.enter_of_found htarget] at hy
      -- the end of the block looks back at `x`, where it was opened, and at the end of its body
      have hinside := hbody (hx.inside m)
      have houtside := hx.outside (hinside _ (Played.last_mem_moments _)) m
      rcases Played.mem_moments_andThen hy with hy | hy
      · rcases Played.mem_moments_since hy with rfl | hy
        · exact hx
        · rcases Played.mem_moments_leaving hy with hy | rfl
          · exact hinside y hy
          · exact houtside
      · exact hrest houtside y hy
  | trying body rest hbody hrest =>
    intro y hy
    rcases Played.mem_moments_andThen hy with hy | hy
    · exact hbody hx y hy
    · exact hrest (hbody hx _ (Played.last_mem_moments _)) y hy

/-- After a script the target is being executed that was being executed before it. -/
theorem Script.current_last (script : Script) (x : Moment) :
    (script.play x).last.scene.project.current = x.scene.project.current := by
  induction script generalizing x with
  | done | raise => rfl
  | edit e rest ih => exact (ih _).trans (x.scene.current_edit e)
  | executing name body rest hbody hrest =>
    simp only [play]
    cases htarget : x.scene.project.targets.get? name with
    | none => rw [Project.enter_of_unknown htarget]
    | some m =>
      rw [Project.enter_of_found htarget]
      dsimp only
      -- the body does not matter: its end restores what was seen when the block was opened
      rcases Played.last_andThen _ _ with hlast | hlast
      · rw [hlast]
        rfl
      · rw [hlast]
        exact hrest _
  | trying body rest hbody hrest =>
    simp only [play]
    rcases Played.last_andThen _ _ with hlast | hlast
    · rw [hlast]
      exact hbody x
    · rw [hlast]
      exact (hrest _).trans (hbody x)

/-! ## What is reported -/

/-- A session raises for a target that does not exist, and is as it was. -/
theorem Session.run_enter_of_unknown {s : Session} {projectName name execution : String} {h : Nat}
    {p : Project} (hname : s.projects.names.get? projectName = some h)
    (hp : s.projects.get? h = some p) (hunknown : p.targets.get? name = none) :
    (Session.enter projectName name execution).run.run s =
      (.error (.ofText "KeyError" (Missing.target name p.targets.keys).message), s) := by
  have hhandle : (Session.projectHandle projectName).run.run s = (.ok h, s) := by
    show (SessionM.found projectName (s.projects.names.get? projectName)).run.run s = _
    rw [hname]
    rfl
  have hproject : (Session.project projectName).run.run s = (.ok p, s) := by
    refine (SessionM.run_bind_of_ok hhandle _).trans ?_
    show (SessionM.found projectName (s.projects.get? h)).run.run s = _
    rw [hp]
    rfl
  refine (SessionM.run_bind_of_ok hhandle _).trans ((SessionM.run_bind_of_ok hproject _).trans ?_)
  rw [Project.enter_of_unknown hunknown]
  rfl

namespace Evaluation

/-- At this moment the functions about targets answer as the lists tell, and blocks are opened and
left as they should be. -/
structure Reported (acts : List Act) (start : Project) (x : Moment) : Prop where
  idle_iff : result acts x.scene ⟨"target", "get-current-target", []⟩ =
    .ok (.failure (Call.failing ⟨"target", "get-current-target", []⟩ .invalidState
      "No target is being executed.")) ↔ x.opened = []
  innermost : ∀ m outer, x.opened = m :: outer →
    result acts x.scene ⟨"target", "get-current-target", []⟩ = .ok (.value (.text m.made.name))
  executed_iff : ∀ name,
    result acts x.scene (.about "target" "has-executed" name) = .ok (.value (.bool true)) ↔
      ∃ m, x.scene.project.targets.get? name = some m ∧
        ((∃ t ∈ x.left, t.id = m.id) ∨ m.made.executed = true ∨ m.id ∈ start.ended)
  unknown : ∀ name, x.scene.project.targets.get? name = none →
    let error := Raised.ofText "KeyError"
      (Missing.target name x.scene.project.targets.keys).message
    (∀ body rest, (Script.executing name body rest).play x = ⟨[], x, some error⟩) ∧
      ∀ (s : Session) projectName execution h, s.projects.names.get? projectName = some h →
        s.projects.get? h = some x.scene.project →
          (Session.enter projectName name execution).run.run s = (.error error, s)
  restored : ∀ name body,
    ((Script.executing name body .done).play x).last.scene.project.current =
      x.scene.project.current

variable {acts : List Act} {file : String}

theorem Reported.of_sound (h : Offers acts "target" (Core.targetFunctions file)) {start : Project}
    {x : Moment} (hx : x.Sound start) : Reported acts start x := by
  have hcurrent := h.target_getCurrentTarget x.scene
  rw [hx.current] at hcurrent
  refine ⟨?_, ?_, fun name => ?_, fun name hunknown => ⟨fun body rest => ?_, ?_⟩, ?_⟩
  · rw [hcurrent]
    cases x.opened with
    | nil => exact iff_of_true rfl rfl
    | cons m outer => simp [Call.answered]
  · intro m outer hopened
    rw [hcurrent, hopened]
    rfl
  · rw [h.target_hasExecuted]
    cases x.scene.project.targets.get? name with
    | none => simp [Call.answered]
    | some m =>
      simp [Call.answered, Project.hasExecuted, hx.ended, List.mem_append, or_left_comm]
  · rw [Script.play, Project.enter_of_unknown hunknown]
  · intro s projectName execution handle hname hp
    exact Session.run_enter_of_unknown hname hp hunknown
  · exact fun name body => Script.current_last _ x

/-- In a build in which no target is being executed at first, all of this holds at every moment of
every script. -/
theorem executions_reported (h : Offers acts "target" (Core.targetFunctions file)) {s : Scene}
    (hs : s.project.current = none) (script : Script) :
    ∀ x ∈ (script.play { scene := s }).moments, Reported acts s.project x := by
  intro x hx
  have hstart : Moment.Sound s.project { scene := s } := ⟨hs, rfl⟩
  exact .of_sound h (script.sound_of_mem hstart x hx)

/-- Another target takes the place of the first, and then there is an error. -/
def replacingBody : Script :=
  .edit (.addTarget ⟨1, { name := "a" }⟩) (.raise (.ofText "ValueError" "x"))

/-- A target is executed inside itself, and replaced there; the error is dealt with. -/
def replacing : Script :=
  .edit (.addTarget ⟨0, { name := "a" }⟩) <|
    .executing "a" (.trying (.executing "a" replacingBody .done) .done) .done

theorem reported_of_replacing :
    ∃ x, (replacing.play { scene := bareScene }).moments[5]? = some x ∧
      result (registering (libraryPlugins "")) x.scene ⟨"target", "get-current-target", []⟩ =
        .ok (.value (.text "a")) ∧
      result (registering (libraryPlugins "")) x.scene (.about "target" "has-executed" "a") ≠
        .ok (.value (.bool true)) := by
  refine ⟨_, rfl, ?_⟩
  have hreported := executions_reported (offers_library "" (.tail _ (.tail _ (.head _))) rfl)
    (s := bareScene) rfl replacing _ (List.mem_of_getElem? (i := 5) rfl)
  refine ⟨hreported.innermost ⟨0, { name := "a" }⟩ [] rfl, fun hexecuted => ?_⟩
  -- the first of the two has been left, and the name leads to the second
  obtain ⟨m, hm, hleft⟩ := (hreported.executed_iff "a").mp hexecuted
  obtain rfl : m = ⟨1, { name := "a" }⟩ := (Option.some.inj hm).symm
  rcases hleft with ⟨t, ht, hid⟩ | hmade | hended
  · obtain rfl : t = ⟨0, { name := "a" }⟩ := List.mem_singleton.mp ht
    cases hid
  · cases hmade
  · cases hended

end Evaluation

end BuildScript
