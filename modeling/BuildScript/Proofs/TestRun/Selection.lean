import Mathlib.Tactic.MkIffOfInductiveProp
import Mathlib.Tactic.Tauto
import BuildScript.TestRun

/-!
Which tests of a class are run. What a glob stands for is told by its parts (`GlobPart.Stands`), and a
test is wanted if no glob to skip stands for one of its names, and one of the globs to keep does where
there are any (`TestClass.Wants`). Main statement: `TestClass.run_selected`, that exactly the tests are
run that are wanted or overlooked, and all others skipped. A test is overlooked
(`TestClass.Overlooks`) where the globs to keep are not asked because there are others to skip, and
where no globs are asked: it is bound to nothing, or its name does not begin as those of tests do.
-/

namespace BuildScript

/-! ## Globs -/

namespace GlobPart

/-- The texts that parts stand for: a star for any text, any other part for one character, which is in
one of its ranges unless the part is negated. -/
inductive Stands : List GlobPart → List Char → Prop where
  | nil : Stands [] []
  | star (front : List Char) {rest : List GlobPart} {cs : List Char} (h : Stands rest cs) :
      Stands (.star :: rest) (front ++ cs)
  | oneOf {negated : Bool} {ranges : List (Char × Char)} {c : Char} {rest : List GlobPart}
      {cs : List Char} (hc : (∃ r ∈ ranges, r.1 ≤ c ∧ c ≤ r.2) ↔ negated = false)
      (h : Stands rest cs) : Stands (.oneOf negated ranges :: rest) (c :: cs)

theorem accepts_iff {negated : Bool} {ranges : List (Char × Char)} {c : Char} :
    accepts negated ranges c = true ↔ ((∃ r ∈ ranges, r.1 ≤ c ∧ c ≤ r.2) ↔ negated = false) := by
  have hany : ranges.any (fun r => r.1 ≤ c && c ≤ r.2) = true ↔ ∃ r ∈ ranges, r.1 ≤ c ∧ c ≤ r.2 := by
    simp
  rw [← hany, accepts]
  cases ranges.any fun r => r.1 ≤ c && c ≤ r.2 <;> cases negated <;> simp

theorem stands_star_nil {rest : List GlobPart} : Stands (.star :: rest) [] ↔ Stands rest [] := by
  constructor
  · intro h
    generalize hcs : ([] : List Char) = cs at h
    cases h with
    | star front h => rwa [← hcs, ← (List.append_eq_nil_iff.mp hcs.symm).2]
  · exact fun h => .star [] h

/-- A star stands for nothing, or takes one character more. -/
theorem stands_star_cons {rest : List GlobPart} {c : Char} {cs : List Char} :
    Stands (.star :: rest) (c :: cs) ↔ Stands rest (c :: cs) ∨ Stands (.star :: rest) cs := by
  constructor
  · intro h
    generalize htext : c :: cs = text at h
    cases h with
    | star front h =>
      rcases List.cons_eq_append_iff.mp htext with ⟨rfl, rfl⟩ | ⟨front, rfl, rfl⟩
      · exact .inl h
      · exact .inr (.star front h)
  · rintro (h | h)
    · exact .star [] h
    · generalize hparts : (.star :: rest : List GlobPart) = parts at h
      cases h with
      | star front h =>
        obtain ⟨-, rfl⟩ := List.cons.inj hparts
        exact .star (c :: front) h
      | nil => cases hparts
      | oneOf => cases hparts

/-- The matcher accepts the texts that the parts stand for. -/
theorem matchesAll_iff (parts : List GlobPart) (cs : List Char) :
    matchesAll parts cs = true ↔ Stands parts cs := by
  fun_induction matchesAll parts cs with
  | case1 cs =>
    rw [List.isEmpty_iff]
    constructor
    · rintro rfl
      exact .nil
    · intro h
      cases h
      rfl
  | case2 rest ih => rw [ih, stands_star_nil]
  | case3 rest c cs ih₁ ih₂ => rw [Bool.or_eq_true, ih₁, ih₂, stands_star_cons]
  | case4 negated ranges rest => exact iff_of_false nofun nofun
  | case5 negated ranges rest c cs ih =>
    rw [Bool.and_eq_true, ih, accepts_iff]
    constructor
    · rintro ⟨hc, h⟩
      exact .oneOf hc h
    · intro h
      cases h with
      | oneOf hc h => exact ⟨hc, h⟩

/-- The part for one character stands for it alone. -/
theorem stands_char_cons {c : Char} {rest : List GlobPart} {text : List Char} :
    Stands (char c :: rest) text ↔ ∃ cs, text = c :: cs ∧ Stands rest cs := by
  constructor
  · intro h
    cases h with
    | oneOf hc h =>
      obtain ⟨r, hr, hlow, hhigh⟩ := hc.mpr rfl
      rw [List.mem_singleton.mp hr] at hlow hhigh
      rw [Char.le_antisymm hhigh hlow]
      exact ⟨_, rfl, h⟩
  · rintro ⟨cs, rfl, h⟩
    exact .oneOf (iff_of_true ⟨(c, c), List.mem_singleton_self _, Char.le_refl c, Char.le_refl c⟩ rfl) h

/-- Parts for characters stand for these. -/
theorem stands_map_char_iff {cs text : List Char} : Stands (cs.map char) text ↔ text = cs := by
  induction cs generalizing text with
  | nil => rw [List.map_nil, ← matchesAll_iff, matchesAll, List.isEmpty_iff]
  | cons c cs ih =>
    rw [List.map_cons, stands_char_cons]
    constructor
    · rintro ⟨rest, rfl, h⟩
      rw [ih.mp h]
    · intro h
      exact ⟨cs, h, ih.mpr rfl⟩

end GlobPart

/-- No character of the glob is anything but itself. -/
def Glob.isPlain (cs : List Char) : Bool := cs.all fun c => c ∉ ['*', '?', '[']

theorem Glob.parts_of_isPlain {cs : List Char} (h : Glob.isPlain cs = true) :
    Glob.parts cs = cs.map GlobPart.char := by
  induction cs with
  | nil => rw [Glob.parts]; rfl
  | cons c cs ih =>
    rw [isPlain, List.all_cons, Bool.and_eq_true, decide_eq_true_iff] at h
    obtain ⟨hc, hrest⟩ := h
    obtain ⟨hstar, hany, hbracket⟩ : c ≠ '*' ∧ c ≠ '?' ∧ c ≠ '[' := by simpa using hc
    rw [Glob.parts, if_neg hstar, if_neg hany, if_neg hbracket, ih hrest, List.map_cons]

/-- One of the globs stands for one of the names. Capitals in a glob are taken as small letters. -/
def Hits (globs names : List String) : Prop :=
  ∃ g ∈ globs, ∃ n ∈ names, GlobPart.Stands (Glob.parts (Text.lower g).toList) n.toList

theorem anyMatch_iff {globs names : List String} : anyMatch globs names = true ↔ Hits globs names := by
  simp only [anyMatch, Hits, globMatches, List.any_eq_true, GlobPart.matchesAll_iff]

instance (globs names : List String) : Decidable (Hits globs names) :=
  decidable_of_iff _ anyMatch_iff

/-- A glob without special characters and capitals stands for itself alone. -/
theorem hits_singleton_iff {g : String} {names : List String} (hplain : Glob.isPlain g.toList = true)
    (hlower : Text.lower g = g) : Hits [g] names ↔ g ∈ names := by
  simp only [Hits, List.mem_singleton, exists_eq_left, hlower, Glob.parts_of_isPlain hplain,
    GlobPart.stands_map_char_iff, String.toList_inj, exists_eq_right]

/-! ## Selection -/

namespace TestClass

variable {c : TestClass} {s : TestSelection} {t : TestMethod}

/-- Both lists of globs want the test: none to skip stands for one of its names, and one to keep does,
if there are any. -/
@[mk_iff wants_iff]
structure Wants (c : TestClass) (s : TestSelection) (t : TestMethod) : Prop where
  kept : ¬Hits s.skip (c.selectors t)
  chosen : s.only = [] ∨ Hits s.only (c.selectors t)

/-- The test is not wanted, and that goes unnoticed: it is bound to nothing or its name does not begin as
those of tests do, or there are globs to skip, none of which stands for it. -/
@[mk_iff overlooks_iff]
structure Overlooks (c : TestClass) (s : TestSelection) (t : TestMethod) : Prop where
  unwanted : ¬c.Wants s t
  cause : t.isMarked = false ∨ s.skip ≠ [] ∧ ¬Hits s.skip (c.selectors t)

/-- The test is one of those that are run. -/
def Runs (c : TestClass) (s : TestSelection) (t : TestMethod) : Prop :=
  c.Wants s t ∨ c.Overlooks s t

theorem excludes_eq_true_iff {names : List String} :
    s.excludes names = true ↔
      s.skip = [] ∧ s.only ≠ [] ∧ ¬Hits s.only names ∨ Hits s.skip names := by
  have hnone : ¬Hits [] names := by simp [Hits]
  unfold TestSelection.excludes
  by_cases hskip : s.skip = []
  · simp [hskip, hnone, ← anyMatch_iff]
  · simp [hskip, ← anyMatch_iff]

theorem deselected_iff : (t.isMarked && s.excludes (c.selectors t)) = true ↔ ¬c.Runs s t := by
  unfold Runs
  rw [Bool.and_eq_true, excludes_eq_true_iff, overlooks_iff, wants_iff]
  cases t.isMarked with
  | false => simp
  | true =>
    simp only [ne_eq, true_and, not_and, not_or, Bool.true_eq_false, false_or, Decidable.not_not]
    tauto

instance (c : TestClass) (s : TestSelection) (t : TestMethod) : Decidable (c.Runs s t) :=
  decidable_of_iff ((t.isMarked && s.excludes (c.selectors t)) = false) <| by
    rw [← Bool.not_eq_true, deselected_iff, not_not]

/-- What is given out for a test does what the test does, and is to be skipped if it is not to be run. -/
theorem fetch_eq (c : TestClass) (s : TestSelection) (t : TestMethod) :
    c.fetch s t = ⟨t.outcome, if c.Runs s t then none else some deselectedReason⟩ := by
  unfold fetch
  by_cases h : c.Runs s t
  · rw [if_pos h, if_neg fun hout => deselected_iff.mp hout h]
  · rw [if_neg h, if_pos (deselected_iff.mpr h)]

/-- What is claimed of a selection holds for a test exactly if the test is not overlooked. -/
theorem runs_iff_wants_iff : (c.Runs s t ↔ c.Wants s t) ↔ ¬c.Overlooks s t := by
  constructor
  · intro h hover
    exact hover.unwanted (h.mp (.inr hover))
  · intro h
    exact or_iff_left h

end TestClass

/-! ## What a report keeps

A report only grows: each step is told by what it appends. -/

namespace TestReport

section

variable (r : TestReport) (v : Verbosity) (name about text : String) (e : TestEvent) (o : TestOutcome)

@[simp] theorem started_start : (r.start v about).started = r.started + 1 := by
  unfold start
  split <;> rfl

@[simp] theorem results_start : (r.start v about).results = r.results := by
  unfold start
  split <;> rfl

@[simp] theorem events_start : (r.start v about).events = r.events := by
  unfold start
  split <;> rfl

@[simp] theorem started_write : (r.write text).started = r.started := rfl

@[simp] theorem results_write : (r.write text).results = r.results := rfl

@[simp] theorem events_write : (r.write text).events = r.events := rfl

/-- A mark is only printed. -/
theorem mark_eq : ∃ output fresh, r.mark v about o = { r with output, fresh } := by
  unfold mark
  cases v with
  | quiet => exact ⟨r.output, r.fresh, rfl⟩
  | dots => exact ⟨_, r.fresh, rfl⟩
  | lines =>
    dsimp only
    split <;> exact ⟨_, true, rfl⟩

@[simp] theorem started_mark : (r.mark v about o).started = r.started := by
  obtain ⟨output, fresh, h⟩ := r.mark_eq v about o
  rw [h]

@[simp] theorem results_mark : (r.mark v about o).results = r.results := by
  obtain ⟨output, fresh, h⟩ := r.mark_eq v about o
  rw [h]

@[simp] theorem events_mark : (r.mark v about o).events = r.events := by
  obtain ⟨output, fresh, h⟩ := r.mark_eq v about o
  rw [h]

@[simp] theorem started_add : (r.add v name about o).started = r.started := by simp [add]

@[simp] theorem results_add : (r.add v name about o).results = r.results ++ [TestResult.mk name o] := by
  simp [add]

@[simp] theorem events_add : (r.add v name about o).events = r.events := by simp [add]

@[simp] theorem started_part : (r.part v name about e o).started = r.started := by
  unfold part
  dsimp only
  split <;> simp [happen]

@[simp] theorem results_part :
    (r.part v name about e o).results =
      r.results ++ if o = .passed then [] else [TestResult.mk name o] := by
  unfold part
  dsimp only
  split <;> simp [happen]

@[simp] theorem events_part : (r.part v name about e o).events = r.events ++ [e] := by
  unfold part
  dsimp only
  split <;> simp [happen]

end

end TestReport

/-! ## Running -/

namespace TestClass

variable {c : TestClass} {s : TestSelection}

/-- What happens when a test is run. A set-up that goes wrong is all of it. -/
def around (c : TestClass) (t : TestMethod) : List TestEvent :=
  .setUp :: if c.setUp = .passed then [.body t.name, .tearDown] else []

/-- What is reported of a test that is run: what goes wrong in its set-up, or else in its body and in its
tear-down; and that it has passed if nothing does. -/
def reported (c : TestClass) (t : TestMethod) : List TestOutcome :=
  if c.setUp = .passed then
    if t.outcome = .passed ∧ c.tearDown = .passed then [.passed]
    else [t.outcome, c.tearDown].filter (· ≠ .passed)
  else [c.setUp]

/-- What one test adds to a report. -/
theorem runOne_grows (c : TestClass) (s : TestSelection) (v : Verbosity) (r : TestReport)
    (t : TestMethod) :
    (c.runOne s v r t).started = r.started + 1 ∧
      (c.runOne s v r t).results = r.results ++
        (if c.Runs s t then c.reported t else [.skipped deselectedReason]).map (TestResult.mk t.name) ∧
      (c.runOne s v r t).events = r.events ++ if c.Runs s t then c.around t else [] := by
  unfold runOne
  rw [fetch_eq]
  by_cases hruns : c.Runs s t
  · simp only [if_pos hruns, around, reported]
    by_cases hsetUp : c.setUp = .passed
    · by_cases hall : t.outcome = .passed ∧ c.tearDown = .passed
      · simp [hsetUp, hall]
      · simp only [if_pos hsetUp, if_neg hall]
        by_cases hbody : t.outcome = .passed <;> by_cases hdown : c.tearDown = .passed <;>
          simp [hsetUp, hbody, hdown]
    · simp [hsetUp]
  · simp [hruns]

/-- The tests of a list, run behind what was run before. -/
theorem foldl_runOne (c : TestClass) (s : TestSelection) (v : Verbosity) (ts : List TestMethod)
    (r : TestReport) :
    (ts.foldl (c.runOne s v) r).started = r.started + ts.length ∧
      (ts.foldl (c.runOne s v) r).results =
        r.results ++ ts.flatMap (fun t =>
          (if c.Runs s t then c.reported t else [.skipped deselectedReason]).map
            (TestResult.mk t.name)) ∧
      (ts.foldl (c.runOne s v) r).events =
        r.events ++ ts.flatMap (fun t => if c.Runs s t then c.around t else []) := by
  induction ts generalizing r with
  | nil => simp
  | cons t ts ih =>
    obtain ⟨hstarted, hresults, hevents⟩ := c.runOne_grows s v r t
    obtain ⟨hstarted', hresults', hevents'⟩ := ih (c.runOne s v r t)
    rw [List.foldl_cons, List.flatMap_cons, List.flatMap_cons, List.length_cons]
    refine ⟨?_, ?_, ?_⟩
    · rw [hstarted', hstarted]
      omega
    · rw [hresults', hresults, List.append_assoc]
    · rw [hevents', hevents, List.append_assoc]

theorem started_run (v : Verbosity) : (c.run s v).started = c.tests.length :=
  (c.foldl_runOne s v c.tests {}).1.trans (Nat.zero_add _)

theorem results_run (v : Verbosity) :
    (c.run s v).results = c.tests.flatMap fun t =>
      (if c.Runs s t then c.reported t else [.skipped deselectedReason]).map (TestResult.mk t.name) :=
  (c.foldl_runOne s v c.tests {}).2.1

theorem events_run (v : Verbosity) :
    (c.run s v).events = c.tests.flatMap fun t => if c.Runs s t then c.around t else [] :=
  (c.foldl_runOne s v c.tests {}).2.2

/-- The tests that are run, each with its set-up before and its tear-down after it, are those that are
wanted or overlooked, and all others are skipped. So a test is run exactly if it is wanted, unless it is
overlooked. -/
theorem run_selected (c : TestClass) (s : TestSelection) (v : Verbosity) :
    ((c.run s v).results = c.tests.flatMap fun t =>
        (if c.Runs s t then c.reported t else [.skipped deselectedReason]).map (TestResult.mk t.name)) ∧
      (c.run s v).events = (c.tests.flatMap fun t => if c.Runs s t then c.around t else []) ∧
      ∀ t, (c.Runs s t ↔ c.Wants s t) ↔ ¬c.Overlooks s t :=
  ⟨results_run v, events_run v, fun _ => runs_iff_wants_iff⟩

/-- A test that passes. -/
def testC : TestMethod := { name := "test_c", outcome := .passed }

/-- A class with one test. -/
def suite : TestClass :=
  { name := "MyCases", moduleName := "mod", file := ⟨.relative, ["My_Tests.py"]⟩, tests := [testC] }

/-- A test that no glob stands for is run where there are globs to skip, although only the tests of
another glob are to be kept. -/
theorem unkept_runs :
    ¬suite.Wants ⟨["a"], ["b"]⟩ testC ∧
      (suite.run ⟨["a"], ["b"]⟩ .dots).events = [.setUp, .body "test_c", .tearDown] := by
  have hnames : suite.selectors testC = ["c", "mycases", "my_tests"] := by decide +kernel
  have hskip : ¬Hits ["a"] (suite.selectors testC) := by
    rw [hits_singleton_iff (by decide +kernel) (by decide +kernel), hnames]
    decide
  have honly : ¬Hits ["b"] (suite.selectors testC) := by
    rw [hits_singleton_iff (by decide +kernel) (by decide +kernel), hnames]
    decide
  have hunwanted : ¬suite.Wants ⟨["a"], ["b"]⟩ testC := by
    rintro ⟨-, hchosen⟩
    simp [honly] at hchosen
  have hruns : suite.Runs ⟨["a"], ["b"]⟩ testC :=
    .inr ⟨hunwanted, .inr ⟨by simp, hskip⟩⟩
  have hone : (suite.run ⟨["a"], ["b"]⟩ .dots).events =
      if suite.Runs ⟨["a"], ["b"]⟩ testC then suite.around testC else [] := by
    rw [events_run, show suite.tests = [testC] from rfl, List.flatMap_singleton]
  rw [hone, if_pos hruns]
  exact ⟨hunwanted, rfl⟩

end TestClass

end BuildScript
