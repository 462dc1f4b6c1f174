import Mathlib.Data.List.Nodup
import Mathlib.Tactic.SplitIfs
import BuildScript.Proofs.TestRun.Selection

/-!
What a run of tests adds up to, where there are globs to skip or globs to keep, but not both. A test is
selected if the globs want it, or if they are not asked about it (`TestClass.Selects`). Main statement:
`TestClass.run_accounted`. Every selected test happens between its own set-up and tear-down, and of every
other one nothing happens; what is reported of a test is on the record that fits it, and where set-up and
tear-down go well that is one record; and in the output everything that is reported has its mark, in the
colour of that record.
-/

namespace BuildScript

/-! ## Records and marks -/

/-- The records of a run, in which its tests are listed. -/
inductive TestRecord where
  | passed
  | failures
  | errors
  | skipped
  deriving Repr, DecidableEq

/-- The code that turns the colour of a record on. -/
def TestRecord.colorCode : TestRecord → String
  | passed => "\x1b[32m"
  | failures => "\x1b[35m"
  | errors => "\x1b[31m"
  | skipped => "\x1b[36m"

theorem TestRecord.colorCode_injective : Function.Injective colorCode := by
  intro a b h
  cases a <;> cases b <;> first | rfl | exact absurd h (by decide)

namespace TestOutcome

/-- The record that fits an outcome. -/
def record : TestOutcome → TestRecord
  | passed => .passed
  | failed => .failures
  | broken => .errors
  | skipped _ => .skipped

/-- The reason of a test that is skipped. -/
def reason? : TestOutcome → Option String
  | skipped reason => some reason
  | _ => none

/-- What is reported of an outcome. -/
def mark (o : TestOutcome) : Verbosity → String
  | .quiet => ""
  | .dots => o.dot
  | .lines => o.line

/-- A text in the colour of the record that fits an outcome. -/
def inColor (o : TestOutcome) (text : String) : String :=
  o.record.colorCode ++ text ++ "\x1b[0m"

theorem colorOn_color (o : TestOutcome) : colorOn o.color.code = o.record.colorCode := by
  have hgreen : colorOn Color.green.code = "\x1b[32m" := by decide +kernel
  have hmagenta : colorOn Color.magenta.code = "\x1b[35m" := by decide +kernel
  have hred : colorOn Color.red.code = "\x1b[31m" := by decide +kernel
  have hcyan : colorOn Color.cyan.code = "\x1b[36m" := by decide +kernel
  cases o with
  | passed => exact hgreen
  | failed => exact hmagenta
  | broken => exact hred
  | skipped reason => exact hcyan

end TestOutcome

/-! ### Codes inside a mark

The reason of a skipped test is any text. Where it is reported it is quoted, and so cannot hold a colour
code of its own. -/

namespace Text

theorem escape_not_mem_hexDigits (width n : Nat) : '\x1b' ∉ hexDigits width n := by
  have hdigit : ∀ d < 16, Nat.digitChar d ≠ '\x1b' := by decide
  induction width generalizing n with
  | zero => simp [hexDigits]
  | succ w ih =>
    intro h
    rcases List.mem_append.mp h with h | h
    · exact ih _ h
    · exact hdigit (n % 16) (Nat.mod_lt _ (by omega)) (List.mem_singleton.mp h).symm

theorem escape_not_mem_escapeCode (n : Nat) : '\x1b' ∉ escapeCode n := by
  unfold escapeCode
  split_ifs <;> simp [escape_not_mem_hexDigits]

theorem escape_not_mem_controlEscape {c : Char} {cs : List Char} (h : controlEscape? c = some cs) :
    '\x1b' ∉ cs := by
  unfold controlEscape? at h
  split_ifs at h <;> obtain rfl := Option.some.inj h <;> decide

theorem escape_not_mem_quoteChar {quote : Char} (hquote : quote ≠ '\x1b') (c : Char) :
    '\x1b' ∉ quoteChar quote c := by
  unfold quoteChar
  split
  next hown =>
    intro h
    obtain rfl : c = '\x1b' := by simpa [eq_comm] using h
    simp [hquote.symm] at hown
  next =>
    split
    next cs hcontrol => exact escape_not_mem_controlEscape hcontrol
    next =>
      split_ifs with hshown
      · have hhidden : isPrintable '\x1b' = false := by decide +kernel
        intro h
        rw [List.mem_singleton.mp h, hshown] at hhidden
        exact Bool.noConfusion hhidden
      · exact escape_not_mem_escapeCode _

theorem escape_not_mem_quoted (s : String) : '\x1b' ∉ (quoted s).toList := by
  have hquote : ∀ a b, chooseQuote a b ≠ '\x1b' := by decide
  have hne := hquote (s.toList.contains '\'') (s.toList.contains '"')
  simp only [quoted, quoteChars, String.toList_ofList, List.mem_cons, List.mem_append, List.mem_flatMap,
    List.not_mem_nil, or_false]
  rintro (h | ⟨c, -, h⟩ | h)
  · exact hne h.symm
  · exact escape_not_mem_quoteChar hne c h
  · exact hne h.symm

end Text

theorem TestOutcome.escape_not_mem_mark (o : TestOutcome) (v : Verbosity) : '\x1b' ∉ (o.mark v).toList := by
  cases v with
  | quiet => simp [mark]
  | dots => cases o <;> simp [mark, dot]
  | lines =>
    cases o with
    | skipped reason =>
      have hreason := Text.escape_not_mem_quoted reason
      simp [mark, line, hreason]
    | _ => simp [mark, line]

namespace TestReport

/-- The tests of a record, in the order in which they were run. -/
def recorded (r : TestReport) : TestRecord → List String
  | .passed => r.withOutcome .passed
  | .failures => r.withOutcome .failed
  | .errors => r.withOutcome .broken
  | .skipped => r.skipped.map (·.1)

theorem skipped_eq (r : TestReport) :
    r.skipped = r.results.filterMap fun t => t.outcome.reason?.map (t.name, ·) := by
  unfold skipped
  congr 1
  funext t
  cases t.outcome <;> rfl

/-- A record lists the results whose outcomes it fits. -/
theorem recorded_eq (r : TestReport) (k : TestRecord) :
    r.recorded k = (r.results.filter fun t => t.outcome.record = k).map (·.name) := by
  have hplain {o : TestOutcome} (h : ∀ o', o'.record = o.record → o' = o) :
      r.withOutcome o = (r.results.filter fun t => t.outcome.record = o.record).map (·.name) := by
    unfold withOutcome
    congr 2
    funext t
    exact decide_eq_decide.mpr ⟨congrArg _, h _⟩
  cases k with
  | passed => exact hplain (o := .passed) fun o' h => by cases o' <;> first | rfl | cases h
  | failures => exact hplain (o := .failed) fun o' h => by cases o' <;> first | rfl | cases h
  | errors => exact hplain (o := .broken) fun o' h => by cases o' <;> first | rfl | cases h
  | skipped =>
    rw [recorded, skipped_eq]
    induction r.results with
    | nil => rfl
    | cons t ts ih =>
      rw [List.filterMap_cons, List.filter_cons]
      cases t.outcome <;> simpa [TestOutcome.reason?, TestOutcome.record] using ih

/-! ### What is printed -/

section

variable (r : TestReport) (v : Verbosity) (name about : String) (e : TestEvent) (o : TestOutcome)

@[simp] theorem output_start :
    (r.start v about).output = r.output ++ if v = .lines then about ++ " ... " else "" := by
  unfold start
  split <;> simp [write]

@[simp] theorem fresh_start : (r.start v about).fresh = if v = .lines then false else r.fresh := by
  unfold start
  split <;> rfl

@[simp] theorem output_happen : (r.happen e).output = r.output := rfl

@[simp] theorem fresh_happen : (r.happen e).fresh = r.fresh := rfl

/-- The mark stands between the code of its colour and the one that turns colours off, with the name of the
test in front of it where a line begins with it. -/
@[simp] theorem output_add :
    (r.add v name about o).output = r.output ++
      o.inColor ((if v = .lines ∧ r.fresh = true then about ++ " ... " else "") ++ o.mark v) := by
  cases v with
  | lines =>
    cases hfresh : r.fresh <;>
      simp [add, mark, write, TestOutcome.inColor, TestOutcome.mark, o.colorOn_color, colorOff, hfresh,
        String.append_assoc]
  | _ =>
    simp [add, mark, write, TestOutcome.inColor, TestOutcome.mark, o.colorOn_color, colorOff,
      String.append_assoc]

@[simp] theorem fresh_add : (r.add v name about o).fresh = if v = .lines then true else r.fresh := by
  cases v <;> rfl

end

end TestReport

/-! ## The run -/

namespace TestClass

variable {c : TestClass} {s : TestSelection}

/-- The test is selected: the globs want it, or they are not asked about it. -/
def Selects (c : TestClass) (s : TestSelection) (t : TestMethod) : Prop :=
  c.Wants s t ∨ t.isMarked = false

instance (c : TestClass) (s : TestSelection) (t : TestMethod) : Decidable (c.Wants s t) :=
  decidable_of_iff _ (wants_iff c s t).symm

instance (c : TestClass) (s : TestSelection) (t : TestMethod) : Decidable (c.Selects s t) :=
  inferInstanceAs (Decidable (_ ∨ _))

/-- With globs of one kind only, none of them goes unasked. -/
theorem runs_iff_selects (hone : s.skip = [] ∨ s.only = []) (t : TestMethod) :
    c.Runs s t ↔ c.Selects s t := by
  have hasked : ¬c.Wants s t → ¬(s.skip ≠ [] ∧ ¬Hits s.skip (c.selectors t)) := by
    intro hunwanted hunasked
    rcases hone with hskip | honly
    · exact hunasked.1 hskip
    · exact hunwanted ⟨hunasked.2, .inl honly⟩
  rw [Runs, Selects, overlooks_iff]
  by_cases hwants : c.Wants s t
  · simp [hwants]
  · simp only [hwants, not_false_eq_true, true_and, false_or, hasked hwants, or_false]

/-- What is reported of a test in a run. -/
def comesTo (c : TestClass) (s : TestSelection) (t : TestMethod) : List TestOutcome :=
  if c.Selects s t then c.reported t else [.skipped "via cmdline"]

/-- What is printed in front of the marks of a test. -/
def opening (c : TestClass) (v : Verbosity) (t : TestMethod) : String :=
  if v = .lines then c.describe t ++ " ... " else ""

/-- The marks of a test, each in its colour. What is printed in front of the first one is repeated within
the colour of every later one. -/
def marks (c : TestClass) (v : Verbosity) (t : TestMethod) : List TestOutcome → String
  | [] => ""
  | o :: later =>
    o.inColor (o.mark v) ++ String.join (later.map fun o => o.inColor (c.opening v t ++ o.mark v))

theorem results_run_selects (hone : s.skip = [] ∨ s.only = []) (v : Verbosity) :
    (c.run s v).results = c.tests.flatMap fun t => (c.comesTo s t).map (TestResult.mk t.name) := by
  rw [results_run]
  simp only [runs_iff_selects hone]
  rfl

theorem events_run_selects (hone : s.skip = [] ∨ s.only = []) (v : Verbosity) :
    (c.run s v).events = c.tests.flatMap fun t => if c.Selects s t then c.around t else [] := by
  simp only [events_run, runs_iff_selects hone]

/-- What one test adds to the output. -/
theorem output_runOne (hone : s.skip = [] ∨ s.only = []) (v : Verbosity) (r : TestReport)
    (t : TestMethod) :
    (c.runOne s v r t).output = r.output ++ (c.opening v t ++ c.marks v t (c.comesTo s t)) := by
  unfold runOne
  rw [fetch_eq]
  simp only [runs_iff_selects hone, comesTo, opening]
  by_cases hselects : c.Selects s t
  · simp only [if_pos hselects, reported]
    by_cases hsetUp : c.setUp = .passed
    · by_cases hbody : t.outcome = .passed <;> by_cases hdown : c.tearDown = .passed <;>
        by_cases hlines : v = .lines <;>
          simp [TestReport.part, marks, opening, hsetUp, hbody, hdown, hlines, String.append_assoc]
    · by_cases hlines : v = .lines <;>
        simp [TestReport.part, marks, opening, hsetUp, hlines, String.append_assoc]
  · by_cases hlines : v = .lines <;>
      simp [marks, opening, hselects, deselectedReason, hlines, String.append_assoc]

theorem output_run_selects (hone : s.skip = [] ∨ s.only = []) (v : Verbosity) :
    (c.run s v).output = String.join (c.tests.map fun t => c.opening v t ++ c.marks v t (c.comesTo s t)) := by
  have hfold : ∀ (ts : List TestMethod) (r : TestReport), (ts.foldl (c.runOne s v) r).output =
      r.output ++ String.join (ts.map fun t => c.opening v t ++ c.marks v t (c.comesTo s t)) := by
    intro ts
    induction ts with
    | nil => simp [String.join]
    | cons t ts ih =>
      intro r
      rw [List.foldl_cons, ih, output_runOne hone, List.map_cons, String.join_cons, String.append_assoc]
  exact (hfold c.tests {}).trans (String.empty_append ..)

theorem recorded_run (hone : s.skip = [] ∨ s.only = []) (v : Verbosity) (k : TestRecord) :
    (c.run s v).recorded k = c.tests.flatMap fun t =>
      ((c.comesTo s t).filter fun o => o.record = k).map fun _ => t.name := by
  rw [TestReport.recorded_eq, results_run_selects hone, List.filter_flatMap, List.map_flatMap]
  simp only [List.filter_map, List.map_map]
  rfl

/-- Where set-up and tear-down go well, one thing is reported of a test. -/
theorem comesTo_of_passed (hsetUp : c.setUp = .passed) (hdown : c.tearDown = .passed) (t : TestMethod) :
    c.comesTo s t = [if c.Selects s t then t.outcome else .skipped "via cmdline"] := by
  unfold comesTo reported
  by_cases hselects : c.Selects s t <;> by_cases hbody : t.outcome = .passed <;>
    simp [hsetUp, hdown, hselects, hbody]

/-- Tests of different names are told apart in the records. -/
theorem mem_recorded_run_iff (hone : s.skip = [] ∨ s.only = []) (v : Verbosity)
    (hnames : (c.tests.map (·.name)).Nodup) {t : TestMethod} (ht : t ∈ c.tests) (k : TestRecord) :
    t.name ∈ (c.run s v).recorded k ↔ ∃ o ∈ c.comesTo s t, o.record = k := by
  rw [recorded_run hone, List.mem_flatMap]
  constructor
  · rintro ⟨u, hu, hname⟩
    obtain ⟨o, ho, hname⟩ := List.mem_map.mp hname
    have hsame : u = t := List.inj_on_of_nodup_map hnames hu ht hname
    obtain ⟨hmem, hrecord⟩ := List.mem_filter.mp ho
    exact ⟨o, hsame ▸ hmem, of_decide_eq_true hrecord⟩
  · rintro ⟨o, ho, hrecord⟩
    exact ⟨t, ht, List.mem_map.mpr ⟨o, List.mem_filter.mpr ⟨ho, decide_eq_true hrecord⟩, rfl⟩⟩

/-- With globs to skip or globs to keep, but not both, a run counts every test. What happens is, for one
selected test after the other, that its set-up, it itself and its tear-down happen, whatever it comes to,
and for all others nothing; a set-up that goes wrong keeps the test and its tear-down from happening. A
record lists the tests of which it fits something that was reported, in their order, and those that are
not selected are skipped, with a reason of their own. Where set-up and tear-down go well, each test is in
one record and in no other. And the output is that of one test after the other, where a mark stands
between the code of its colour and the one that turns colours off, and holds no code itself. -/
theorem run_accounted (c : TestClass) (s : TestSelection) (v : Verbosity)
    (hone : s.skip = [] ∨ s.only = []) :
    (c.run s v).started = c.tests.length ∧
      (c.run s v).events = (c.tests.flatMap fun t => if c.Selects s t then c.around t else []) ∧
      (∀ k, (c.run s v).recorded k = c.tests.flatMap fun t =>
        ((c.comesTo s t).filter fun o => o.record = k).map fun _ => t.name) ∧
      ((c.run s v).skipped =
        c.tests.flatMap fun t => (c.comesTo s t).filterMap fun o => o.reason?.map (t.name, ·)) ∧
      (c.run s v).output =
        String.join (c.tests.map fun t => c.opening v t ++ c.marks v t (c.comesTo s t)) ∧
      (∀ o, '\x1b' ∉ (TestOutcome.mark o v).toList) ∧ Function.Injective TestRecord.colorCode ∧
      (c.setUp = .passed → c.tearDown = .passed →
        (∀ t, c.around t = [.setUp, .body t.name, .tearDown]) ∧
          (∀ t, c.comesTo s t = [if c.Selects s t then t.outcome else .skipped "via cmdline"]) ∧
          ((c.tests.map (·.name)).Nodup → ∀ t ∈ c.tests, ∀ k, t.name ∈ (c.run s v).recorded k ↔
            k = (if c.Selects s t then t.outcome else .skipped "via cmdline").record)) := by
  have hskipped : (c.run s v).skipped =
      c.tests.flatMap fun t => (c.comesTo s t).filterMap fun o => o.reason?.map (t.name, ·) := by
    rw [TestReport.skipped_eq, results_run_selects hone, List.filterMap_flatMap]
    simp only [List.filterMap_map]
    rfl
  refine ⟨started_run v, events_run_selects hone v, recorded_run hone v, hskipped,
    output_run_selects hone v, fun o => o.escape_not_mem_mark v, TestRecord.colorCode_injective,
    fun hsetUp hdown => ⟨fun t => ?_, comesTo_of_passed hsetUp hdown, fun hnames t ht k => ?_⟩⟩
  · rw [around, if_pos hsetUp]
  · rw [mem_recorded_run_iff hone v hnames ht, comesTo_of_passed hsetUp hdown]
    simp [eq_comm]

/-- A class with two tests. -/
def pair : TestClass :=
  { name := "MyCases", moduleName := "mod", file := ⟨.relative, ["My_Tests.py"]⟩
    tests := [{ name := "test_a", outcome := .failed }, { name := "test_b", outcome := .passed }] }

theorem run_accounted_pair :
    (pair.run ⟨["b"], []⟩ .dots).started = 2 ∧
      (pair.run ⟨["b"], []⟩ .dots).events = [.setUp, .body "test_a", .tearDown] ∧
      (pair.run ⟨["b"], []⟩ .dots).recorded .failures = ["test_a"] ∧
      (∀ k, "test_b" ∈ (pair.run ⟨["b"], []⟩ .dots).recorded k ↔ k = .skipped) ∧
      (pair.run ⟨["b"], []⟩ .dots).skipped = [("test_b", "via cmdline")] ∧
      (pair.run ⟨["b"], []⟩ .dots).output = "\x1b[35mF\x1b[0m\x1b[36ms\x1b[0m" := by
  let a : TestMethod := { name := "test_a", outcome := .failed }
  let b : TestMethod := { name := "test_b", outcome := .passed }
  have hnamesA : pair.selectors a = ["a", "mycases", "my_tests"] := by decide +kernel
  have hnamesB : pair.selectors b = ["b", "mycases", "my_tests"] := by decide +kernel
  have hglob : ∀ names, Hits ["b"] names ↔ "b" ∈ names := fun names =>
    hits_singleton_iff (by decide +kernel) (by decide +kernel)
  have hkept : ¬Hits ["b"] (pair.selectors a) := by
    rw [hglob, hnamesA]
    decide
  have hskipped : Hits ["b"] (pair.selectors b) := by
    rw [hglob, hnamesB]
    decide
  have hmarked : b.isMarked = true := by decide +kernel
  have hselected : pair.Selects ⟨["b"], []⟩ a := .inl ⟨hkept, .inl rfl⟩
  have hdeselected : ¬pair.Selects ⟨["b"], []⟩ b := by
    intro h
    rcases h with h | h
    · exact h.kept hskipped
    · exact Bool.noConfusion (hmarked.symm.trans h)
  have htests : pair.tests = [a, b] := rfl
  obtain ⟨hstarted, hevents, hrecorded, hskip, houtput, -, -, hwell⟩ :=
    run_accounted pair ⟨["b"], []⟩ .dots (.inr rfl)
  obtain ⟨haround, hcomes, hunique⟩ := hwell rfl rfl
  have hfailed : pair.comesTo ⟨["b"], []⟩ a = [.failed] := by
    rw [hcomes, if_pos hselected]
  have hvia : pair.comesTo ⟨["b"], []⟩ b = [.skipped "via cmdline"] := by
    rw [hcomes, if_neg hdeselected]
  have hrecord (k : TestRecord) :
      "test_b" ∈ (pair.run ⟨["b"], []⟩ .dots).recorded k ↔ k = .skipped := by
    have htold := hunique (by decide) b (by simp [htests]) k
    rwa [if_neg hdeselected] at htold
  refine ⟨hstarted, hevents.trans ?_, (hrecorded _).trans ?_, hrecord, hskip.trans ?_, houtput.trans ?_⟩
  · simp [htests, hselected, hdeselected, haround, a]
  · simp [htests, hfailed, hvia, TestOutcome.record, a]
  · simp [htests, hfailed, hvia, TestOutcome.reason?, b]
  · simp [htests, hfailed, hvia, marks, opening, TestOutcome.inColor, TestOutcome.record,
      TestRecord.colorCode, TestOutcome.mark, TestOutcome.dot, String.join]

/-- A test whose name does not begin as those of tests do. -/
def testc : TestMethod := { name := "testc", outcome := .passed }

/-- A test that is called on nothing. -/
def loose : TestMethod := { name := "test_x", kind := .static, outcome := .passed }

/-- A class of tests about which no globs are asked. -/
def unmarked : TestClass :=
  { name := "MyCases", moduleName := "mod", file := ⟨.relative, ["My_Tests.py"]⟩, tests := [testc, loose] }

/-- A class whose set-up fails. -/
def downed : TestClass := { unmarked with setUp := .failed }

/-- The tests happen also where a glob to skip stands for the name of their class; and where the set-up
fails, a test that is wanted does not happen. -/
theorem unmarked_runs :
    (¬unmarked.Wants ⟨["mycases"], []⟩ testc ∧ ¬unmarked.Wants ⟨["mycases"], []⟩ loose) ∧
      (unmarked.run ⟨["mycases"], []⟩ .dots).events =
        [.setUp, .body "testc", .tearDown, .setUp, .body "test_x", .tearDown] ∧
      (unmarked.run ⟨["mycases"], []⟩ .dots).skipped = [] ∧
      (∀ t, downed.Wants ⟨[], []⟩ t) ∧
      (downed.run ⟨[], []⟩ .dots).events = [.setUp, .setUp] := by
  have hhits : ∀ t ∈ [testc, loose], Hits ["mycases"] (unmarked.selectors t) := by
    intro t ht
    have hname : "mycases" ∈ unmarked.selectors t := by
      have hlower : Text.lower unmarked.name = "mycases" := by decide +kernel
      simp [selectors, hlower]
    exact (hits_singleton_iff (by decide +kernel) (by decide +kernel)).mpr hname
  have hselects : ∀ t ∈ [testc, loose], unmarked.Selects ⟨["mycases"], []⟩ t := by
    intro t ht
    simp only [List.mem_cons, List.not_mem_nil, or_false] at ht
    rcases ht with rfl | rfl <;> exact .inr (by decide +kernel)
  have hone : (⟨["mycases"], []⟩ : TestSelection).skip = [] ∨ (⟨["mycases"], []⟩ : TestSelection).only = [] :=
    .inr rfl
  have htests : unmarked.tests = [testc, loose] := rfl
  have hpassed : ∀ t ∈ [testc, loose], unmarked.comesTo ⟨["mycases"], []⟩ t = [.passed] := by
    intro t ht
    rw [comesTo_of_passed rfl rfl, if_pos (hselects t ht)]
    simp only [List.mem_cons, List.not_mem_nil, or_false] at ht
    rcases ht with rfl | rfl <;> rfl
  have hwanted : ∀ t, downed.Wants ⟨[], []⟩ t := fun t => ⟨by simp [Hits], .inl rfl⟩
  refine ⟨⟨fun h => h.kept (hhits _ (by simp)), fun h => h.kept (hhits _ (by simp))⟩, ?_, ?_, hwanted, ?_⟩
  · rw [events_run_selects hone, htests]
    rw [List.flatMap_cons, List.flatMap_singleton, if_pos (hselects _ (by simp)),
      if_pos (hselects _ (by simp))]
    rfl
  · rw [TestReport.skipped_eq, results_run_selects hone, htests]
    rw [List.flatMap_cons, List.flatMap_singleton, hpassed _ (by simp), hpassed _ (by simp)]
    rfl
  · have hselected (t : TestMethod) : downed.Selects ⟨[], []⟩ t := .inl (hwanted t)
    rw [events_run_selects (.inl rfl)]
    simp only [hselected, if_true]
    rfl

end TestClass

end BuildScript
