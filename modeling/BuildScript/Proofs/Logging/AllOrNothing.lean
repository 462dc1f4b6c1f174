import BuildScript.Proofs.Logging.Routing

/-!
Setting up the loggers changes all of them or none. What can be raised is raised before the first logger changes: the
format is looked at and the log file is opened first, and for a level that is one every handler can be set up
(`configure_number`). This does not depend on what opening a file comes to (`setUpWith_unchanged`), so it holds of file
systems that refuse for reasons that trees do not know. Main statement: `setUp_all_or_nothing`.
-/

namespace BuildScript

open Files (FileTree Path)

/-- The place of the log file, if it is open. -/
def LogFile.place : LogFile → Option (List String)
  | opened names => some names
  | _ => Option.none

namespace Loggers

variable {l : Loggers} {o : LogOutput} {columns : Int} {c : Config} {verbose : Bool} {n : Nat} {e : LoggingError}
  {template : String}

/-- Sets up the loggers, where opening the log file comes to this. -/
def setUpWith (l : Loggers) (o : LogOutput) (columns : Int) (c : Config) (verbose : Bool)
    (opening : Except LoggingError LogFile × FileTree) : LogSetup :=
  match levelNamed c.logLevel with
  | .error e => ⟨.error e, l, o⟩
  | .ok level =>
    match templateOf c.logFormat with
    | .error e => ⟨.error e, l, o⟩
    | .ok template =>
      let o := { o with files := opening.2 }
      match opening.1 with
      | .error e => ⟨.error e, l, o⟩
      | .ok file =>
        let (outcome, loggers) := l.configure verbose level template file
        match file with
        | .missing notice => ⟨outcome.map fun _ => false, loggers, o.add (noticeText columns notice) .errorOutput⟩
        | _ => ⟨outcome.map fun _ => true, loggers, o⟩

theorem setUp_eq_setUpWith (l : Loggers) (o : LogOutput) (columns : Int) (c : Config) (verbose : Bool) :
    l.setUp o columns c verbose = l.setUpWith o columns c verbose (openLog o.files c.logFile) := rfl

/-- For a level that is one, every handler can be set up. -/
theorem configure_number (l : Loggers) (verbose : Bool) (n : Nat) (template : String) (file : LogFile) :
    l.configure verbose (.number n) template file =
      (.ok (), l.reporting verbose n template (fileHandlers n template file.place)) := by
  cases file with
  | none => exact configure_none ..
  | opened names => exact configure_opened ..
  | missing notice => exact configure_missing ..

/-! ## What is raised -/

theorem setUpWith_of_flawed (hlevel : levelNamed c.logLevel = .ok (.number n))
    (htemplate : templateOf c.logFormat = .error e) (opening : Except LoggingError LogFile × FileTree) :
    l.setUpWith o columns c verbose opening = ⟨.error e, l, o⟩ := by
  unfold setUpWith
  simp only [hlevel, htemplate]

section Template

variable (hlevel : levelNamed c.logLevel = .ok (.number n)) (htemplate : templateOf c.logFormat = .ok template)

include hlevel htemplate

theorem setUpWith_of_error (files : FileTree) :
    l.setUpWith o columns c verbose (.error e, files) = ⟨.error e, l, { o with files }⟩ := by
  unfold setUpWith
  simp only [hlevel, htemplate]

/-- Once the log file has been opened, or is known to be missing, nothing is raised. -/
theorem exists_outcome_setUpWith (file : LogFile) (files : FileTree) :
    ∃ used, (l.setUpWith o columns c verbose (.ok file, files)).outcome = .ok used := by
  unfold setUpWith
  simp only [hlevel, htemplate, configure_number]
  cases file with
  | none => exact ⟨true, rfl⟩
  | opened names => exact ⟨true, rfl⟩
  | missing notice => exact ⟨false, rfl⟩

end Template

/-- What opening the log file comes to may be whatever it is: if something is raised, no logger has changed. -/
theorem setUpWith_unchanged (hlevel : levelNamed c.logLevel = .ok (.number n))
    (opening : Except LoggingError LogFile × FileTree)
    (h : (l.setUpWith o columns c verbose opening).outcome = .error e) :
    (l.setUpWith o columns c verbose opening).loggers = l ∧
      (l.setUpWith o columns c verbose opening).output.errors = o.errors := by
  obtain ⟨opened, files⟩ := opening
  cases htemplate : templateOf c.logFormat with
  | error flaw =>
    rw [setUpWith_of_flawed hlevel htemplate]
    exact ⟨rfl, rfl⟩
  | ok template =>
    cases opened with
    | error trouble =>
      rw [setUpWith_of_error hlevel htemplate]
      exact ⟨rfl, rfl⟩
    | ok file =>
      have hsucceeds : ∃ used, (l.setUpWith o columns c verbose (.ok file, files)).outcome = .ok used :=
        exists_outcome_setUpWith hlevel htemplate file files
      obtain ⟨used, hused⟩ := hsucceeds
      cases hused.symm.trans h

theorem setUp_unchanged (hlevel : levelNamed c.logLevel = .ok (.number n))
    (h : (l.setUp o columns c verbose).outcome = .error e) :
    (l.setUp o columns c verbose).loggers = l ∧ (l.setUp o columns c verbose).output.errors = o.errors := by
  rw [setUp_eq_setUpWith] at h ⊢
  exact setUpWith_unchanged hlevel _ h

/-- Setting up raises exactly for a format that is no template, and for a log file that is refused. -/
theorem raises_iff (hlevel : levelNamed c.logLevel = .ok (.number n)) :
    (l.setUp o columns c verbose).outcome = .error e ↔
      templateOf c.logFormat = .error e ∨
        (∃ template, templateOf c.logFormat = .ok template) ∧
          ∃ path t, c.logFile = some path ∧ o.files.Refused path t ∧ e = .trouble t := by
  cases htemplate : templateOf c.logFormat with
  | error flaw =>
    rw [setUp_eq_setUpWith, setUpWith_of_flawed hlevel htemplate]
    simp
  | ok template =>
    cases hfile : c.logFile with
    | none =>
      rw [setUp_of_none hlevel htemplate hfile]
      simp
    | some path =>
      rw [outcome_eq_error_iff hlevel htemplate hfile]
      simp only [reduceCtorEq, false_or, exists_apply_eq_apply', true_and, Option.some.injEq]
      constructor
      · rintro ⟨t, rfl, hrefused⟩
        exact ⟨path, t, rfl, hrefused, rfl⟩
      · rintro ⟨_, t, rfl, hrefused, rfl⟩
        exact ⟨t, rfl, hrefused⟩

/-! ## All or nothing -/

/-- Setting up the loggers for a level raises and leaves every logger as it was, or it succeeds, and then all handlers
have come. It raises exactly for a format that is no template and for a log file that is refused. Were opening the log
file to come to anything else, what is raised would leave the loggers as they were as well. -/
theorem setUp_all_or_nothing (l : Loggers) (o : LogOutput) (columns : Int) (c : Config) (verbose : Bool) {level : Level}
    (hlevel : Text.upper c.logLevel = level.name) :
    let s := l.setUp o columns c verbose
    (∀ e, s.outcome = .error e → s.loggers = l ∧ s.output.errors = o.errors) ∧
      (∀ used, s.outcome = .ok used → ∃ template place, templateOf c.logFormat = .ok template ∧
        o.files.LogsTo c.logFile place s.output.files ∧
        s.loggers = l.reporting verbose level.number template (fileHandlers level.number template place)) ∧
      (∀ e, s.outcome = .error e ↔ templateOf c.logFormat = .error e ∨
        (∃ template, templateOf c.logFormat = .ok template) ∧
          ∃ path t, c.logFile = some path ∧ o.files.Refused path t ∧ e = .trouble t) ∧
      ∀ opening e, (l.setUpWith o columns c verbose opening).outcome = .error e →
        (l.setUpWith o columns c verbose opening).loggers = l := by
  intro s
  have hnamed := levelNamed_of_level hlevel
  refine ⟨fun e he => setUp_unchanged hnamed he, fun used hused => exists_reporting hnamed hused,
    fun e => raises_iff hnamed, fun opening e he => ?_⟩
  exact (setUpWith_unchanged hnamed opening he).1

/-- A log file below another file is refused, and the handler that there was is the only one. -/
theorem setUp_all_or_nothing_belowFile :
    let l : Loggers := { rootHandlers := [⟨.errorOutput, 0, ""⟩] }
    let s := l.setUp { files := oneFile } 80 (loggingTo belowFile) false
    Text.upper (loggingTo belowFile).logLevel = Level.info.name ∧
      s.outcome = .error (.trouble (.system .notDirectory "/f/x.log")) ∧ s.loggers = l := by
  intro l s
  have hlevel : Text.upper (loggingTo belowFile).logLevel = Level.info.name := by decide +kernel
  obtain ⟨hunchanged, -, hraises, -⟩ :=
    setUp_all_or_nothing l { files := oneFile } 80 (loggingTo belowFile) false hlevel
  have hraised : s.outcome = .error (.trouble (.system .notDirectory "/f/x.log")) :=
    (hraises _).mpr (.inr ⟨⟨_, templateOf_message⟩, belowFile, _, rfl, refused_belowFile, rfl⟩)
  exact ⟨hlevel, hraised, (hunchanged _ hraised).1⟩

/-- What goes by the name of a level without being one is found out only after loggers have changed. -/
example :
    let s := setUp {} { files := oneFile } 80 { logLevel := "basic_format" } false
    s.outcome = .error (.notLevel .format) ∧ s.loggers.rootLevel = Level.debug.number := by
  decide +kernel

end Loggers

end BuildScript
