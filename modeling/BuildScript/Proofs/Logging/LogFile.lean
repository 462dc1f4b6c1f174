import BuildScript.Logging.Setup
import BuildScript.Proofs.Files.Opening
import BuildScript.Proofs.Output.Printing

/-!
What becomes of a log file. It is made sure of under the path that it was given, and opened under the
path from the root in which each `..` is taken together with the name in front of it. So it can be used
(`FileTree.Usable`), is absent for want of a directory (`FileTree.Absent`), or is refused for another
reason at either of the two steps (`FileTree.Refused`). Main statement: `Loggers.setUp_outcome_iff`, what
setting up the loggers comes to in each case, and that the cases are those of opening the file under the
given path if both paths ask for the same place.
-/

namespace BuildScript

open Files (FileTree LookupError Path Trouble)

namespace Files.FileTree

/-- The log file can be used: it can be made sure of, and opened then at a place. -/
def Usable (t : FileTree) (path : Path) (opened : FileTree) (names : List String) : Prop :=
  ∃ touched, t.touch path = .ok touched ∧
    touched.openToAdd (path.absolute touched.current) = .ok (opened, names)

/-- The log file cannot be made sure of, since a directory on its path is not there. -/
def Absent (t : FileTree) (path : Path) : Prop :=
  t.touch path = .error (.system .notFound path.text)

/-- The log file cannot be made sure of for another reason, or be opened then. -/
inductive Refused (t : FileTree) (path : Path) (e : Trouble) : Prop where
  | untouched (h : t.touch path = .error e) (hne : e ≠ .system .notFound path.text)
  | unopened {touched : FileTree} (h : t.touch path = .ok touched)
      (hopen : touched.openToAdd (path.absolute touched.current) = .error e)

variable {t opened : FileTree} {path : Path} {names : List String} {e : Trouble}

theorem usable_or_absent_or_refused (t : FileTree) (path : Path) :
    (∃ opened names, t.Usable path opened names) ∨ t.Absent path ∨ ∃ e, t.Refused path e := by
  cases htouch : t.touch path with
  | error e =>
    by_cases he : e = .system .notFound path.text
    · exact .inr (.inl (htouch.trans (congrArg _ he)))
    · exact .inr (.inr ⟨e, .untouched htouch he⟩)
  | ok touched =>
    cases hopen : touched.openToAdd (path.absolute touched.current) with
    | error e => exact .inr (.inr ⟨e, .unopened htouch hopen⟩)
    | ok r => exact .inl ⟨r.1, r.2, touched, htouch, hopen⟩

/-- What making sure of a file fails with is told with the path that was given. -/
theorem text_of_touch {error : LookupError} {text : String}
    (h : t.touch path = .error (.system error text)) : text = path.text := by
  unfold touch at h
  split at h
  · cases h
  · split at h
    · cases h
    · split at h
      · cases h
      · exact (Trouble.system.inj (Except.error.inj h)).2.symm

theorem current_of_touch {touched : FileTree} (h : t.touch path = .ok touched) :
    touched.current = t.current := by
  unfold touch at h
  split at h
  · cases h
  · split at h
    · rw [← Except.ok.inj h]
    · split at h
      · rw [← Except.ok.inj h]
        rfl
      · cases h

theorem openLog_of_usable (h : t.Usable path opened names) :
    openLog t (some path) = (.ok (.opened names), opened) := by
  obtain ⟨touched, htouch, hopen⟩ := h
  unfold openLog
  simp only [htouch, hopen]

theorem openLog_of_absent (h : t.Absent path) :
    openLog t (some path) =
      (.ok (.missing (unwritableLog path (.system .notFound path.text))), t) := by
  unfold Absent at h
  unfold openLog
  simp only [h]

theorem openLog_of_refused (h : t.Refused path e) :
    ∃ files, openLog t (some path) = (.error (.trouble e), files) := by
  unfold openLog
  cases h with
  | untouched h hne =>
    refine ⟨t, ?_⟩
    simp only [h]
    split
    · rename_i text
      exact absurd (congrArg _ (text_of_touch h)) hne
    · rfl
  | @unopened touched h hopen =>
    refine ⟨touched, ?_⟩
    simp only [h, hopen]

/-! ## The file under its own path -/

/-- A path that holds the character that ends texts for the system is refused. -/
theorem refused_of_nul (hnul : hasNul path = true) : t.Refused path .embeddedNul :=
  .untouched (touch_of_nul hnul) Trouble.noConfusion

section Same

variable (ht : t.Proper) (hnul : hasNul path = false)
  (hsame : t.locateNew (path.absolute t.current) = t.locateNew path)

include ht hnul hsame

/-- What can be opened under the given path can be used. -/
theorem usable_of_openToAdd (h : t.openToAdd path = .ok (opened, names)) :
    t.Usable path opened names := by
  obtain ⟨touched, htouch, hopen⟩ := exists_touch_of_openToAdd ht hnul hsame h
  refine ⟨touched, htouch, ?_⟩
  rw [current_of_touch htouch]
  exact hopen

/-- What cannot be opened under the given path is absent if a directory is not there, and else refused
for the same reason. -/
theorem absent_or_refused_of_openToAdd {error : LookupError}
    (h : t.openToAdd path = .error (.system error path.text)) :
    error = .notFound ∧ t.Absent path ∨
      error ≠ .notFound ∧ ∃ text, t.Refused path (.system error text) := by
  rcases touch_of_openToAdd_error ht hnul hsame h with htouch | ⟨he, htouch, hopen⟩
  · by_cases hfound : error = .notFound
    · subst hfound
      exact .inl ⟨rfl, htouch⟩
    · refine .inr ⟨hfound, path.text, .untouched htouch fun h => hfound ?_⟩
      exact (Trouble.system.inj h).1
  · obtain ⟨rfl, -⟩ := Trouble.system.inj he
    exact .inr ⟨LookupError.noConfusion, _, .unopened htouch hopen⟩

omit ht hnul hsame in
theorem error_of_openToAdd (h : t.openToAdd path = .error e) :
    ∃ error, e = .system error path.text := by
  unfold openToAdd at h
  split at h
  · exact ⟨_, (Except.error.inj h).symm⟩
  · split at h
    · cases h
    · exact ⟨_, (Except.error.inj h).symm⟩
    · cases h

theorem usable_iff : t.Usable path opened names ↔ t.openToAdd path = .ok (opened, names) := by
  refine ⟨fun h => ?_, usable_of_openToAdd ht hnul hsame⟩
  have hlog := openLog_of_usable h
  cases hopen : t.openToAdd path with
  | ok r =>
    have hown := openLog_of_usable (usable_of_openToAdd ht hnul hsame hopen)
    obtain ⟨hfile, hfiles⟩ := Prod.mk.inj (hlog.symm.trans hown)
    rw [hfiles, LogFile.opened.inj (Except.ok.inj hfile)]
  | error e =>
    obtain ⟨error, rfl⟩ := error_of_openToAdd hopen
    rcases absent_or_refused_of_openToAdd ht hnul hsame hopen with ⟨-, habsent⟩ | ⟨-, text, hrefused⟩
    · cases hlog.symm.trans (openLog_of_absent habsent)
    · obtain ⟨files, hfiles⟩ := openLog_of_refused hrefused
      cases hlog.symm.trans hfiles

theorem absent_iff : t.Absent path ↔ t.openToAdd path = .error (.system .notFound path.text) := by
  constructor
  · intro h
    have hlog := openLog_of_absent h
    cases hopen : t.openToAdd path with
    | ok r =>
      have hown := openLog_of_usable (usable_of_openToAdd ht hnul hsame hopen)
      cases hlog.symm.trans hown
    | error e =>
      obtain ⟨error, rfl⟩ := error_of_openToAdd hopen
      rcases absent_or_refused_of_openToAdd ht hnul hsame hopen with
        ⟨rfl, -⟩ | ⟨-, text, hrefused⟩
      · rfl
      · obtain ⟨files, hfiles⟩ := openLog_of_refused hrefused
        cases hlog.symm.trans hfiles
  · intro h
    rcases absent_or_refused_of_openToAdd ht hnul hsame h with ⟨-, habsent⟩ | ⟨hne, -⟩
    · exact habsent
    · exact absurd rfl hne

theorem refused_iff {error : LookupError} (hne : error ≠ .notFound) :
    (∃ text, t.Refused path (.system error text)) ↔
      t.openToAdd path = .error (.system error path.text) := by
  constructor
  · rintro ⟨text, h⟩
    obtain ⟨files, hlog⟩ := openLog_of_refused h
    cases hopen : t.openToAdd path with
    | ok r =>
      have hown := openLog_of_usable (usable_of_openToAdd ht hnul hsame hopen)
      cases hlog.symm.trans hown
    | error e =>
      obtain ⟨error', rfl⟩ := error_of_openToAdd hopen
      rcases absent_or_refused_of_openToAdd ht hnul hsame hopen with
        ⟨-, habsent⟩ | ⟨-, text', hrefused⟩
      · cases hlog.symm.trans (openLog_of_absent habsent)
      · obtain ⟨files', hfiles⟩ := openLog_of_refused hrefused
        have herror := (Prod.mk.inj (hlog.symm.trans hfiles)).1
        have htrouble := LoggingError.trouble.inj (Except.error.inj herror)
        rw [(Trouble.system.inj htrouble).1]
  · intro h
    rcases absent_or_refused_of_openToAdd ht hnul hsame h with ⟨hfound, -⟩ | ⟨-, hrefused⟩
    · exact absurd hfound hne
    · exact hrefused

end Same

end Files.FileTree

/-! ## Setting up -/

/-- A handler for the file at a place has come behind the handlers that there were; those that have
come otherwise write to the error output. -/
def LogSetup.Attaches (s : LogSetup) (l : Loggers) (h : Handler) : Prop :=
  ∃ hs, s.loggers.rootHandlers = l.rootHandlers ++ h :: hs ∧ ∀ h' ∈ hs, h'.sink = .errorOutput

/-- The handlers that have come behind those that there were write to the error output. -/
def LogSetup.AttachesNoFile (s : LogSetup) (l : Loggers) : Prop :=
  ∃ hs, s.loggers.rootHandlers = l.rootHandlers ++ hs ∧ ∀ h ∈ hs, h.sink = .errorOutput

namespace Loggers

variable {l : Loggers} {o : LogOutput} {columns : Int} {c : Config} {verbose : Bool} {n : Nat}
  {template : String} {path : Path} {opened : FileTree} {names : List String} {e : Trouble}

/-- The handlers of the error output that are added: one for everything if it is asked for, and one for a
level if there is no other handler. -/
def errorHandlers (l : Loggers) (verbose : Bool) (n : Nat) (template : String) : List Handler :=
  if verbose then [⟨.errorOutput, Level.debug.number, template⟩]
  else if l.rootHandlers.isEmpty then [⟨.errorOutput, n, template⟩]
  else []

theorem sink_of_mem_errorHandlers {h : Handler} (hmem : h ∈ l.errorHandlers verbose n template) :
    h.sink = .errorOutput := by
  unfold errorHandlers at hmem
  split at hmem
  · rw [List.mem_singleton.mp hmem]
  · split at hmem
    · rw [List.mem_singleton.mp hmem]
    · cases hmem

theorem addRootHandlers_nil (l : Loggers) : l.addRootHandlers [] = l := by
  unfold addRootHandlers
  rw [List.append_nil]

theorem report_number (l : Loggers) (verbose : Bool) (n : Nat) (template : String) :
    l.report verbose (.number n) template =
      (.ok (), l.openUp.addRootHandlers (l.errorHandlers verbose n template)) := by
  unfold report errorLevel? errorHandlers
  cases verbose with
  | true => rfl
  | false =>
    cases hempty : l.rootHandlers.isEmpty with
    | true =>
      have hopened : l.openUp.rootHandlers.isEmpty = true := hempty
      simp [hopened, NamedLevel.number?, Except.map]
    | false =>
      have hopened : l.openUp.rootHandlers.isEmpty = false := hempty
      simp [hopened, addRootHandlers_nil]

/-- The loggers with a handler added for an open log file, if there is one, and those that report. -/
def reporting (l : Loggers) (verbose : Bool) (n : Nat) (template : String) (file : List Handler) :
    Loggers :=
  (l.addRootHandlers file).openUp.addRootHandlers
    ((l.addRootHandlers file).errorHandlers verbose n template)

theorem configure_opened (l : Loggers) (verbose : Bool) (n : Nat) (template : String)
    (names : List String) :
    l.configure verbose (.number n) template (.opened names) =
      (.ok (), l.reporting verbose n template [⟨.file names, n, template⟩]) :=
  report_number ..

theorem configure_missing (l : Loggers) (verbose : Bool) (n : Nat) (template notice : String) :
    l.configure verbose (.number n) template (.missing notice) =
      (.ok (), l.reporting verbose n template []) := by
  unfold reporting
  rw [addRootHandlers_nil]
  exact report_number ..

theorem configure_none (l : Loggers) (verbose : Bool) (n : Nat) (template : String) :
    l.configure verbose (.number n) template .none = (.ok (), l.reporting verbose n template []) := by
  unfold reporting
  rw [addRootHandlers_nil]
  exact report_number ..

section SetUp

variable (hlevel : levelNamed c.logLevel = .ok (.number n))
  (htemplate : templateOf c.logFormat = .ok template)

include hlevel htemplate

theorem setUp_of_usable (hfile : c.logFile = some path) (h : o.files.Usable path opened names) :
    l.setUp o columns c verbose =
      ⟨.ok true, l.reporting verbose n template [⟨.file names, n, template⟩],
        { o with files := opened }⟩ := by
  unfold setUp
  simp only [hlevel, htemplate, hfile, FileTree.openLog_of_usable h, configure_opened]
  rfl

theorem setUp_of_absent (hfile : c.logFile = some path) (h : o.files.Absent path) :
    l.setUp o columns c verbose =
      ⟨.ok false, l.reporting verbose n template [],
        o.add (noticeText columns (unwritableLog path (.system .notFound path.text)))
          .errorOutput⟩ := by
  unfold setUp
  simp only [hlevel, htemplate, hfile, FileTree.openLog_of_absent h, configure_missing]
  rfl

theorem setUp_of_refused (hfile : c.logFile = some path) (h : o.files.Refused path e) :
    ∃ files, l.setUp o columns c verbose = ⟨.error (.trouble e), l, { o with files }⟩ := by
  obtain ⟨files, hlog⟩ := FileTree.openLog_of_refused h
  refine ⟨files, ?_⟩
  unfold setUp
  simp only [hlevel, htemplate, hfile, hlog]

theorem setUp_of_none (hfile : c.logFile = none) :
    l.setUp o columns c verbose = ⟨.ok true, l.reporting verbose n template [], o⟩ := by
  unfold setUp openLog
  simp only [hlevel, htemplate, hfile, configure_none]
  rfl

end SetUp

theorem attaches_reporting (l : Loggers) (verbose : Bool) (n : Nat) (template : String) (h : Handler)
    (outcome : Except LoggingError Bool) (o : LogOutput) :
    LogSetup.Attaches ⟨outcome, l.reporting verbose n template [h], o⟩ l h := by
  refine ⟨(l.addRootHandlers [h]).errorHandlers verbose n template, ?_, fun h' hmem => ?_⟩
  · exact List.append_assoc ..
  · exact sink_of_mem_errorHandlers hmem

theorem attachesNoFile_reporting (l : Loggers) (verbose : Bool) (n : Nat) (template : String)
    (outcome : Except LoggingError Bool) (o : LogOutput) :
    LogSetup.AttachesNoFile ⟨outcome, l.reporting verbose n template [], o⟩ l := by
  unfold reporting
  rw [addRootHandlers_nil]
  exact ⟨l.errorHandlers verbose n template, rfl, fun h hmem => sink_of_mem_errorHandlers hmem⟩

section Outcome

variable (hlevel : levelNamed c.logLevel = .ok (.number n))
  (htemplate : templateOf c.logFormat = .ok template) (hfile : c.logFile = some path)

include hlevel htemplate hfile

theorem outcome_eq_true_iff : (l.setUp o columns c verbose).outcome = .ok true ↔
    ∃ opened names, o.files.Usable path opened names := by
  constructor
  · intro hout
    rcases o.files.usable_or_absent_or_refused path with husable | habsent | ⟨e, hrefused⟩
    · exact husable
    · rw [setUp_of_absent hlevel htemplate hfile habsent] at hout
      cases hout
    · obtain ⟨files, heq⟩ := setUp_of_refused hlevel htemplate hfile hrefused
      rw [heq] at hout
      cases hout
  · rintro ⟨opened, names, husable⟩
    rw [setUp_of_usable hlevel htemplate hfile husable]

theorem outcome_eq_false_iff :
    (l.setUp o columns c verbose).outcome = .ok false ↔ o.files.Absent path := by
  constructor
  · intro hout
    rcases o.files.usable_or_absent_or_refused path with
      ⟨opened, names, husable⟩ | habsent | ⟨e, hrefused⟩
    · rw [setUp_of_usable hlevel htemplate hfile husable] at hout
      cases hout
    · exact habsent
    · obtain ⟨files, heq⟩ := setUp_of_refused hlevel htemplate hfile hrefused
      rw [heq] at hout
      cases hout
  · intro habsent
    rw [setUp_of_absent hlevel htemplate hfile habsent]

theorem outcome_eq_error_iff {error : LoggingError} :
    (l.setUp o columns c verbose).outcome = .error error ↔
      ∃ e, error = .trouble e ∧ o.files.Refused path e := by
  constructor
  · intro hout
    rcases o.files.usable_or_absent_or_refused path with
      ⟨opened, names, husable⟩ | habsent | ⟨e, hrefused⟩
    · rw [setUp_of_usable hlevel htemplate hfile husable] at hout
      cases hout
    · rw [setUp_of_absent hlevel htemplate hfile habsent] at hout
      cases hout
    · obtain ⟨files, heq⟩ := setUp_of_refused hlevel htemplate hfile hrefused
      rw [heq] at hout
      exact ⟨e, (Except.error.inj hout).symm, hrefused⟩
  · rintro ⟨e, rfl, hrefused⟩
    obtain ⟨files, heq⟩ := setUp_of_refused hlevel htemplate hfile hrefused
    rw [heq]

end Outcome

/-- Setting up the loggers for a log file comes to one of three things. If the file can be used, it is
true, and a handler for the file is attached. If the file is absent, it is false, no handler for a file
is attached, and a notice about it is printed. If the file is refused, the trouble is raised, and the
loggers are as they were. If the path from the root asks for the same place as the given one, the file can
be used exactly if it can be opened under the given path, is absent exactly if that fails for want of a
directory, and is refused for every other failure. -/
theorem setUp_outcome_iff (columns : Int) (verbose : Bool) (ht : o.files.Proper)
    (hlevel : levelNamed c.logLevel = .ok (.number n))
    (htemplate : templateOf c.logFormat = .ok template) (hfile : c.logFile = some path) :
    (((l.setUp o columns c verbose).outcome = .ok true ↔
          ∃ opened names, o.files.Usable path opened names) ∧
        ((l.setUp o columns c verbose).outcome = .ok false ↔ o.files.Absent path) ∧
        ∀ e, (l.setUp o columns c verbose).outcome = .error e ↔
          ∃ t, e = .trouble t ∧ o.files.Refused path t) ∧
      ((∀ opened names, o.files.Usable path opened names →
          (l.setUp o columns c verbose).Attaches l ⟨.file names, n, template⟩ ∧
            (l.setUp o columns c verbose).output = { o with files := opened }) ∧
        (o.files.Absent path →
          (l.setUp o columns c verbose).AttachesNoFile l ∧
            (l.setUp o columns c verbose).output =
              o.add (noticeText columns (unwritableLog path (.system .notFound path.text)))
                .errorOutput) ∧
        ∀ t, o.files.Refused path t →
          (l.setUp o columns c verbose).loggers = l ∧
            (l.setUp o columns c verbose).output.errors = o.errors) ∧
      ((FileTree.hasNul path = true → o.files.Refused path .embeddedNul) ∧
        (FileTree.hasNul path = false →
          o.files.locateNew (path.absolute o.files.current) = o.files.locateNew path →
          (∀ opened names, o.files.Usable path opened names ↔
              o.files.openToAdd path = .ok (opened, names)) ∧
            (o.files.Absent path ↔
              o.files.openToAdd path = .error (.system .notFound path.text)) ∧
            ∀ error, error ≠ .notFound →
              ((∃ text, o.files.Refused path (.system error text)) ↔
                o.files.openToAdd path = .error (.system error path.text)))) ∧
      (print columns { color := some Color.yellow.code }
        [unwritableLog path (.system .notFound path.text)]).error = none := by
  refine ⟨⟨outcome_eq_true_iff hlevel htemplate hfile, outcome_eq_false_iff hlevel htemplate hfile,
      fun e => outcome_eq_error_iff hlevel htemplate hfile⟩,
    ⟨fun opened names husable => ?_, fun habsent => ?_, fun t hrefused => ?_⟩,
    ⟨FileTree.refused_of_nul, fun hnul hsame => ⟨fun opened names => ?_, ?_, fun error hne => ?_⟩⟩,
    print_ok columns rfl _⟩
  · rw [setUp_of_usable hlevel htemplate hfile husable]
    exact ⟨attaches_reporting .., rfl⟩
  · rw [setUp_of_absent hlevel htemplate hfile habsent]
    exact ⟨attachesNoFile_reporting .., rfl⟩
  · obtain ⟨files, heq⟩ := setUp_of_refused hlevel htemplate hfile hrefused
    rw [heq]
    exact ⟨rfl, rfl⟩
  · exact FileTree.usable_iff ht hnul hsame
  · exact FileTree.absent_iff ht hnul hsame
  · exact FileTree.refused_iff ht hnul hsame hne

/-! ## A log file beside another file, and one below it -/

/-- A tree with one file, in its root directory. -/
def oneFile : FileTree := ⟨.dir [("f", .file "")], []⟩

/-- A log file that is not there yet. -/
def besideFile : Path := ⟨.slash, ["x.log"]⟩

/-- A log file whose directory is a file. -/
def belowFile : Path := ⟨.slash, ["f", "x.log"]⟩

theorem oneFile_proper : oneFile.Proper := FileTree.proper_of_isSound (by decide +kernel) ⟨_, rfl⟩

theorem levelNamed_info : levelNamed "info" = .ok (.number 20) := by decide +kernel

theorem templateOf_message : templateOf "\x7bmessage\x7d" = .ok "\x7bmessage\x7d" := by decide +kernel

/-- A configuration with a log file. -/
def loggingTo (path : Path) : Config := { logFormat := "\x7bmessage\x7d", logFile := some path }

theorem locateNew_besideFile : oneFile.locateNew besideFile = .ok ["x.log"] := by
  rw [FileTree.locateNew_of_short (by decide +kernel)]
  exact FileTree.walkNew_new rfl (by decide) (by decide) (by decide) rfl

theorem locateNew_belowFile : oneFile.locateNew belowFile = .error .notDirectory := by
  have hfile : ∀ es, oneFile.nodeAt? ["f"] ≠ some (.dir es) := fun es h => nomatch h
  rw [FileTree.locateNew_of_short (by decide +kernel)]
  refine (FileTree.walkNew_down rfl (by decide) (by decide) (by decide) (by decide) rfl
    (fun _ => Files.Node.noConfusion)).trans ?_
  exact FileTree.walkNew_notDirectory hfile

theorem openToAdd_besideFile :
    oneFile.openToAdd besideFile = .ok (oneFile.place ["x.log"] (.file ""), ["x.log"]) :=
  FileTree.openToAdd_of_vacant locateNew_besideFile ⟨[], "x.log", _, rfl, rfl, rfl⟩

theorem refused_belowFile : oneFile.Refused belowFile (.system .notDirectory "/f/x.log") := by
  have htext : belowFile.text = "/f/x.log" := by decide +kernel
  have hfind : ∀ n, oneFile.find belowFile ≠ .ok n := by
    intro n hn
    rcases FileTree.locateNew_of_find hn with ⟨there, hthere, -⟩ | ⟨hdir, -⟩
    · cases locateNew_belowFile.symm.trans hthere
    · cases locateNew_belowFile.symm.trans hdir
  have htouch := FileTree.touch_of_error (by decide) locateNew_belowFile hfind
  rw [htext] at htouch
  refine .untouched htouch fun h => ?_
  cases (Trouble.system.inj h).1

/-- The log file that is not there yet is made, and used. -/
theorem setUp_besideFile :
    oneFile.Proper ∧ levelNamed (loggingTo besideFile).logLevel = .ok (.number 20) ∧
      templateOf (loggingTo besideFile).logFormat = .ok "\x7bmessage\x7d" ∧
      (loggingTo besideFile).logFile = some besideFile ∧
      (setUp {} { files := oneFile } 80 (loggingTo besideFile) false).outcome = .ok true := by
  refine ⟨oneFile_proper, levelNamed_info, templateOf_message, rfl, ?_⟩
  obtain ⟨⟨htrue, -, -⟩, -, ⟨-, hsame⟩, -⟩ := setUp_outcome_iff (l := {}) (o := { files := oneFile })
    (c := loggingTo besideFile) 80 false oneFile_proper levelNamed_info templateOf_message rfl
  obtain ⟨husable, -, -⟩ := hsame (by decide) rfl
  exact htrue.mpr ⟨_, _, (husable _ _).mpr openToAdd_besideFile⟩

/-- What lies below a file cannot be opened, and that is raised. -/
theorem setUp_belowFile_raises :
    (setUp {} { files := oneFile } 80 (loggingTo belowFile) false).outcome =
      .error (.trouble (.system .notDirectory "/f/x.log")) := by
  have hrefused : ({ files := oneFile } : LogOutput).files.Refused belowFile _ := refused_belowFile
  exact (outcome_eq_error_iff (c := loggingTo belowFile) levelNamed_info templateOf_message rfl).mpr
    ⟨_, rfl, hrefused⟩

end Loggers

end BuildScript
