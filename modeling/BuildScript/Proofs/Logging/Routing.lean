import Mathlib
import BuildScript.Proofs.Logging.LogFile

/-!
Where records go. What a handler does with a record adds to its sink alone, at the end
(`LogOutput.adds_handle`); so does a run of records, one after the other (`Loggers.adds_deliverAll`).
Main statement: `Loggers.setUp_routes`, which line each record adds to the error output and to the log
file once the loggers are set up.
-/

namespace BuildScript

open Files (FileTree Path)

/-! ## One record -/

/-- What is written for a record in a template. That is nothing if the record does not fill it. -/
def lineIn (template : String) (m : Occasion) (r : Record) : String := (r.line? m template).getD ""

/-- The text that a handler adds to a sink for a record. -/
def Handler.textTo (h : Handler) (s : Sink) (m : Occasion) (r : Record) : String :=
  if h.sink = s ∧ h.level ≤ r.level.number then lineIn h.template m r else ""

/-- The text that handlers add to a sink for a record, one after the other. -/
def textOf (hs : List Handler) (s : Sink) (m : Occasion) (r : Record) : String :=
  String.join (hs.map fun h => h.textTo s m r)

theorem textOf_append (hs hs' : List Handler) (s : Sink) (m : Occasion) (r : Record) :
    textOf (hs ++ hs') s m r = textOf hs s m r ++ textOf hs' s m r := by
  unfold textOf
  rw [List.map_append, String.join_append]

theorem textOf_singleton (h : Handler) (s : Sink) (m : Occasion) (r : Record) :
    textOf [h] s m r = h.textTo s m r := by
  simp [textOf, String.join_cons, String.join_nil]

namespace LogOutput

/-- This is the text of a sink. -/
def Holds (o : LogOutput) (text : String) : Sink → Prop
  | .errorOutput => o.errors = text
  | .file names => o.files.nodeAt? names = some (.file text)

/-- Each sink has got its text added at the end, and no file has become anything else. -/
structure Adds (o o' : LogOutput) (added : Sink → String) : Prop where
  holds : ∀ s text, o.Holds text s → o'.Holds (text ++ added s) s
  grows : o.files.Extends o'.files

variable {o o' o'' : LogOutput} {added added' : Sink → String}

theorem Adds.refl (o : LogOutput) : o.Adds o fun _ => "" where
  holds s text h := by
    rw [String.append_empty]
    exact h
  grows := .refl o.files

theorem Adds.trans (h : o.Adds o' added) (h' : o'.Adds o'' added') :
    o.Adds o'' fun s => added s ++ added' s where
  holds s text htext := by
    rw [← String.append_assoc]
    exact h'.holds s _ (h.holds s text htext)
  grows := h.grows.trans h'.grows

theorem adds_add (o : LogOutput) (text : String) (sink : Sink) :
    o.Adds (o.add text sink) fun s => if sink = s then text else "" := by
  cases sink with
  | errorOutput =>
    refine ⟨fun s old h => ?_, .refl o.files⟩
    cases s with
    | errorOutput =>
      rw [if_pos rfl]
      exact congrArg (· ++ text) h
    | file names =>
      rw [if_neg Sink.noConfusion, String.append_empty]
      exact h
  | file place =>
    refine ⟨fun s old h => ?_, FileTree.extends_addText place text⟩
    cases s with
    | errorOutput =>
      rw [if_neg Sink.noConfusion, String.append_empty]
      exact h
    | file names =>
      by_cases hplace : names = place
      · subst hplace
        rw [if_pos rfl]
        exact (FileTree.addText_found h text).2
      · have hne : Sink.file place ≠ .file names := fun heq => hplace (Sink.file.inj heq).symm
        rw [if_neg hne, String.append_empty]
        exact FileTree.nodeAt?_addText_of_ne h hplace text

theorem Adds.of_eq (h : o.Adds o' added) (heq : ∀ s, added s = added' s) : o.Adds o' added' :=
  funext heq ▸ h

/-- A handler that is given a record adds its line to the handler's sink, if it is grave enough. -/
theorem adds_handle (o : LogOutput) (m : Occasion) (r : Record) (h : Handler) :
    o.Adds (o.handle m r h) fun s => h.textTo s m r := by
  unfold handle Handler.textTo lineIn
  by_cases hlow : r.level.number < h.level
  · have hno : ¬h.level ≤ r.level.number := Nat.not_le.mpr hlow
    rw [if_pos hlow]
    exact (Adds.refl o).of_eq fun s => (if_neg fun hs => hno hs.2).symm
  · have hgrave : h.level ≤ r.level.number := Nat.not_lt.mp hlow
    rw [if_neg hlow]
    cases r.line? m h.template with
    | none => exact (Adds.refl o).of_eq fun s => by simp
    | some line => exact (adds_add o line h.sink).of_eq fun s => by simp [hgrave]

/-- Handlers that are given a record add their lines one after the other. -/
theorem adds_foldl_handle (o : LogOutput) (m : Occasion) (r : Record) (hs : List Handler) :
    o.Adds (hs.foldl (fun o h => o.handle m r h) o) fun s => textOf hs s m r := by
  induction hs generalizing o with
  | nil => exact .refl o
  | cons h hs ih =>
    rw [List.foldl_cons]
    refine ((adds_handle o m r h).trans (ih (o.handle m r h))).of_eq fun s => ?_
    unfold textOf
    rw [List.map_cons, String.join_cons]

end LogOutput

namespace Loggers

/-- The text that a record adds to a sink. -/
def textFor (l : Loggers) (s : Sink) (m : Occasion) (r : Record) : String :=
  if r.level.number < l.threshold r.logger then "" else textOf (l.handlersFor r.logger) s m r

/-- Logs records one after the other, each on its occasion. -/
def deliverAll (l : Loggers) (o : LogOutput) (rs : List (Occasion × Record)) : LogOutput :=
  rs.foldl (fun o x => l.deliver x.1 o x.2) o

theorem adds_deliver (l : Loggers) (m : Occasion) (o : LogOutput) (r : Record) :
    o.Adds (l.deliver m o r) fun s => l.textFor s m r := by
  unfold deliver textFor
  split
  · exact .refl o
  · exact LogOutput.adds_foldl_handle o m r _

/-- A run of records adds to each sink what each record adds, once and in the order of the records. -/
theorem adds_deliverAll (l : Loggers) (o : LogOutput) (rs : List (Occasion × Record)) :
    o.Adds (l.deliverAll o rs) fun s => String.join (rs.map fun x => l.textFor s x.1 x.2) := by
  induction rs generalizing o with
  | nil => exact .refl o
  | cons x rs ih =>
    refine ((adds_deliver l x.1 o x.2).trans (ih (l.deliver x.1 o x.2))).of_eq fun s => ?_
    rw [List.map_cons, String.join_cons]

end Loggers

/-! ## The loggers that were set up -/

/-- A logger is the plugin logger or below it. -/
def Record.FromPlugin (r : Record) : Prop := isWithin pluginLoggerName r.logger = true

instance (r : Record) : Decidable r.FromPlugin :=
  inferInstanceAs (Decidable (_ = true))

/-- A record is dropped if it is a plugin's and less grave than an information. -/
def Record.Dropped (r : Record) : Prop := r.FromPlugin ∧ r.level.number < Level.info.number

instance (r : Record) : Decidable r.Dropped := inferInstanceAs (Decidable (_ ∧ _))

theorem cut_pluginTemplate : Template.cut pluginTemplate.toList =
    { pieces := [.text "\x1b[31m".toList, .field { name := "asctime".toList }, .text [' '],
        .field { name := "message".toList }, .text "\x1b[0m".toList] } := by cbv

/-- What is written for a plugin's record: its time and its text, in red, and the traceback of its error. -/
def pluginLine (m : Occasion) (r : Record) : String :=
  match r.message with
  | .error _ => ""
  | .ok message =>
    let line := colorOn Color.red.code ++ m.time ++ " " ++ message ++ colorOff
    line ++ r.below m line ++ "\n"

/-- Every record with a text fills the template of the plugin logger. -/
theorem fill_pluginTemplate (m : Occasion) (r : Record) (message : String) :
    Template.fill (r.slot? m message) pluginTemplate =
      some ("\x1b[31m" ++ m.time ++ " " ++ message ++ "\x1b[0m") := by
  let fillIn := Template.fillPiece (r.slot? m message) (Template.fillChars (r.slot? m message) 1)
  have htime : fillIn (.field { name := "asctime".toList }) = some m.time.toList := rfl
  have hmessage : fillIn (.field { name := "message".toList }) = some message.toList := rfl
  have htext : ∀ cs, fillIn (.text cs) = some cs := fun _ => rfl
  unfold Template.fill
  rw [Template.fillChars, cut_pluginTemplate]
  simp only [List.mapM_cons, List.mapM_nil, fillIn] at htime hmessage htext ⊢
  simp only [htime, hmessage, htext]
  refine congrArg some (String.toList_inj.mp ?_)
  simp

theorem lineIn_pluginTemplate (m : Occasion) (r : Record) : lineIn pluginTemplate m r = pluginLine m r := by
  have hred : colorOn Color.red.code = "\x1b[31m" := by decide +kernel
  unfold lineIn Record.line? pluginLine
  cases r.message with
  | error o => rfl
  | ok message =>
    simp only [fill_pluginTemplate, hred]
    rfl

namespace Loggers

variable {l : Loggers} {verbose : Bool} {n : Nat} {template : String}

theorem threshold_reporting (l : Loggers) (verbose : Bool) (n : Nat) (template : String)
    (file : List Handler) (logger : String) :
    (l.reporting verbose n template file).threshold logger =
      if isWithin pluginLoggerName logger then Level.info.number else Level.debug.number := by
  unfold threshold
  cases isWithin pluginLoggerName logger with
  | true => rfl
  | false => simp [reporting, addRootHandlers, openUp]

theorem dropped_iff (r : Record) (l : Loggers) (file : List Handler) :
    r.level.number < (l.reporting verbose n template file).threshold r.logger ↔ r.Dropped := by
  rw [threshold_reporting]
  unfold Record.Dropped Record.FromPlugin
  cases isWithin pluginLoggerName r.logger with
  | true => simp
  | false => cases r.level <;> simp [Level.number]

/-- The handlers for a log file that is open at a place, if it is at one. -/
def fileHandlers (n : Nat) (template : String) (place : Option (List String)) : List Handler :=
  (place.map fun names => ⟨.file names, n, template⟩).toList

/-- The text that a record adds to the error output. For a plugin's record these are what the handlers
that there were for plugins add, and its line in red. Then comes the line of the configuration, if
everything is reported, or if there is no log file and the record is grave enough. -/
def errorText (l : Loggers) (verbose : Bool) (n : Nat) (template : String)
    (place : Option (List String)) (m : Occasion) (r : Record) : String :=
  if r.Dropped then ""
  else
    (if r.FromPlugin then
      textOf l.pluginHandlers .errorOutput m r ++ pluginLine m r else "") ++
    (if verbose ∨ place = none ∧ n ≤ r.level.number then lineIn template m r else "")

/-- The text that a record adds to the log file: its line, if the record is grave enough, behind what the
handlers that there were for plugins add for a plugin's record. -/
def fileText (l : Loggers) (n : Nat) (template : String) (names : List String) (m : Occasion)
    (r : Record) : String :=
  if r.Dropped then ""
  else
    (if r.FromPlugin then textOf l.pluginHandlers (.file names) m r else "") ++
    (if n ≤ r.level.number then lineIn template m r else "")

section Reporting

variable (hroot : l.rootHandlers = []) (verbose : Bool) (n : Nat) (template : String)
  (place : Option (List String)) (m : Occasion) (r : Record)

/-- What the handlers that a plugin's record gets first add to a sink. -/
theorem textOf_pluginPart (l : Loggers) (s : Sink) :
    textOf (if isWithin pluginLoggerName r.logger then
        l.pluginHandlers ++ [⟨.errorOutput, 0, pluginTemplate⟩] else []) s m r =
      if r.FromPlugin then
        textOf l.pluginHandlers s m r ++
          if s = .errorOutput then pluginLine m r else ""
      else "" := by
  by_cases hplugin : r.FromPlugin
  · have hwithin : isWithin pluginLoggerName r.logger = true := hplugin
    rw [if_pos hplugin, if_pos hwithin, textOf_append, textOf_singleton]
    simp only [Handler.textTo, Nat.zero_le, and_true, eq_comm, lineIn_pluginTemplate]
  · have hwithin : ¬isWithin pluginLoggerName r.logger = true := hplugin
    rw [if_neg hplugin, if_neg hwithin]
    rfl

theorem textOf_fileHandlers (s : Sink) :
    textOf (fileHandlers n template place) s m r =
      if place.map Sink.file = some s ∧ n ≤ r.level.number then lineIn template m r else "" := by
  cases place with
  | none => simp [fileHandlers, textOf, String.join_nil]
  | some names =>
    refine (textOf_singleton ..).trans ?_
    simp only [Handler.textTo, Option.map_some, Option.some.injEq]

/-- What the handler of the error output adds to a sink. -/
theorem textOf_errorPart (s : Sink) :
    textOf (if verbose then [⟨.errorOutput, Level.debug.number, template⟩]
        else if place = none then [⟨.errorOutput, n, template⟩] else []) s m r =
      if s = .errorOutput ∧ (verbose ∨ place = none ∧ n ≤ r.level.number) then
        lineIn template m r else "" := by
  have hdebug : Level.debug.number ≤ r.level.number := by cases r.level <;> decide
  cases verbose with
  | true => simp [textOf_singleton, Handler.textTo, hdebug, eq_comm]
  | false =>
    by_cases hplace : place = none
    · simp [hplace, textOf_singleton, Handler.textTo, eq_comm]
    · simp [hplace, textOf, String.join_nil]

include hroot

theorem handlersFor_reporting (logger : String) :
    (l.reporting verbose n template (fileHandlers n template place)).handlersFor logger =
      (if isWithin pluginLoggerName logger then
        l.pluginHandlers ++ [⟨.errorOutput, 0, pluginTemplate⟩] else []) ++
      (fileHandlers n template place ++
        if verbose then [⟨.errorOutput, Level.debug.number, template⟩]
        else if place = none then [⟨.errorOutput, n, template⟩] else []) := by
  have hempty : (fileHandlers n template place).isEmpty = decide (place = none) := by
    cases place <;> rfl
  unfold handlersFor reporting errorHandlers addRootHandlers openUp
  simp only [hroot, List.nil_append, hempty, decide_eq_true_eq]

/-- What a record adds to a sink: nothing if it is dropped, and else what the handlers for plugins, the
handler of the log file and that of the error output add, in this order. -/
theorem textFor_reporting (s : Sink) :
    (l.reporting verbose n template (fileHandlers n template place)).textFor s m r =
      if r.Dropped then ""
      else
        (if r.FromPlugin then
          textOf l.pluginHandlers s m r ++ if s = .errorOutput then pluginLine m r else ""
        else "") ++
        ((if place.map Sink.file = some s ∧ n ≤ r.level.number then lineIn template m r else "") ++
          if s = .errorOutput ∧ (verbose ∨ place = none ∧ n ≤ r.level.number) then
            lineIn template m r else "") := by
  unfold textFor
  simp only [dropped_iff]
  rw [handlersFor_reporting hroot, textOf_append, textOf_append, textOf_pluginPart,
    textOf_fileHandlers, textOf_errorPart]

theorem textFor_errorOutput :
    (l.reporting verbose n template (fileHandlers n template place)).textFor .errorOutput m r =
      l.errorText verbose n template place m r := by
  have hfile : place.map Sink.file ≠ some .errorOutput := by
    cases place <;> simp
  rw [textFor_reporting hroot, errorText]
  simp [hfile]

theorem textFor_file (names : List String) :
    (l.reporting verbose n template (fileHandlers n template (some names))).textFor (.file names)
      m r = l.fileText n template names m r := by
  rw [textFor_reporting hroot, fileText]
  simp

/-- No other file gets anything but what the handlers that there were for plugins add. -/
theorem textFor_other {s : Sink} (herrors : s ≠ .errorOutput)
    (hfile : place.map Sink.file ≠ some s) :
    (l.reporting verbose n template (fileHandlers n template place)).textFor s m r =
      if r.Dropped then "" else if r.FromPlugin then textOf l.pluginHandlers s m r else "" := by
  rw [textFor_reporting hroot]
  simp [herrors, hfile]

end Reporting

end Loggers

/-! ## The log file -/

namespace Files.FileTree

variable {t opened touched : FileTree} {path : Path} {here names : List String} {text : String}

/-- What has become of the log file: none was asked for, it is absent, or it is open at a place; with the
tree as it is then. -/
inductive LogsTo (t : FileTree) : Option Path → Option (List String) → FileTree → Prop where
  | nowhere : LogsTo t none none t
  | absent {path : Path} (h : t.Absent path) : LogsTo t (some path) none t
  | used {path : Path} {names : List String} {opened : FileTree} (h : t.Usable path opened names) :
    LogsTo t (some path) (some names) opened

theorem LogsTo.eq_of_usable {place : Option (List String)} {t' : FileTree}
    (h : t.LogsTo (some path) place t') (husable : t.Usable path opened names) :
    place = some names ∧ t' = opened := by
  have hopened := openLog_of_usable husable
  cases h with
  | absent habsent => cases hopened.symm.trans (openLog_of_absent habsent)
  | used hother =>
    obtain ⟨hfile, hfiles⟩ := Prod.mk.inj ((openLog_of_usable hother).symm.trans hopened)
    exact ⟨congrArg some (LogFile.opened.inj (Except.ok.inj hfile)), hfiles⟩

theorem Vacant.nodeAt?_place_of_file (hvacant : t.Vacant names)
    (h : t.nodeAt? here = some (.file text)) (new : String) :
    (t.place names (.file new)).nodeAt? here = some (.file text) := by
  obtain ⟨dir, name, es, rfl, hes, hnone⟩ := hvacant
  refine nodeAt?_place_of_ne h hes (fun n hn => ?_) fun heq => ?_
  · cases hnone.symm.trans hn
  · rw [heq, nodeAt?_concat hes, hnone] at h
    cases h

/-- A file keeps its text when another one is made sure of. -/
theorem nodeAt?_of_touch (hstart : ∃ n, t.nodeAt? (t.start path) = some n)
    (htouch : t.touch path = .ok touched) (h : t.nodeAt? here = some (.file text)) :
    touched.nodeAt? here = some (.file text) := by
  have hnul : hasNul path = false := by
    by_contra hnul
    cases htouch.symm.trans (touch_of_nul (eq_true_of_ne_false hnul))
  by_cases hfound : ∃ n, t.find path = .ok n
  · obtain ⟨n, hn⟩ := hfound
    obtain rfl := Except.ok.inj ((touch_of_find hnul hn).symm.trans htouch)
    exact h
  · cases hplace : t.locateNew path with
    | error e => cases (touch_of_error hnul hplace fun n hn => hfound ⟨n, hn⟩).symm.trans htouch
    | ok there =>
      rcases locateNew_cases hstart hplace with ⟨n, -, hn⟩ | hvacant
      · exact absurd ⟨n, hn⟩ hfound
      · obtain rfl := Except.ok.inj ((touch_of_vacant hnul hplace hvacant).symm.trans htouch)
        exact hvacant.nodeAt?_place_of_file h ""

/-- A file keeps its text when a file is opened. -/
theorem nodeAt?_of_openToAdd (hstart : ∃ n, t.nodeAt? (t.start path) = some n)
    (hopen : t.openToAdd path = .ok (opened, names)) (h : t.nodeAt? here = some (.file text)) :
    opened.nodeAt? here = some (.file text) := by
  cases site hstart with
  | file hplace hfile =>
    obtain ⟨rfl, -⟩ := Prod.mk.inj (Except.ok.inj ((openToAdd_of_file hplace hfile).symm.trans hopen))
    exact h
  | vacant hplace hvacant =>
    obtain ⟨rfl, -⟩ :=
      Prod.mk.inj (Except.ok.inj ((openToAdd_of_vacant hplace hvacant).symm.trans hopen))
    exact hvacant.nodeAt?_place_of_file h ""
  | other hplace hn hother => cases (openToAdd_of_other hplace hn hother).symm.trans hopen
  | refused hplace => cases (openToAdd_of_error hplace).symm.trans hopen

theorem isAbsolute_absolute (path : Path) (current : List String) :
    (path.absolute current).isAbsolute = true := by
  unfold Path.absolute
  split
  · assumption
  · rfl

/-- A log file that is used is a file at its place, with the text that it had if it was there. -/
theorem Usable.exists_file (h : t.Usable path opened names)
    (hstart : ∃ n, t.nodeAt? (t.start path) = some n) :
    ∃ old, opened.nodeAt? names = some (.file old) ∧
      ∀ text, t.nodeAt? names = some (.file text) → old = text := by
  obtain ⟨touched, htouch, hopen⟩ := h
  have habsolute := exists_start_of_isAbsolute (t := touched)
    (isAbsolute_absolute path touched.current)
  obtain ⟨-, -, old, hold⟩ := openToAdd_found habsolute hopen
  refine ⟨old, hold, fun text htext => ?_⟩
  have hkept := nodeAt?_of_openToAdd habsolute hopen (nodeAt?_of_touch hstart htouch htext)
  exact Node.file.inj (Option.some.inj (hold.symm.trans hkept))

/-- A log file that is used is found under its path, if the path from the root asks for the same
place. -/
theorem Usable.find_eq (h : t.Usable path opened names) (ht : t.Proper)
    (hsame : t.locateNew (path.absolute t.current) = t.locateNew path)
    {later : FileTree} (hlater : opened.Extends later)
    (htext : later.nodeAt? names = some (.file text)) : later.find path = .ok (.file text) := by
  have hnul : hasNul path = false := by
    by_contra hnul
    obtain ⟨touched, htouch, -⟩ := h
    cases htouch.symm.trans (touch_of_nul (eq_true_of_ne_false hnul))
  have hopen := (usable_iff ht hnul hsame).mp h
  obtain ⟨hextends, hplace, old, hold⟩ := openToAdd_found (ht.exists_start path) hopen
  refine find_of_locateNew ?_ (locateNew_of_extends hlater htext hplace) htext
  obtain ⟨n, hn⟩ := ht.exists_start path
  obtain ⟨n', hn', -⟩ := (hextends.trans hlater).node _ n hn
  refine ⟨n', ?_⟩
  unfold start at hn' ⊢
  rw [(hextends.trans hlater).current]
  exact hn'

/-- Where a log file is open there is a file, with the text that it had if it was there. What it holds later
is found under its path, if the path from the root asks for the same place. -/
theorem LogsTo.exists_file {file : Option Path} (h : t.LogsTo file (some names) opened)
    (ht : t.Proper) : ∃ old, opened.nodeAt? names = some (.file old) ∧
      (∀ text, t.nodeAt? names = some (.file text) → old = text) ∧
      ∀ later text, opened.Extends later → later.nodeAt? names = some (.file text) →
        ∀ path, file = some path → t.locateNew (path.absolute t.current) = t.locateNew path →
          later.find path = .ok (.file text) := by
  cases h with
  | @used path names opened husable =>
    obtain ⟨old, hold, hkept⟩ := husable.exists_file (ht.exists_start path)
    refine ⟨old, hold, hkept, fun later text hlater htext path' hpath hsame => ?_⟩
    obtain rfl := Option.some.inj hpath
    exact husable.find_eq ht hsame hlater htext

end Files.FileTree

namespace Loggers

variable {l : Loggers} {o : LogOutput} {columns : Int} {c : Config} {verbose : Bool} {n : Nat}
  {level : Level}

theorem levelNamed_of_level (h : Text.upper c.logLevel = level.name) :
    levelNamed c.logLevel = .ok (.number level.number) := by
  unfold levelNamed
  rw [h]
  cases level <;> rfl

/-- Loggers that were set up report in the template of the configuration, and to the log file if that is
open at a place. -/
theorem exists_reporting (hlevel : levelNamed c.logLevel = .ok (.number n)) {used : Bool}
    (hout : (l.setUp o columns c verbose).outcome = .ok used) :
    ∃ template place, templateOf c.logFormat = .ok template ∧
      o.files.LogsTo c.logFile place (l.setUp o columns c verbose).output.files ∧
      (l.setUp o columns c verbose).loggers =
        l.reporting verbose n template (fileHandlers n template place) := by
  cases htemplate : templateOf c.logFormat with
  | error e =>
    unfold setUp at hout
    simp only [hlevel, htemplate] at hout
    cases hout
  | ok template =>
    refine ⟨template, ?_⟩
    cases hfile : c.logFile with
    | none =>
      refine ⟨none, rfl, ?_⟩
      rw [setUp_of_none hlevel htemplate hfile]
      exact ⟨.nowhere, rfl⟩
    | some path =>
      rcases o.files.usable_or_absent_or_refused path with
        ⟨opened, names, husable⟩ | habsent | ⟨e, hrefused⟩
      · refine ⟨some names, rfl, ?_⟩
        rw [setUp_of_usable hlevel htemplate hfile husable]
        exact ⟨.used husable, rfl⟩
      · refine ⟨none, rfl, ?_⟩
        rw [setUp_of_absent hlevel htemplate hfile habsent]
        exact ⟨.absent habsent, rfl⟩
      · obtain ⟨files, hraised⟩ := setUp_of_refused hlevel htemplate hfile hrefused
        rw [hraised] at hout
        cases hout

/-- A record that is no plugin's and is grave enough has its line in the log file, or in the error output
if there is no log file. -/
theorem line_of_grave {template line : String} {m : Occasion} {r : Record}
    (hwritten : r.line? m template = some line) (hplugin : ¬r.FromPlugin)
    (hgrave : n ≤ r.level.number) (verbose : Bool) :
    l.errorText verbose n template none m r = line ∧
      ∀ names, l.fileText n template names m r = line := by
  have hdropped : ¬r.Dropped := fun h => hplugin h.1
  have hline : lineIn template m r = line := by
    unfold lineIn
    rw [hwritten]
    rfl
  unfold errorText fileText
  simp [hdropped, hplugin, hgrave, hline]

/-- Once the loggers are set up for a level, where there was no handler of the root logger, each record of
a run adds its lines to the error output and to the log file, in the order of the records, and a record
that is no plugin's and is grave enough has its line in one of them. The log file is found under its own
path if the path from the root asks for the same place. -/
theorem setUp_routes (ht : o.files.Proper) (hroot : l.rootHandlers = [])
    (hlevel : Text.upper c.logLevel = level.name) {used : Bool}
    (hout : (l.setUp o columns c verbose).outcome = .ok used) :
    ∃ template place, templateOf c.logFormat = .ok template ∧
      o.files.LogsTo c.logFile place (l.setUp o columns c verbose).output.files ∧
      ∀ rs : List (Occasion × Record),
        let s := l.setUp o columns c verbose
        let o' := s.loggers.deliverAll s.output rs
        o'.errors = s.output.errors ++
            String.join (rs.map fun x => l.errorText verbose level.number template place x.1 x.2) ∧
          (∀ names, place = some names → ∃ old,
            s.output.files.nodeAt? names = some (.file old) ∧
            (∀ text, o.files.nodeAt? names = some (.file text) → old = text) ∧
            let lines := rs.map fun x => l.fileText level.number template names x.1 x.2
            o'.files.nodeAt? names = some (.file (old ++ String.join lines)) ∧
            ∀ path, c.logFile = some path →
              o.files.locateNew (path.absolute o.files.current) = o.files.locateNew path →
              o'.files.find path = .ok (.file (old ++ String.join lines))) ∧
          ∀ x ∈ rs, ∀ line, x.2.line? x.1 template = some line →
            ¬x.2.FromPlugin → level.number ≤ x.2.level.number →
            place = none ∧
                l.errorText verbose level.number template place x.1 x.2 = line ∨
              ∃ names, place = some names ∧
                l.fileText level.number template names x.1 x.2 = line := by
  obtain ⟨template, place, htemplate, hlogs, hloggers⟩ :=
    exists_reporting (levelNamed_of_level hlevel) hout
  refine ⟨template, place, htemplate, hlogs, fun rs => ?_⟩
  intro s o'
  have hadds : s.output.Adds o' fun sink =>
      String.join (rs.map fun x => s.loggers.textFor sink x.1 x.2) :=
    adds_deliverAll s.loggers s.output rs
  have hreporting : s.loggers =
      l.reporting verbose level.number template (fileHandlers level.number template place) := hloggers
  rw [hreporting] at hadds
  refine ⟨?_, fun names hplace => ?_, fun x _ line hwritten hplugin hgrave => ?_⟩
  · have herrors := hadds.holds .errorOutput _ rfl
    simp only [textFor_errorOutput hroot] at herrors
    exact herrors
  · subst hplace
    obtain ⟨old, hold, hkept, hfind⟩ := hlogs.exists_file ht
    have hafter := hadds.holds (.file names) old hold
    simp only [textFor_file hroot] at hafter
    exact ⟨old, hold, hkept, hafter, hfind o'.files _ hadds.grows hafter⟩
  · obtain ⟨herror, hinFile⟩ := line_of_grave (l := l) hwritten hplugin hgrave verbose
    cases place with
    | none => exact .inl ⟨rfl, herror⟩
    | some names => exact .inr ⟨names, rfl, hinFile names⟩

/-! ## A log file beside another file, and one above the target of a link -/

/-- A tree with a link to a directory that lies below another one. -/
def linked : FileTree :=
  ⟨.dir [("link", .link "real/deep"), ("real", .dir [("deep", .dir [])])], []⟩

/-- A log file above the directory that the link leads to. -/
def throughLink : Path := ⟨.slash, ["link", "..", "x.log"]⟩

/-- The tree with the file of the given path and with that of the path from the root. -/
def linkedOpened : FileTree :=
  ⟨.dir [("link", .link "real/deep"), ("real", .dir [("deep", .dir []), ("x.log", .file "")]),
    ("x.log", .file "")], []⟩

/-- A warning. -/
def hello : Record := { level := .warning, logger := "a", parts := [.literal "hello"] }

theorem usable_besideFile :
    oneFile.Usable besideFile (oneFile.place ["x.log"] (.file "")) ["x.log"] :=
  (FileTree.usable_iff oneFile_proper (by decide) rfl).mpr openToAdd_besideFile

/-- The tree with the file of the given path. -/
def linkedTouched : FileTree :=
  ⟨.dir [("link", .link "real/deep"), ("real", .dir [("deep", .dir []), ("x.log", .file "")])], []⟩

/-- The link is followed before the step up. -/
theorem locateNew_throughLink : linked.locateNew throughLink = .ok ["real", "x.log"] := by
  have hsteps : FileTree.steps "real/deep" = ["real", "deep"] := by decide +kernel
  have hstart : FileTree.linkStart (linked.start throughLink) "real/deep" = [] := by decide +kernel
  rw [FileTree.locateNew_of_short (by decide +kernel)]
  refine (FileTree.walkNew_link rfl (by decide) (by decide) (by decide) (by decide) rfl).trans ?_
  rw [hsteps, hstart]
  refine (FileTree.walkNew_down rfl (by decide) (by decide) (by decide) (by decide) rfl
    fun _ => Files.Node.noConfusion).trans ?_
  refine (FileTree.walkNew_down rfl (by decide) (by decide) (by decide) (by decide) rfl
    fun _ => Files.Node.noConfusion).trans ?_
  refine (FileTree.walkNew_up rfl).trans ?_
  exact FileTree.walkNew_new rfl (by decide) (by decide) (by decide) rfl

theorem vacant_linked : linked.Vacant ["real", "x.log"] := ⟨["real"], "x.log", _, rfl, rfl, rfl⟩

theorem vacant_linkedTouched : linkedTouched.Vacant ["x.log"] := ⟨[], "x.log", _, rfl, rfl, rfl⟩

theorem usable_throughLink : linked.Usable throughLink linkedOpened ["x.log"] := by
  have hfolded : linkedTouched.locateNew (throughLink.absolute []) = .ok ["x.log"] := by
    rw [FileTree.locateNew_of_short (by decide +kernel)]
    exact FileTree.walkNew_new rfl (by decide) (by decide) (by decide) rfl
  exact ⟨linkedTouched, FileTree.touch_of_vacant (by decide) locateNew_throughLink vacant_linked,
    FileTree.openToAdd_of_vacant hfolded vacant_linkedTouched⟩

theorem linked_extends : linked.Extends linkedOpened :=
  (vacant_linked.extends "").1.trans (vacant_linkedTouched.extends "").1

theorem line_hello : hello.line? {} "\x7bmessage\x7d" = some "hello\n" := by
  have hcut : Template.cut "\x7bmessage\x7d".toList =
      { pieces := [.text [], .field { name := "message".toList }] } := by cbv
  have hfill : Template.fill (hello.slot? {} "hello") "\x7bmessage\x7d" = some "hello" := by
    unfold Template.fill
    rw [Template.fillChars, hcut]
    rfl
  have hmessage : hello.message = .ok "hello" := by decide +kernel
  unfold Record.line?
  rw [hmessage]
  simp only [hfill, Option.map_some]
  rfl

/-- A warning comes to the log file beside the other file. -/
theorem setUp_besideFile_routes :
    oneFile.Proper ∧ Text.upper (loggingTo besideFile).logLevel = Level.info.name ∧
      let s := setUp {} { files := oneFile } 80 (loggingTo besideFile) false
      s.outcome = .ok true ∧
        (s.loggers.deliverAll s.output [({}, hello)]).files.find besideFile =
          .ok (.file "hello\n") := by
  have hlevel : Text.upper (loggingTo besideFile).logLevel = Level.info.name := by decide +kernel
  have hset : setUp {} { files := oneFile } 80 (loggingTo besideFile) false = _ :=
    setUp_of_usable levelNamed_info templateOf_message rfl usable_besideFile
  have hout : (setUp {} { files := oneFile } 80 (loggingTo besideFile) false).outcome = .ok true := by
    rw [hset]
  refine ⟨oneFile_proper, hlevel, hout, ?_⟩
  obtain ⟨template, place, htemplate, hlogs, hroutes⟩ :=
    setUp_routes (l := {}) oneFile_proper rfl hlevel hout
  obtain ⟨rfl, hfiles⟩ := hlogs.eq_of_usable usable_besideFile
  obtain rfl : "\x7bmessage\x7d" = template :=
    Except.ok.inj (templateOf_message.symm.trans htemplate)
  obtain ⟨-, hfile, hlines⟩ := hroutes [({}, hello)]
  obtain ⟨old, hold, -, -, hfind⟩ := hfile ["x.log"] rfl
  rw [hfiles] at hold
  obtain rfl : "" = old := Files.Node.file.inj (Option.some.inj hold)
  obtain ⟨hnone, -⟩ | ⟨names, hnames, hline⟩ :=
    hlines ({}, hello) (List.mem_singleton.mpr rfl) "hello\n" line_hello (by decide) (by decide)
  · cases hnone
  · obtain rfl := Option.some.inj hnames
    have htext : "" ++ String.join ["hello\n"] = "hello\n" := by decide +kernel
    rw [hfind besideFile rfl rfl, List.map_singleton, hline, htext]

/-- The log file is used, but no handler writes to the file of its path: the handler has opened the file
of the path without the link. -/
theorem setUp_throughLink_loses :
    let s := setUp {} { files := linked } 80 (loggingTo throughLink) false
    s.outcome = .ok true ∧
      (s.loggers.deliverAll s.output [({}, hello)]).files.find throughLink = .ok (.file "") := by
  have hset : setUp {} { files := linked } 80 (loggingTo throughLink) false = _ :=
    setUp_of_usable levelNamed_info templateOf_message rfl usable_throughLink
  intro s
  have hs : s = _ := hset
  rw [hs]
  refine ⟨rfl, ?_⟩
  have hadds := adds_deliverAll
    (reporting {} false 20 "\x7bmessage\x7d" (fileHandlers 20 "\x7bmessage\x7d" (some ["x.log"])))
    { files := linkedOpened } [({}, hello)]
  have hafter := hadds.holds (.file ["real", "x.log"]) "" rfl
  have hnothing := textFor_other (l := {}) rfl false 20 "\x7bmessage\x7d" (some ["x.log"]) {} hello
    (s := .file ["real", "x.log"]) Sink.noConfusion (by decide)
  rw [List.map_singleton, hnothing] at hafter
  have hplace := FileTree.locateNew_of_extends (linked_extends.trans hadds.grows) hafter
    locateNew_throughLink
  exact FileTree.find_of_locateNew (FileTree.exists_start_of_isAbsolute rfl) hplace hafter

end Loggers

end BuildScript
