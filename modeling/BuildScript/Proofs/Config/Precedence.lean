import BuildScript.Proofs.Config.Acceptance
import BuildScript.Proofs.Files.Probing

/-!
Which configuration is found. A file that is named is the one (`Config.Named`); else the first of the
search directories that holds a file decides (`Chooses`), and what comes behind it is of no account. Main
statement: `Config.find_precedence`, the rules for all sources (`Config.Rule`), the notice, and what a
configuration that has been loaded says about paths.
-/

namespace BuildScript

open Files (FileTree LookupError Path Trouble)
open Yaml (Data)

namespace Config

variable {tree : FileTree} {columns : Int} {s : ConfigSources} {given : Option Path}
  {paths : List Path} {path place base : Path} {text : String} {c : Config}

/-! ## The file that is named -/

/-- The file that is named: the one that is given, or else the one of the environment, if that has a
name. -/
inductive Named (s : ConfigSources) (given : Option Path) : Path → Prop where
  | target {path : Path} (h : given = some path) : Named s given path
  | environment {text : String} (h : given = none) (hfile : s.file = some text) (hne : text ≠ "") :
      Named s given (Path.ofText text)

theorem namedFile_none : namedFile s none = (s.file.filter (· ≠ "")).map Path.ofText := rfl

theorem named_iff : Named s given path ↔ namedFile s given = some path := by
  constructor
  · intro h
    cases h with
    | target h =>
      rw [h]
      rfl
    | environment h hfile hne =>
      rw [h, namedFile_none, hfile, Option.filter_some, if_pos (decide_eq_true hne), Option.map_some]
  · intro h
    cases hgiven : given with
    | some p =>
      rw [hgiven] at h
      exact .target h
    | none =>
      rw [hgiven, namedFile_none, Option.map_eq_some_iff] at h
      obtain ⟨text, hfile, rfl⟩ := h
      obtain ⟨hfile, hne⟩ := Option.filter_eq_some_iff.mp hfile
      exact .environment rfl hfile (of_decide_eq_true hne)

theorem not_named_iff : (∀ path, ¬Named s given path) ↔ namedFile s given = none := by
  simp only [named_iff]
  cases namedFile s given <;> simp

/-! ## The rules -/

/-- What a search comes to, by the first rule that fits: the named file, or the first one in the search
directories, is read; a named file that is not there is missing; no file at all leaves the default
configuration; and what the system refuses to look at, or to resolve, ends the search. -/
inductive Rule (tree : FileTree) (s : ConfigSources) (given : Option Path) :
    Except SearchError Config → Prop where
  | chosen {path : Path} (h : Chooses tree s given path) : Rule tree s given (readFile tree path)
  | missing {path : Path} (h : Named s given path) (hno : tree.isFile path = .ok false) :
      Rule tree s given (.error (.missingFile path))
  | default (h : ∀ path, ¬Named s given path) {paths : List Path}
      (hpaths : Candidates tree s given paths) (hno : ∀ path ∈ paths, tree.isFile path = .ok false) :
      Rule tree s given (.ok {})
  | refused {paths : List Path} {path : Path} (hpaths : Candidates tree s given paths)
      (hcomes : ComesTo tree paths path) {e : LookupError} (he : tree.isFile path = .error e) :
      Rule tree s given (.error (.trouble (.system e path.text)))
  | directoryRefused (h : ∀ path, ¬Named s given path) {text : String}
      (hdir : s.directory = some text) {e : LookupError}
      (he : tree.isDir (Path.ofText text) = .error e) :
      Rule tree s given (.error (.trouble (.system e (Path.ofText text).text)))
  | directoryUnresolved (h : ∀ path, ¬Named s given path) {text : String}
      (hdir : s.directory = some text) (htrue : tree.isDir (Path.ofText text) = .ok true) {e : Trouble}
      (he : tree.resolve (Path.ofText text) = .error e) : Rule tree s given (.error (.trouble e))

theorem comesTo_first (rest : List Path) : ComesTo tree (path :: rest) path :=
  ⟨[], rest, rfl, fun _ hq => absurd hq List.not_mem_nil⟩

theorem rule_find_of_named (hnamed : namedFile s given = some path) :
    Rule tree s given (find tree columns s given).outcome := by
  have hpaths : Candidates tree s given [path] := .named hnamed
  cases hfile : tree.isFile path with
  | error e =>
    rw [find_of_refused hpaths (comesTo_first []) hfile]
    exact .refused hpaths (comesTo_first []) hfile
  | ok there =>
    cases there with
    | false =>
      rw [find_of_named hnamed, hfile]
      exact .missing (named_iff.mpr hnamed) hfile
    | true =>
      have hchosen : Chooses tree s given path := ⟨[path], hpaths, comesTo_first [], hfile⟩
      rw [find_of_chooses hchosen]
      exact .chosen hchosen

/-- The default configuration is left if none of the candidates is a file. -/
theorem find_of_noFile (hnamed : namedFile s given = none) (hpaths : Candidates tree s given paths)
    (hno : ∀ path ∈ paths, tree.isFile path = .ok false) :
    (find tree columns s given).outcome = .ok {} := by
  have hread : (∃ path, namedFile s given = some path ∧ paths = [path]) ∨
      (find tree columns s given).outcome = readFirst tree paths := hpaths.find_eq
  rcases hread with ⟨only, honly, -⟩ | hread
  · cases hnamed.symm.trans honly
  · rw [hread, readFirst, firstFile_of_false hno]
    rfl

theorem rule_find_of_candidates (hnamed : namedFile s given = none)
    (hpaths : Candidates tree s given paths) :
    Rule tree s given (find tree columns s given).outcome := by
  rcases firstFile_cases tree paths with ⟨path, hcomes, hfile⟩ | ⟨path, e, hcomes, he⟩ | hno
  · have hchosen : Chooses tree s given path := ⟨paths, hpaths, hcomes, hfile⟩
    rw [find_of_chooses hchosen]
    exact .chosen hchosen
  · rw [find_of_refused hpaths hcomes he]
    exact .refused hpaths hcomes he
  · rw [find_of_noFile hnamed hpaths hno]
    exact .default (not_named_iff.mpr hnamed) hpaths hno

/-- Every search comes to what a rule says. -/
theorem rule_find (tree : FileTree) (columns : Int) (s : ConfigSources) (given : Option Path) :
    Rule tree s given (find tree columns s given).outcome := by
  cases hnamed : namedFile s given with
  | some path => exact rule_find_of_named hnamed
  | none =>
    cases hdir : s.directory with
    | none => exact rule_find_of_candidates hnamed (.plain hnamed hdir)
    | some text =>
      cases htrue : tree.isDir (Path.ofText text) with
      | error e =>
        rw [find_of_noDirectories hnamed (outcome_searchDirectories_of_error hdir htrue)]
        exact .directoryRefused (not_named_iff.mpr hnamed) hdir htrue
      | ok there =>
        cases there with
        | false => exact rule_find_of_candidates hnamed (.ignored hnamed hdir htrue)
        | true =>
          cases hr : tree.resolve (Path.ofText text) with
          | ok r => exact rule_find_of_candidates hnamed (.added hnamed hdir htrue hr)
          | error e =>
            rw [find_of_noDirectories hnamed (outcome_searchDirectories_of_unresolved hdir htrue hr)]
            exact .directoryUnresolved (not_named_iff.mpr hnamed) hdir htrue hr

/-- What a rule says is what the search comes to. -/
theorem Rule.find_eq {outcome : Except SearchError Config} (h : Rule tree s given outcome) :
    (find tree columns s given).outcome = outcome := by
  cases h with
  | chosen h => exact find_of_chooses h
  | missing h hno =>
    rw [find_of_named (named_iff.mp h), hno]
    rfl
  | default h hpaths hno => exact find_of_noFile (not_named_iff.mp h) hpaths hno
  | refused hpaths hcomes he => exact find_of_refused hpaths hcomes he
  | directoryRefused h hdir he =>
    exact find_of_noDirectories (not_named_iff.mp h) (outcome_searchDirectories_of_error hdir he)
  | directoryUnresolved h hdir htrue he =>
    exact find_of_noDirectories (not_named_iff.mp h)
      (outcome_searchDirectories_of_unresolved hdir htrue he)

/-! ## The notice -/

/-- The directory of the environment is ignored: it is no directory, and no file is named. -/
def Ignored (tree : FileTree) (s : ConfigSources) (given : Option Path) (path : Path) : Prop :=
  (∀ path, ¬Named s given path) ∧ ∃ text, s.directory = some text ∧ path = Path.ofText text ∧
    tree.isDir path = .ok false

theorem notice_of_ignored (h : Ignored tree s given path) :
    (find tree columns s given).notice = noticeText columns (ignoredDirectory path) := by
  obtain ⟨hno, text, hdir, rfl, hfalse⟩ := h
  have hnamed := not_named_iff.mp hno
  unfold find searchDirectories
  simp only [hnamed, hdir, hfalse]
  rfl

theorem notice_of_not_ignored (h : ∀ path, ¬Ignored tree s given path) :
    (find tree columns s given).notice = "" := by
  unfold find
  cases hnamed : namedFile s given with
  | some path => rfl
  | none =>
    unfold searchDirectories
    cases hdir : s.directory with
    | none => rfl
    | some text =>
      cases hthere : tree.isDir (Path.ofText text) with
      | error e => simp only [hthere, asked, Except.mapError]
      | ok there =>
        cases there with
        | true => simp only [hthere, asked, Except.mapError]
        | false =>
          exact absurd ⟨not_named_iff.mpr hnamed, text, hdir, rfl, hthere⟩ (h (Path.ofText text))

/-! ## What has been loaded -/

theorem isAbsolute_of_resolve (h : tree.resolve path = .ok place) : place.isAbsolute = true := by
  unfold FileTree.resolve at h
  obtain ⟨tracing, -, hplace⟩ := bind_eq_ok_iff.mp h
  dsimp only at hplace
  split at hplace
  · cases hplace
  · rw [← Except.ok.inj hplace]
    rfl

theorem readFile_eq_ok_iff : readFile tree path = .ok c ↔
    ∃ place text c₀, tree.resolve path = .ok place ∧ fileText tree place = .ok text ∧
      ofText place.parent text = .ok c₀ ∧ c = { c₀ with configFile := some place } := by
  unfold readFile
  cases tree.resolve path with
  | error e => simp
  | ok place =>
    dsimp only
    cases htext : fileText tree place with
    | error e => simp [htext]
    | ok text =>
      dsimp only
      rcases hout : ofText place.parent text with (f | e) | c₀
      · simp [htext, hout]
      · simp [htext, hout]
      · simp [htext, hout, eq_comm]

/-- The text has an entry that sets a key to an item. -/
def TextSets (base : Path) (text : String) (key : ConfigKey) (item : Item) : Prop :=
  ∃ d entries, Yaml.load text = .ok (some d) ∧ ConfigEntry.ofData d = .ok entries ∧
    ∃ e ∈ entries, Sets base e key item

theorem item_of_ofText (h : ofText base text = .ok c) (key : ConfigKey) :
    TextSets base text key (c.item key) ∨ c.item key = ({} : Config).item key := by
  cases hload : Yaml.load text with
  | error e => cases (ofText_of_error hload).symm.trans h
  | ok found =>
    cases found with
    | none =>
      obtain rfl := Except.ok.inj ((ofText_of_none hload).symm.trans h)
      exact .inr rfl
    | some d =>
      cases hentries : ConfigEntry.ofData d with
      | error f =>
        rw [ofText_of_some hload, hentries] at h
        cases h
      | ok entries =>
        have hout := (ofText_eq_ok_iff hload hentries).mp h
        rcases sets_or_default (distinctEntries_of_load hload hentries) hout key with hset | hdefault
        · exact .inl ⟨d, entries, hload, hentries, hset⟩
        · exact .inr hdefault.2

theorem isAbsolute_of_gives_paths {value : Data} {ps : List Path} (hbase : base.isAbsolute = true)
    (h : Gives base value .probingPaths (.paths ps)) : ∀ p ∈ ps, p.isAbsolute = true := by
  cases h with
  | probingPaths hss =>
    intro p hp
    obtain ⟨t, -, rfl⟩ := List.mem_map.mp hp
    exact Path.isAbsolute_join hbase

theorem isAbsolute_of_ofText (hbase : base.isAbsolute = true) (h : ofText base text = .ok c) :
    (∀ p ∈ c.probingPaths, p.isAbsolute = true) ∧ ∀ p, c.logFile = some p → p.isAbsolute = true := by
  constructor
  · rcases item_of_ofText h .probingPaths with ⟨d, entries, -, -, e, -, hset⟩ | hdefault
    · exact isAbsolute_of_gives_paths hbase hset.gives
    · rw [show c.probingPaths = [] from Item.paths.inj hdefault]
      exact fun p hp => absurd hp List.not_mem_nil
  · intro p hp
    rcases item_of_ofText h .logFile with ⟨d, entries, -, -, e, -, hset⟩ | hdefault
    · have hgives : Gives base e.value .logFile (.path c.logFile) := hset.gives
      rw [hp] at hgives
      cases hgives with
      | logFile ht => exact Path.isAbsolute_join hbase
    · have hnone : c.logFile = none := Item.path.inj hdefault
      cases hnone.symm.trans hp

/-- The configuration has been loaded from the file to which a path leads: it says where the file really
is, what its text sets is as the text says, all else is the default, and its paths start from the root. -/
structure LoadedFrom (tree : FileTree) (path : Path) (c : Config) (place : Path) (text : String) :
    Prop where
  resolved : tree.resolve path = .ok place
  read : fileText tree place = .ok text
  file : c.configFile = some place
  items : ∀ key, TextSets place.parent text key (c.item key) ∨ c.item key = ({} : Config).item key
  absolute : place.isAbsolute = true
  probing : ∀ p ∈ c.probingPaths, p.isAbsolute = true
  log : ∀ p, c.logFile = some p → p.isAbsolute = true

theorem loadedFrom_of_readFile (h : readFile tree path = .ok c) :
    ∃ place text, LoadedFrom tree path c place text := by
  obtain ⟨place, text, c₀, hplace, htext, hc, rfl⟩ := readFile_eq_ok_iff.mp h
  have habsolute := isAbsolute_of_resolve hplace
  have hparent : place.parent.isAbsolute = true := habsolute
  obtain ⟨hprobing, hlog⟩ := isAbsolute_of_ofText hparent hc
  refine ⟨place, text, hplace, htext, rfl, fun key => ?_, habsolute, hprobing, hlog⟩
  -- the place of the file is no item of a key
  have hitem := item_of_ofText hc key
  cases key <;> exact hitem

/-- What a search comes to is what the first rule says that fits, whatever else there is. The directory of
the environment is told of once, with a text that can be printed, if it is ignored, and nothing is told
else. The file that is chosen gives a configuration exactly if it can be resolved and read and its text
gives one. A configuration that is found is the default one, if there is no file, or has been loaded from
the file that is chosen. -/
theorem find_precedence (tree : FileTree) (columns : Int) (s : ConfigSources) (given : Option Path) :
    (∀ path, Named s given path ↔ namedFile s given = some path) ∧
      (∀ outcome, (find tree columns s given).outcome = outcome ↔ Rule tree s given outcome) ∧
      ((∀ path, Ignored tree s given path →
          (find tree columns s given).notice = noticeText columns (ignoredDirectory path) ∧
            (print columns { color := some Color.yellow.code } [ignoredDirectory path]).error =
              none) ∧
        ((∀ path, ¬Ignored tree s given path) → (find tree columns s given).notice = "")) ∧
      (∀ path, Chooses tree s given path → ((∃ c, (find tree columns s given).outcome = .ok c) ↔
        ∃ place text c, tree.resolve path = .ok place ∧ fileText tree place = .ok text ∧
          ofText place.parent text = .ok c)) ∧
      ∀ c, (find tree columns s given).outcome = .ok c →
        (c = {} ∧ ∃ paths, Candidates tree s given paths ∧
            ∀ path ∈ paths, tree.isFile path = .ok false) ∨
          ∃ path place text, Chooses tree s given path ∧ LoadedFrom tree path c place text := by
  refine ⟨fun path => named_iff, fun outcome => ⟨?_, Rule.find_eq⟩, ⟨fun path h => ⟨?_, ?_⟩, ?_⟩,
    fun path h => ?_, fun c hc => ?_⟩
  · rintro rfl
    exact rule_find tree columns s given
  · exact notice_of_ignored h
  · exact print_ok columns rfl _
  · exact notice_of_not_ignored
  · rw [find_of_chooses h]
    simp only [readFile_eq_ok_iff]
    constructor
    · rintro ⟨c, place, text, c₀, hplace, htext, hc₀, -⟩
      exact ⟨place, text, c₀, hplace, htext, hc₀⟩
    · rintro ⟨place, text, c₀, hplace, htext, hc₀⟩
      exact ⟨_, place, text, c₀, hplace, htext, hc₀, rfl⟩
  · have hrule := rule_find tree columns s given
    rw [hc] at hrule
    generalize hout : (Except.ok c : Except SearchError Config) = outcome at hrule
    cases hrule with
    | @chosen path h =>
      obtain ⟨place, text, hloaded⟩ := loadedFrom_of_readFile hout.symm
      exact .inr ⟨path, place, text, h, hloaded⟩
    | default h hpaths hno => exact .inl ⟨Except.ok.inj hout, _, hpaths, hno⟩
    | missing => cases hout
    | refused => cases hout
    | directoryRefused => cases hout
    | directoryUnresolved => cases hout

/-! ## A name that is too long -/

/-- A file with a name that is too long, in the current directory. -/
def longTarget : Path := ⟨.relative, [FileTree.longName]⟩

theorem find_longTarget : FileTree.shelf.find longTarget = .error .nameTooLong := by
  refine FileTree.find_of_error ?_
  rw [FileTree.locate_of_short (by decide +kernel)]
  exact FileTree.walk_tooLong FileTree.shelf_root (by decide +kernel) (by decide +kernel)
    (by decide +kernel)

theorem isFile_longTarget : FileTree.shelf.isFile longTarget = .error .nameTooLong := by
  have hnul : FileTree.hasNul longTarget = false := by
    refine Files.hasNul_eq_false fun name hname hmem => ?_
    rw [List.mem_singleton.mp hname, FileTree.longName_toList] at hmem
    exact absurd (List.eq_of_mem_replicate hmem) (by decide)
  unfold FileTree.isFile FileTree.leadsTo
  rw [hnul, if_neg Bool.false_ne_true, find_longTarget]

/-- A file with such a name is not there, but what is raised for it is no configuration error. -/
theorem escapes_longTarget :
    (∀ n, FileTree.shelf.find longTarget ≠ .ok n) ∧
      Named { directories := [] } (some longTarget) longTarget ∧
      Escapes (found FileTree.shelf 80 { directories := [] } (some longTarget))
        (.other (.ofTrouble (.system .nameTooLong longTarget.text))) := by
  refine ⟨fun n hn => ?_, .target rfl, ?_⟩
  · cases find_longTarget.symm.trans hn
  · exact (SearchEscape.candidate (.named rfl) (comesTo_first []) isFile_longTarget).escapes

end Config

end BuildScript
