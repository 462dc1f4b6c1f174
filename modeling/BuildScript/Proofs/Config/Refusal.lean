import BuildScript.Config.Search
import BuildScript.Proofs.Output.Printing

/-!
What is raised in place of a configuration. A configuration error says that there is none
(`Raised.IsConfigError`), with the error of YAML, of the system or of the configuration that led to
it. Main statement: `Config.escapes_iff`, that whatever else is raised is one of the few things listed
(`Config.TextEscape`, `Config.SearchEscape`), and that each of these does escape.
-/

namespace BuildScript

open Files (FileTree LookupError Path Trouble)

/-- A configuration error, with what led to it. -/
def Raised.IsConfigError (e : Raised) (prior : Option Raised) : Prop :=
  ∃ f message data, e = .fault f ∧ f.head = .own .config message data ∧ f.prior? = prior

namespace Raised

theorem isConfigError_of (message : String) :
    (fault (.of .config message)).IsConfigError none := ⟨_, _, _, rfl, rfl, rfl⟩

theorem isConfigError_because (message : String) (prior : Raised) :
    (fault (.because .config message prior)).IsConfigError (some prior) := by
  refine ⟨_, message, .none, rfl, ?_, Fault.prior?_because ..⟩
  cases prior <;> rfl

theorem not_isConfigError_other (e : OtherError) (prior : Option Raised) :
    ¬(other e).IsConfigError prior := by
  rintro ⟨f, message, data, h, -⟩
  cases h

theorem IsConfigError.unique {e : Raised} {prior prior' : Option Raised}
    (h : e.IsConfigError prior) (h' : e.IsConfigError prior') : prior = prior' := by
  obtain ⟨f, message, data, rfl, -, rfl⟩ := h
  obtain ⟨f', message', data', heq, -, rfl⟩ := h'
  rw [Raised.fault.inj heq]

end Raised

namespace Config

/-- This is raised in place of a configuration, and is no configuration error. -/
def Escapes (outcome : Except Raised Config) (o : Raised) : Prop :=
  outcome = .error o ∧ ∀ prior, ¬o.IsConfigError prior

theorem escapes_other {outcome : Except Raised Config} {e : OtherError}
    (h : outcome = .error (.other e)) : Escapes outcome (.other e) :=
  ⟨h, Raised.not_isConfigError_other e⟩

/-! ## Texts -/

/-- What escapes for a text: a scalar of which no value can be made, for another reason than an error
of YAML, and what stands against showing what is wrong with the data. -/
inductive TextEscape (base : Path) (text : String) : Raised → Prop where
  | scalar {className message : String} (h : Yaml.load text = .error (.scalar className message)) :
      TextEscape base text (.other (OtherError.saying className message))
  | unshowable {d : Yaml.Data} {f : ConfigFlaw} {o : Obstacle}
      (h : Yaml.load text = .ok (some d))
      (hf : (ConfigEntry.ofData d >>= ofEntries base) = .error f) (ho : f.message = .error o) :
      TextEscape base text (.ofObstacle o)

/-- What leads to a configuration error for a text: the error of YAML, if no data can be read. -/
def textPrior (text : String) : Option Raised :=
  match Yaml.load text with
  | .error (.flaw _) => some (Raised.ofText "YAMLError" "")
  | _ => none

section Flaws

variable {base : Path} {f : ConfigFlaw}

theorem raised_of_unshowable {o : Obstacle} (h : f.message = .error o) :
    f.raised = .ofObstacle o := by
  unfold ConfigFlaw.raised
  rw [h]

theorem isConfigError_raised {message : String} (h : f.message = .ok message)
    (hne : f ≠ .unreadable) : f.raised.IsConfigError none := by
  unfold ConfigFlaw.raised
  rw [h]
  cases f with
  | unreadable => exact absurd rfl hne
  | _ => exact Raised.isConfigError_of message

/-! What is wrong with data is never that they cannot be read. -/

theorem ne_unreadable_of_bind {α β : Type} {x : Except ConfigFlaw α} {g : α → Except ConfigFlaw β}
    (hx : x ≠ .error .unreadable) (hg : ∀ a, g a ≠ .error .unreadable) :
    (x >>= g) ≠ .error .unreadable := by
  cases x with
  | error e => exact fun h => hx (congrArg Except.error (Except.error.inj h))
  | ok a => exact hg a

theorem textsFor_ne_unreadable (key : ConfigKey) (value : Yaml.Data) :
    textsFor key value ≠ .error .unreadable := by
  unfold textsFor
  split <;> nofun

theorem textFor_ne_unreadable (key : ConfigKey) (value : Yaml.Data) :
    textFor key value ≠ .error .unreadable := by
  unfold textFor
  split <;> nofun

theorem levelOf_ne_unreadable (s : String) : levelOf s ≠ .error .unreadable := by
  unfold levelOf
  dsimp only
  split <;> nofun

theorem set_ne_unreadable (base : Path) (c : Config) (key : ConfigKey) (value : Yaml.Data) :
    c.set base key value ≠ .error .unreadable := by
  cases key with
  | probingPaths => exact ne_unreadable_of_bind (textsFor_ne_unreadable _ _) fun _ => nofun
  | disableNamespaces => exact ne_unreadable_of_bind (textsFor_ne_unreadable _ _) fun _ => nofun
  | logLevel =>
    exact ne_unreadable_of_bind (textFor_ne_unreadable _ _) fun text =>
      ne_unreadable_of_bind (levelOf_ne_unreadable text) fun _ => nofun
  | logFormat => exact ne_unreadable_of_bind (textFor_ne_unreadable _ _) fun _ => nofun
  | logFile => exact ne_unreadable_of_bind (textFor_ne_unreadable _ _) fun _ => nofun

theorem setEntry_ne_unreadable (base : Path) (c : Config) (e : ConfigEntry) :
    c.setEntry base e ≠ .error .unreadable := by
  unfold setEntry
  split
  · nofun
  · split
    · nofun
    · exact set_ne_unreadable base c _ e.value

theorem ofEntries_ne_unreadable (base : Path) (entries : List ConfigEntry) :
    ofEntries base entries ≠ .error .unreadable := by
  unfold ofEntries
  generalize ({} : Config) = c
  induction entries generalizing c with
  | nil => nofun
  | cons e rest ih =>
    rw [List.foldlM_cons]
    exact ne_unreadable_of_bind (setEntry_ne_unreadable base c e) ih

theorem ofData_ne_unreadable (d : Yaml.Data) : ConfigEntry.ofData d ≠ .error .unreadable := by
  unfold ConfigEntry.ofData
  split
  · split <;> nofun
  · split <;> nofun

end Flaws

section OfText

variable {base : Path} {text : String} {o : Raised}

theorem ofText_of_error {e : Yaml.LoadError} (h : Yaml.load text = .error e) :
    ofText base text = .error e.raised := by
  unfold ofText
  rw [h]

theorem ofText_of_none (h : Yaml.load text = .ok none) : ofText base text = .ok {} := by
  unfold ofText
  rw [h]

theorem ofText_of_some {d : Yaml.Data} (h : Yaml.load text = .ok (some d)) :
    ofText base text =
      (ConfigEntry.ofData d >>= ofEntries base).mapError ConfigFlaw.raised := by
  unfold ofText
  rw [h]

/-- A text gives a configuration, a configuration error, or something that escapes. -/
theorem ofText_cases (base : Path) (text : String) :
    (∃ c, ofText base text = .ok c) ∨
      (∃ e, ofText base text = .error e ∧ e.IsConfigError (textPrior text)) ∨
      ∃ o, ofText base text = .error o ∧ TextEscape base text o := by
  cases hload : Yaml.load text with
  | error e =>
    have hout : ofText base text = .error e.raised := ofText_of_error hload
    cases e with
    | flaw y =>
      refine .inr (.inl ⟨_, hout, ?_⟩)
      unfold textPrior
      rw [hload]
      exact Raised.isConfigError_because ..
    | scalar className message => exact .inr (.inr ⟨_, hout, .scalar hload⟩)
  | ok d =>
    cases d with
    | none => exact .inl ⟨_, ofText_of_none hload⟩
    | some d =>
      have hprior : textPrior text = none := by
        unfold textPrior
        rw [hload]
      rw [ofText_of_some hload, hprior]
      cases hmade : ConfigEntry.ofData d >>= ofEntries base with
      | ok c => exact .inl ⟨c, rfl⟩
      | error f =>
        have hne : f ≠ .unreadable := by
          rintro rfl
          exact ne_unreadable_of_bind (ofData_ne_unreadable d) (ofEntries_ne_unreadable base) hmade
        cases hmessage : f.message with
        | ok message => exact .inr (.inl ⟨_, rfl, isConfigError_raised hmessage hne⟩)
        | error o =>
          refine .inr (.inr ⟨_, congrArg Except.error (raised_of_unshowable hmessage), ?_⟩)
          exact .unshowable hload hmade hmessage

theorem TextEscape.eq_other (h : TextEscape base text o) : ∃ e, o = .other e := by
  cases h with
  | scalar => exact ⟨_, rfl⟩
  | unshowable => exact ⟨_, rfl⟩

theorem TextEscape.escapes (h : TextEscape base text o) : Escapes (ofText base text) o := by
  cases h with
  | scalar h => exact escapes_other (ofText_of_error h)
  | unshowable h hf ho =>
    refine escapes_other ?_
    rw [ofText_of_some h, hf]
    exact congrArg Except.error (raised_of_unshowable ho)

theorem escapes_ofText_iff : Escapes (ofText base text) o ↔ TextEscape base text o := by
  refine ⟨fun ⟨hout, hno⟩ => ?_, TextEscape.escapes⟩
  rcases ofText_cases base text with ⟨c, hc⟩ | ⟨e, he, hconfig⟩ | ⟨o', ho', hescape⟩
  · cases hout.symm.trans hc
  · obtain rfl := Except.error.inj (hout.symm.trans he)
    exact absurd hconfig (hno _)
  · obtain rfl := Except.error.inj (hout.symm.trans ho')
    exact hescape

theorem textPrior_eq {e : Raised} {prior : Option Raised} (h : ofText base text = .error e)
    (he : e.IsConfigError prior) : prior = textPrior text := by
  rcases ofText_cases base text with ⟨c, hc⟩ | ⟨e', he', hconfig⟩ | ⟨o, ho, hescape⟩
  · cases h.symm.trans hc
  · obtain rfl := Except.error.inj (h.symm.trans he')
    exact he.unique hconfig
  · obtain rfl := Except.error.inj (h.symm.trans ho)
    exact absurd he (hescape.escapes.2 prior)

end OfText

/-! ## Files -/

/-- The paths at which a configuration is looked for, in order: the one that is named, or those in the
search directories, to which the environment may add one. -/
inductive Candidates (tree : FileTree) (s : ConfigSources) (given : Option Path) :
    List Path → Prop where
  | named {path : Path} (h : namedFile s given = some path) : Candidates tree s given [path]
  | plain (h : namedFile s given = none) (hdir : s.directory = none) :
      Candidates tree s given (s.directories.map fun d => d.child configName)
  | ignored (h : namedFile s given = none) {text : String} (hdir : s.directory = some text)
      (hno : tree.isDir (Path.ofText text) = .ok false) :
      Candidates tree s given (s.directories.map fun d => d.child configName)
  | added (h : namedFile s given = none) {text : String} (hdir : s.directory = some text)
      (htrue : tree.isDir (Path.ofText text) = .ok true) {r : Path}
      (hr : tree.resolve (Path.ofText text) = .ok r) :
      Candidates tree s given ((s.directories ++ [r]).map fun d => d.child configName)

/-- A search comes to a path: none of those in front of it leads to a file. -/
def ComesTo (tree : FileTree) (paths : List Path) (path : Path) : Prop :=
  ∃ skipped rest, paths = skipped ++ path :: rest ∧ ∀ q ∈ skipped, tree.isFile q = .ok false

/-- The path is the first of the candidates that leads to a file. -/
def Chooses (tree : FileTree) (s : ConfigSources) (given : Option Path) (path : Path) : Prop :=
  ∃ paths, Candidates tree s given paths ∧ ComesTo tree paths path ∧ tree.isFile path = .ok true

/-- What escapes of a search: that the system does not look at a path or resolve it, and what escapes
for the text of the file. -/
inductive SearchEscape (tree : FileTree) (s : ConfigSources) (given : Option Path) :
    Raised → Prop where
  | directory (h : namedFile s given = none) {text : String} (hdir : s.directory = some text)
      {e : LookupError} (he : tree.isDir (Path.ofText text) = .error e) :
      SearchEscape tree s given (.other (.ofTrouble (.system e (Path.ofText text).text)))
  | unresolvedDirectory (h : namedFile s given = none) {text : String}
      (hdir : s.directory = some text) (htrue : tree.isDir (Path.ofText text) = .ok true)
      {e : Trouble} (he : tree.resolve (Path.ofText text) = .error e) :
      SearchEscape tree s given (.other (.ofTrouble e))
  | candidate {paths : List Path} {path : Path} (hpaths : Candidates tree s given paths)
      (hcomes : ComesTo tree paths path) {e : LookupError} (he : tree.isFile path = .error e) :
      SearchEscape tree s given (.other (.ofTrouble (.system e path.text)))
  | unresolved {path : Path} (hpath : Chooses tree s given path) {e : Trouble}
      (he : tree.resolve path = .error e) : SearchEscape tree s given (.other (.ofTrouble e))
  | text {path place : Path} (hpath : Chooses tree s given path)
      (hplace : tree.resolve path = .ok place) {text : String}
      (htext : fileText tree place = .ok text) {o : Raised} (ho : TextEscape place.parent text o) :
      SearchEscape tree s given o

/-- What leads to a configuration error of a search: nothing if the file that is named is not there,
the error of the system if the file cannot be read, and else the configuration error for its text. -/
inductive SearchPrior (tree : FileTree) (s : ConfigSources) (given : Option Path) :
    Option Raised → Prop where
  | missing {path : Path} (h : namedFile s given = some path) (hno : tree.isFile path = .ok false) :
      SearchPrior tree s given none
  | unreadable {path place : Path} (hpath : Chooses tree s given path)
      (hplace : tree.resolve path = .ok place) {e : LookupError}
      (he : fileText tree place = .error e) :
      SearchPrior tree s given (some (.other (.ofTrouble (.system e place.text))))
  | flawed {path place : Path} (hpath : Chooses tree s given path)
      (hplace : tree.resolve path = .ok place) {text : String}
      (htext : fileText tree place = .ok text) {e : Raised}
      (he : ofText place.parent text = .error e) (hconfig : e.IsConfigError (textPrior text)) :
      SearchPrior tree s given (some e)

/-- What a search gives or raises. -/
def found (tree : FileTree) (columns : Int) (s : ConfigSources) (given : Option Path) :
    Except Raised Config :=
  (find tree columns s given).outcome.mapError SearchError.raised

section First

variable {tree : FileTree} {paths : List Path} {path : Path}

theorem comesTo_cons {first : Path} (h : tree.isFile first = .ok false) :
    ComesTo tree paths path → ComesTo tree (first :: paths) path := by
  rintro ⟨skipped, rest, rfl, hno⟩
  exact ⟨first :: skipped, rest, rfl, List.forall_mem_cons.mpr ⟨h, hno⟩⟩

theorem firstFile_cons (rest : List Path) (h : tree.isFile path = .ok false) :
    firstFile tree (path :: rest) = firstFile tree rest := by
  rw [firstFile, h]
  rfl

theorem firstFile_append {skipped : List Path} (hno : ∀ q ∈ skipped, tree.isFile q = .ok false)
    (rest : List Path) : firstFile tree (skipped ++ rest) = firstFile tree rest := by
  induction skipped with
  | nil => rfl
  | cons q skipped ih =>
    obtain ⟨hq, hskipped⟩ := List.forall_mem_cons.mp hno
    rw [List.cons_append, firstFile_cons _ hq, ih hskipped]

/-- Where a search comes to a file, that is the first. -/
theorem firstFile_of_true (hcomes : ComesTo tree paths path) (h : tree.isFile path = .ok true) :
    firstFile tree paths = .ok (some path) := by
  obtain ⟨skipped, rest, rfl, hno⟩ := hcomes
  rw [firstFile_append hno, firstFile, h]
  rfl

theorem firstFile_of_error (hcomes : ComesTo tree paths path) {e : LookupError}
    (h : tree.isFile path = .error e) :
    firstFile tree paths = .error (.trouble (.system e path.text)) := by
  obtain ⟨skipped, rest, rfl, hno⟩ := hcomes
  rw [firstFile_append hno, firstFile, h]
  rfl

theorem firstFile_of_false (hno : ∀ q ∈ paths, tree.isFile q = .ok false) :
    firstFile tree paths = .ok none := by
  rw [← List.append_nil paths, firstFile_append hno]
  rfl

/-- A search comes to a file, to a path at which the system does not look, or to nothing. -/
theorem firstFile_cases (tree : FileTree) (paths : List Path) :
    (∃ path, ComesTo tree paths path ∧ tree.isFile path = .ok true) ∨
      (∃ path e, ComesTo tree paths path ∧ tree.isFile path = .error e) ∨
      ∀ path ∈ paths, tree.isFile path = .ok false := by
  induction paths with
  | nil => exact .inr (.inr fun q hq => absurd hq List.not_mem_nil)
  | cons path rest ih =>
    have hhere : ComesTo tree (path :: rest) path :=
      ⟨[], rest, rfl, fun q hq => absurd hq List.not_mem_nil⟩
    cases hfile : tree.isFile path with
    | error e => exact .inr (.inl ⟨path, e, hhere, hfile⟩)
    | ok b =>
      cases b with
      | true => exact .inl ⟨path, hhere, hfile⟩
      | false =>
        rcases ih with ⟨q, hcomes, hq⟩ | ⟨q, e, hcomes, hq⟩ | hno
        · exact .inl ⟨q, comesTo_cons hfile hcomes, hq⟩
        · exact .inr (.inl ⟨q, e, comesTo_cons hfile hcomes, hq⟩)
        · exact .inr (.inr (List.forall_mem_cons.mpr ⟨hfile, hno⟩))

end First

section Found

variable {tree : FileTree} {columns : Int} {s : ConfigSources} {given : Option Path}
  {paths : List Path} {path place : Path} {text : String} {o : Raised}

theorem find_of_named (h : namedFile s given = some path) :
    (find tree columns s given).outcome = (do
      if ← asked path (tree.isFile path) then readFile tree path
      else throw (.missingFile path)) := by
  unfold find
  rw [h]

theorem find_of_directories (h : namedFile s given = none) {ds : List Path}
    (hds : (searchDirectories tree columns s).outcome = .ok ds) :
    (find tree columns s given).outcome =
      readFirst tree (ds.map fun d => d.child configName) := by
  unfold find
  rw [h]
  dsimp only
  rw [hds]
  rfl

theorem find_of_noDirectories (h : namedFile s given = none) {e : SearchError}
    (he : (searchDirectories tree columns s).outcome = .error e) :
    (find tree columns s given).outcome = .error e := by
  unfold find
  rw [h]
  dsimp only
  rw [he]
  rfl

theorem outcome_searchDirectories_of_none (h : s.directory = none) :
    (searchDirectories tree columns s).outcome = .ok s.directories := by
  unfold searchDirectories
  rw [h]

theorem outcome_searchDirectories_of_false (h : s.directory = some text)
    (hno : tree.isDir (Path.ofText text) = .ok false) :
    (searchDirectories tree columns s).outcome = .ok s.directories := by
  unfold searchDirectories
  rw [h]
  dsimp only
  rw [hno]
  rfl

theorem outcome_searchDirectories_of_true (h : s.directory = some text)
    (htrue : tree.isDir (Path.ofText text) = .ok true) {r : Path}
    (hr : tree.resolve (Path.ofText text) = .ok r) :
    (searchDirectories tree columns s).outcome = .ok (s.directories ++ [r]) := by
  unfold searchDirectories
  rw [h]
  dsimp only
  rw [htrue, hr]
  rfl

theorem outcome_searchDirectories_of_unresolved (h : s.directory = some text)
    (htrue : tree.isDir (Path.ofText text) = .ok true) {e : Trouble}
    (he : tree.resolve (Path.ofText text) = .error e) :
    (searchDirectories tree columns s).outcome = .error (.trouble e) := by
  unfold searchDirectories
  rw [h]
  dsimp only
  rw [htrue, he]
  rfl

theorem outcome_searchDirectories_of_error (h : s.directory = some text) {e : LookupError}
    (he : tree.isDir (Path.ofText text) = .error e) :
    (searchDirectories tree columns s).outcome =
      .error (.trouble (.system e (Path.ofText text).text)) := by
  unfold searchDirectories
  rw [h]
  dsimp only
  rw [he]
  rfl

/-- One candidate is named and has to be there, or the candidates are tried in order. -/
theorem Candidates.find_eq (h : Candidates tree s given paths) :
    (∃ path, namedFile s given = some path ∧ paths = [path]) ∨
      (find tree columns s given).outcome = readFirst tree paths := by
  cases h with
  | named h => exact .inl ⟨_, h, rfl⟩
  | plain h hdir =>
    exact .inr (find_of_directories h (outcome_searchDirectories_of_none hdir))
  | ignored h hdir hno =>
    exact .inr (find_of_directories h (outcome_searchDirectories_of_false hdir hno))
  | added h hdir htrue hr =>
    exact .inr (find_of_directories h (outcome_searchDirectories_of_true hdir htrue hr))

theorem comesTo_singleton {only : Path} (h : ComesTo tree [only] path) : path = only := by
  obtain ⟨skipped, rest, heq, -⟩ := h
  rcases List.append_eq_cons_iff.mp heq.symm with ⟨-, hcons⟩ | ⟨skipped', -, hnil⟩
  · exact (List.cons.inj hcons).1
  · exact absurd hnil.symm (List.append_ne_nil_of_right_ne_nil _ (List.cons_ne_nil _ _))

/-- The file that is chosen is read, and no other. -/
theorem find_of_chooses (h : Chooses tree s given path) :
    (find tree columns s given).outcome = readFile tree path := by
  obtain ⟨paths, hpaths, hcomes, hfile⟩ := h
  rcases hpaths.find_eq with ⟨only, hnamed, rfl⟩ | heq
  · obtain rfl := comesTo_singleton hcomes
    rw [find_of_named hnamed, hfile]
    rfl
  · rw [heq, readFirst, firstFile_of_true hcomes hfile]
    rfl

theorem find_of_refused (hpaths : Candidates tree s given paths) (hcomes : ComesTo tree paths path)
    {e : LookupError} (he : tree.isFile path = .error e) :
    (find tree columns s given).outcome = .error (.trouble (.system e path.text)) := by
  rcases hpaths.find_eq with ⟨only, hnamed, rfl⟩ | heq
  · obtain rfl := comesTo_singleton hcomes
    rw [find_of_named hnamed, he]
    rfl
  · rw [heq, readFirst, firstFile_of_error hcomes he]
    rfl

/-- What is searched for has candidates, or something escapes before. -/
theorem candidates_or_escape (tree : FileTree) (columns : Int) (s : ConfigSources)
    (given : Option Path) :
    (∃ paths, Candidates tree s given paths) ∨
      ∃ o, found tree columns s given = .error o ∧ SearchEscape tree s given o := by
  cases hnamed : namedFile s given with
  | some path => exact .inl ⟨[path], .named hnamed⟩
  | none =>
    cases hdir : s.directory with
    | none => exact .inl ⟨_, .plain hnamed hdir⟩
    | some text =>
      cases htrue : tree.isDir (Path.ofText text) with
      | error e =>
        refine .inr ⟨_, ?_, .directory hnamed hdir htrue⟩
        unfold found
        rw [find_of_noDirectories hnamed (outcome_searchDirectories_of_error hdir htrue)]
        rfl
      | ok b =>
        cases b with
        | false => exact .inl ⟨_, .ignored hnamed hdir htrue⟩
        | true =>
          cases hr : tree.resolve (Path.ofText text) with
          | ok r => exact .inl ⟨_, .added hnamed hdir htrue hr⟩
          | error e =>
            refine .inr ⟨_, ?_, .unresolvedDirectory hnamed hdir htrue hr⟩
            unfold found
            rw [find_of_noDirectories hnamed (outcome_searchDirectories_of_unresolved hdir htrue hr)]
            rfl

/-- What can come of a search: a configuration, a configuration error, or something that escapes. -/
inductive Settled (tree : FileTree) (s : ConfigSources) (given : Option Path) :
    Except Raised Config → Prop where
  | config (c : Config) : Settled tree s given (.ok c)
  | refused {e : Raised} {prior : Option Raised} (h : e.IsConfigError prior)
      (hprior : SearchPrior tree s given prior) : Settled tree s given (.error e)
  | escaped {o : Raised} (h : SearchEscape tree s given o) : Settled tree s given (.error o)

theorem settled_readFile (h : Chooses tree s given path) :
    Settled tree s given ((readFile tree path).mapError SearchError.raised) := by
  unfold readFile
  cases hplace : tree.resolve path with
  | error e => exact .escaped (.unresolved h hplace)
  | ok place =>
    dsimp only
    cases htext : fileText tree place with
    | error e =>
      exact .refused (Raised.isConfigError_because ..) (.unreadable h hplace htext)
    | ok text =>
      dsimp only
      rcases ofText_cases place.parent text with ⟨c, hc⟩ | ⟨e, he, hconfig⟩ | ⟨o, ho, hescape⟩
      · rw [hc]
        exact .config _
      · rw [he]
        obtain ⟨f, message, data, rfl, -⟩ := id hconfig
        exact .refused (Raised.isConfigError_because ..) (.flawed h hplace htext he hconfig)
      · rw [ho]
        obtain ⟨e, rfl⟩ := hescape.eq_other
        exact .escaped (.text h hplace htext hescape)

/-- A search gives a configuration, a configuration error, or something that escapes. -/
theorem settled_found (tree : FileTree) (columns : Int) (s : ConfigSources) (given : Option Path) :
    Settled tree s given (found tree columns s given) := by
  rcases candidates_or_escape tree columns s given with ⟨paths, hpaths⟩ | ⟨o, ho, hescape⟩
  · unfold found
    rcases firstFile_cases tree paths with ⟨path, hcomes, hfile⟩ | ⟨path, e, hcomes, he⟩ | hno
    · have hchosen : Chooses tree s given path := ⟨paths, hpaths, hcomes, hfile⟩
      rw [find_of_chooses hchosen]
      exact settled_readFile hchosen
    · rw [find_of_refused hpaths hcomes he]
      exact .escaped (.candidate hpaths hcomes he)
    · rcases hpaths.find_eq with ⟨only, hnamed, rfl⟩ | heq
      · have hmissing := hno only (List.mem_singleton_self only)
        rw [find_of_named hnamed, hmissing]
        exact .refused (Raised.isConfigError_of _) (.missing hnamed hmissing)
      · rw [heq, readFirst, firstFile_of_false hno]
        exact .config _
  · rw [ho]
    exact .escaped hescape

theorem readFile_of_resolve_error {e : Trouble} (h : tree.resolve path = .error e) :
    readFile tree path = .error (.trouble e) := by
  unfold readFile
  rw [h]

theorem readFile_of_text_error (hplace : tree.resolve path = .ok place)
    (htext : fileText tree place = .ok text) {e : OtherError}
    (h : ofText place.parent text = .error (.other e)) :
    readFile tree path = .error (.other e) := by
  unfold readFile
  rw [hplace]
  dsimp only
  rw [htext]
  dsimp only
  rw [h]

theorem SearchEscape.escapes (h : SearchEscape tree s given o) :
    Escapes (found tree columns s given) o := by
  unfold found
  cases h with
  | directory h hdir he =>
    refine escapes_other ?_
    rw [find_of_noDirectories h (outcome_searchDirectories_of_error hdir he)]
    rfl
  | unresolvedDirectory h hdir htrue he =>
    refine escapes_other ?_
    rw [find_of_noDirectories h (outcome_searchDirectories_of_unresolved hdir htrue he)]
    rfl
  | candidate hpaths hcomes he =>
    refine escapes_other ?_
    rw [find_of_refused hpaths hcomes he]
    rfl
  | unresolved hpath he =>
    refine escapes_other ?_
    rw [find_of_chooses hpath, readFile_of_resolve_error he]
    rfl
  | text hpath hplace htext ho =>
    obtain ⟨e, rfl⟩ := ho.eq_other
    refine escapes_other ?_
    rw [find_of_chooses hpath, readFile_of_text_error hplace htext ho.escapes.1]
    rfl

theorem escapes_found_iff :
    Escapes (found tree columns s given) o ↔ SearchEscape tree s given o := by
  refine ⟨fun ⟨hout, hno⟩ => ?_, SearchEscape.escapes⟩
  have h := settled_found tree columns s given
  rw [hout] at h
  cases h with
  | refused hconfig => exact absurd hconfig (hno _)
  | escaped h => exact h

theorem searchPrior_of_found {e : Raised} {prior : Option Raised}
    (h : found tree columns s given = .error e) (he : e.IsConfigError prior) :
    SearchPrior tree s given prior := by
  have hsettled := settled_found tree columns s given
  rw [h] at hsettled
  cases hsettled with
  | refused hconfig hprior => exact he.unique hconfig ▸ hprior
  | escaped hescape =>
    have hno : Escapes (found tree columns s given) e := hescape.escapes
    exact absurd he (hno.2 prior)

end Found

/-! ## All that escapes -/

/-- Every configuration that is bad is a configuration error, but for the few things that escape. For
a text these are scalars of which no value can be made, and what cannot be shown; for a search also
that the system does not look at a path or resolve it. The error of YAML, of the system or of the
configuration is told as what led to the configuration error, and the notice about a directory that
is not there can always be printed. -/
theorem escapes_iff (base : Path) (text : String) (tree : FileTree) (columns : Int)
    (s : ConfigSources) (given : Option Path) :
    ((∀ o, Escapes (ofText base text) o ↔ TextEscape base text o) ∧
        ∀ e prior, ofText base text = .error e → e.IsConfigError prior → prior = textPrior text) ∧
      ((∀ o, Escapes (found tree columns s given) o ↔ SearchEscape tree s given o) ∧
        ∀ e prior, found tree columns s given = .error e → e.IsConfigError prior →
          SearchPrior tree s given prior) ∧
      ∀ path, (print columns { color := some Color.yellow.code } [ignoredDirectory path]).error =
        none := by
  refine ⟨⟨fun o => escapes_ofText_iff, fun e prior h he => ?_⟩,
    ⟨fun o => escapes_found_iff, fun e prior h he => ?_⟩, fun path => ?_⟩
  · exact textPrior_eq h he
  · exact searchPrior_of_found h he
  · exact print_ok columns rfl _

/-- The text of a configuration whose file is a day that there is not. -/
def impossibleDate : String := "log_file: 2001-02-30"

/-- It is a bad value, and no configuration error. -/
theorem escapes_impossibleDate :
    Escapes (ofText ⟨.slash, []⟩ impossibleDate)
      (.other (OtherError.saying "ValueError" "day is out of range for month")) := by
  have hload : Yaml.load impossibleDate =
      .error (.scalar "ValueError" "day is out of range for month") := by
    have hsame : (match Yaml.load impossibleDate with
        | .error e => decide (e = .scalar "ValueError" "day is out of range for month")
        | .ok _ => false) = true := by decide +kernel
    split at hsame
    · rename_i e he
      rw [he, of_decide_eq_true hsame]
    · cases hsame
  exact (TextEscape.scalar hload).escapes

end Config

end BuildScript
