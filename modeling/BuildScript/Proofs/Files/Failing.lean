import BuildScript.Proofs.Files.Regular

/-!
When probing fails. A path that the system refuses for its length is an error wherever probing looks at it, and so
is an entry of the walk whose links lead back to themselves (`FileTree.Fails`). Main statements:
`probe_eq_error_iff`, that there are no other errors, and `Fails.origin`, that such an entry is a link that leads
nowhere. The walk lists it like any link that leads to no directory, and only resolving it fails.
-/

namespace BuildScript.Files

namespace FileTree

variable {t : FileTree} {recursive : Bool} {name : String} {directories rest : List Path}
  {directory p r : Path} {here rel : List String}

/-! ## Paths that are refused -/

/-- The system refuses to look at a path: the path has too many bytes, or a name on the way. -/
def Refuses (t : FileTree) (p : Path) : Prop :=
  hasNul p = false ∧ t.locate true p = .error .nameTooLong

theorem find_eq_tooLong_iff : t.find p = .error .nameTooLong ↔ t.locate true p = .error .nameTooLong := by
  cases hplace : t.locate true p with
  | error e => rw [find_of_error hplace, Except.error.injEq, Except.error.injEq]
  | ok here =>
    cases hn : t.nodeAt? here with
    | none =>
      rw [find_of_none hplace hn]
      exact iff_of_false nofun nofun
    | some n =>
      rw [find_of_some hplace hn]
      exact iff_of_false nofun nofun

theorem leadsTo_eq_error_iff {kind : Node → Bool} {e : LookupError} :
    t.leadsTo kind p = .error e ↔ t.Refuses p ∧ e = .nameTooLong := by
  unfold leadsTo Refuses
  rw [← find_eq_tooLong_iff]
  cases hasNul p with
  | true => exact iff_of_false nofun nofun
  | false =>
    rw [if_neg Bool.false_ne_true]
    cases t.find p with
    | ok n => exact iff_of_false nofun nofun
    | error e' => cases e' <;> simp [eq_comm]

/-! ## Tracing -/

theorem noNul_target (ht : t.Proper) {target : String} (h : t.findLink p = .ok (.link target)) :
    '\x00' ∉ target.toList := by
  cases hplace : t.locate false p with
  | error e =>
    rw [findLink_of_error hplace] at h
    cases h
  | ok here =>
    cases hn : t.nodeAt? here with
    | none =>
      unfold findLink at h
      rw [hplace] at h
      simp only [bind, Except.bind, hn] at h
      cases h
    | some n =>
      rw [findLink_of_some hplace hn, Except.ok.injEq] at h
      exact ht.targets here target (h ▸ hn)

/-- No link that has been seen resolves to a trail with the character that ends texts. -/
def SeenNoNul (seen : List (Trail × Option Trail)) : Prop :=
  ∀ q e, seen.lookup q = some (some e) → NoNul e.names

theorem SeenNoNul.cons {seen : List (Trail × Option Trail)} (h : SeenNoNul seen) {q : Trail}
    {known : Option Trail} (hknown : ∀ e, known = some e → NoNul e.names) :
    SeenNoNul ((q, known) :: seen) := by
  intro q' e he
  rw [Table.lookup_cons] at he
  split at he
  · exact hknown e (Option.some.inj he)
  · exact h q' e he

section Step

variable {fuel : Nat} {seen : List (Trail × Option Trail)} {trail : Trail} {target : String}
  {rest : List String} (hname : IsOwnName name) (hnul : hasNul (trail.down name).path = false)
  (hlink : t.findLink (trail.down name).path = .ok (.link target))

include hname hnul hlink

/-- A link that is met again stays, with the names behind it, and so does one for which no fuel is left. -/
theorem trace_halted (h : seen.lookup (trail.down name) = some none ∨
      seen.lookup (trail.down name) = none ∧ fuel = 0) :
    t.trace fuel seen trail (name :: rest) =
      .ok ⟨⟨trail.absolute, (trail.down name).names ++ rest⟩, seen, false⟩ := by
  rw [trace]
  dsimp only
  rw [if_neg (by simp [hname.ne_empty, hname.ne_dot]), if_neg hname.ne_up, hnul,
    if_neg Bool.false_ne_true]
  rcases h with hseen | ⟨hseen, rfl⟩
  · simp only [hlink, hseen]
    rfl
  · simp only [hlink, hseen]
    rfl

/-- Where the target of a link is not followed to its end, neither is what stands behind it. -/
theorem trace_stopped (hseen : seen.lookup (trail.down name) = none) {mid : Trail}
    {seen' : List (Trail × Option Trail)}
    (hinner : t.trace fuel ((trail.down name, none) :: seen) (trail.ofLink target)
      (Path.pieces target) = .ok ⟨mid, seen', false⟩) :
    t.trace (fuel + 1) seen trail (name :: rest) =
      .ok ⟨⟨mid.absolute, mid.names ++ rest⟩, seen', false⟩ := by
  rw [trace]
  dsimp only
  rw [if_neg (by simp [hname.ne_empty, hname.ne_dot]), if_neg hname.ne_up, hnul,
    if_neg Bool.false_ne_true]
  simp only [hlink, hseen]
  unfold Trail.ofLink at hinner
  rw [hinner]
  rfl

end Step

/-- Names without the character that ends texts are traced without an error. -/
theorem exists_trace_of_noNul (ht : t.Proper) (fuel : Nat) {seen : List (Trail × Option Trail)}
    {trail : Trail} {names : List String} (hseen : SeenNoNul seen) (htrail : NoNul trail.names)
    (hnames : NoNul names) :
    ∃ tracing, t.trace fuel seen trail names = .ok tracing ∧ NoNul tracing.trail.names ∧
      SeenNoNul tracing.seen := by
  have hown {name : String} (hskip : ¬(decide (name = "") || decide (name = ".")) = true)
      (hup : ¬name = "..") : IsOwnName name := by
    simp only [Bool.or_eq_true, decide_eq_true_eq, not_or] at hskip
    exact ⟨hskip.1, hskip.2, hup⟩
  induction fuel, seen, trail, names using trace.induct t with
  | case1 fuel seen trail => exact ⟨_, trace_nil, htrail, hseen⟩
  | case2 fuel seen trail name rest hskip ih =>
    rw [trace_dot (by simpa using hskip)]
    exact ih hseen htrail (List.forall_mem_cons.mp hnames).2
  | case3 fuel seen trail rest hskip ih =>
    rw [trace_up]
    exact ih hseen (Trail.noNul_up htrail) (List.forall_mem_cons.mp hnames).2
  | case4 fuel seen trail name rest hskip hup next hnul =>
    have hnext : NoNul next.names := noNul_down htrail (List.forall_mem_cons.mp hnames).1
    exact absurd hnul (Bool.eq_false_iff.mp (hasNul_eq_false hnext))
  | case5 fuel seen trail name rest hskip hup next hnul target hlink resolved hlookup ih =>
    rw [trace_known (hown hskip hup) (Bool.eq_false_iff.mpr hnul) hlink hlookup]
    exact ih hseen (hseen _ _ hlookup) (List.forall_mem_cons.mp hnames).2
  | case6 fuel seen trail name rest hskip hup next hnul target hlink hlookup =>
    obtain ⟨hname, hrest⟩ := List.forall_mem_cons.mp hnames
    exact ⟨_, trace_halted (hown hskip hup) (Bool.eq_false_iff.mpr hnul) hlink (.inl hlookup),
      (noNul_down htrail hname).append hrest, hseen⟩
  | case7 seen trail name rest hskip hup next hnul target hlink hlookup =>
    obtain ⟨hname, hrest⟩ := List.forall_mem_cons.mp hnames
    exact ⟨_, trace_halted (hown hskip hup) (Bool.eq_false_iff.mpr hnul) hlink (.inr ⟨hlookup, rfl⟩),
      (noNul_down htrail hname).append hrest, hseen⟩
  | case8 seen trail name rest hskip hup next hnul target hlink hlookup fuel start ihInner ihRest =>
    obtain ⟨hname, hrest⟩ := List.forall_mem_cons.mp hnames
    obtain ⟨⟨mid, seen', complete⟩, hinner, hmid, hseen'⟩ := ihInner (hseen.cons nofun)
      (noNul_ofLink htrail target) (noNul_pieces (noNul_target ht hlink))
    cases complete with
    | false =>
      exact ⟨_, trace_stopped (hown hskip hup) (Bool.eq_false_iff.mpr hnul) hlink hlookup hinner,
        hmid.append hrest, hseen'⟩
    | true =>
      rw [trace_new (hown hskip hup) (Bool.eq_false_iff.mpr hnul) hlink hlookup hinner]
      refine ihRest ⟨mid, seen', true⟩ (hseen'.cons fun e he => ?_) hmid hrest
      rwa [← Option.some.inj he]
  | case9 fuel seen trail name rest hskip hup next hnul hno ih =>
    obtain ⟨hname, hrest⟩ := List.forall_mem_cons.mp hnames
    rw [trace_down (hown hskip hup) (Bool.eq_false_iff.mpr hnul) hno]
    exact ih hseen (noNul_down htrail hname) hrest

/-! ## Where resolving a path stops -/

/-- With its links followed as far as they can be, the path is `r`: a link that is met again while its target is
followed stays in it, with the names behind it. -/
def StopsAt (t : FileTree) (p r : Path) : Prop :=
  ∃ tracing, t.trace t.traceFuel [] ⟨p.isAbsolute, []⟩ p.names = .ok tracing ∧
    r = ⟨.slash, tracing.trail.fold t.current⟩

theorem exists_stopsAt (ht : t.Proper) (hnul : NoNul p.names) : ∃ r, t.StopsAt p r := by
  have hstart : NoNul (⟨p.isAbsolute, []⟩ : Trail).names := nofun
  have hseen : SeenNoNul [] := nofun
  obtain ⟨tracing, htrace, -⟩ := exists_trace_of_noNul ht t.traceFuel hseen hstart hnul
  exact ⟨_, tracing, htrace, rfl⟩

namespace StopsAt

/-- A path at which the links lead back to themselves is not resolved. -/
theorem resolve_of_cycle (h : t.StopsAt p r) (hcycle : t.find r = .error .tooManyLinks) :
    t.resolve p = .error (.linkCycle r.text) := by
  obtain ⟨tracing, htrace, rfl⟩ := h
  unfold resolve
  rw [htrace]
  simp only [bind, Except.bind, hcycle]

theorem resolve_eq (h : t.StopsAt p r) (hfine : t.find r ≠ .error .tooManyLinks) :
    t.resolve p = .ok r := by
  obtain ⟨tracing, htrace, rfl⟩ := h
  unfold resolve
  rw [htrace]
  simp only [bind, Except.bind]

theorem isAbsolute (h : t.StopsAt p r) : r.isAbsolute = true := by
  obtain ⟨tracing, -, rfl⟩ := h
  rfl

end StopsAt

/-! ## The entry that is taken -/

/-- What is taken in a directory: what the direct check takes for a file, or else, on a walk, the entry at the
least place below whose path can be listed. -/
inductive Takes (t : FileTree) (recursive : Bool) (name : String) (directory : Path) :
    List String → Prop where
  | direct (hfile : t.isFile (directory.child name) = .ok true) :
      Takes t recursive name directory []
  | walked {rel : List String} (hwalk : recursive = true)
      (hfile : t.isFile (directory.child name) = .ok false)
      (hleast : IsLeast {rel | (walkedPath directory rel).text.utf8ByteSize < pathByteLimit ∧
        t.HasEntry name directory rel} rel) : Takes t recursive name directory rel

/-- Below a directory the walk takes the least place that can be listed. -/
theorem placeIn_walked (ht : t.Proper) (hdir : t.isDir directory = .ok true)
    (hfile : t.isFile (directory.child name) = .ok false) :
    ∃ found, t.placeIn true name directory = .ok (found.map (entryPath directory · name)) ∧
      ∀ rel, found = some rel ↔
        IsLeast {rel | (walkedPath directory rel).text.utf8ByteSize < pathByteLimit ∧
          t.HasEntry name directory rel} rel := by
  obtain ⟨-, here, es, hplace, hes⟩ := isDir_eq_ok_true_iff.mp hdir
  have hlisted : (Node.dir es).dirsWith (t.listsFile directory name) [] =
      {rel | (walkedPath directory rel).text.utf8ByteSize < pathByteLimit ∧
        t.HasEntry name directory rel} :=
    Set.ext fun rel => mem_dirsWith_listsFile hplace hes
  refine ⟨_, placeIn_below hfile (find_of_some hplace hes), fun rel => ?_⟩
  rw [Node.firstDir_eq_some_iff (ht.distinct_of_nodeAt? hes), hlisted]
  simp only [List.nil_append, exists_eq_right']

theorem placeIn_of_refuses (h : t.Refuses (directory.child name)) :
    t.placeIn recursive name directory = .error (.system .nameTooLong (directory.child name).text) := by
  have hfile : t.isFile (directory.child name) = .error .nameTooLong :=
    leadsTo_eq_error_iff.mpr ⟨h, rfl⟩
  unfold placeIn
  dsimp only
  rw [hfile]

namespace Takes

theorem placeIn_eq (ht : t.Proper) (hdir : t.isDir directory = .ok true)
    (h : t.Takes recursive name directory rel) :
    t.placeIn recursive name directory = .ok (some (entryPath directory rel name)) := by
  cases h with
  | direct hfile => exact placeIn_direct hfile
  | walked hwalk hfile hleast =>
    obtain ⟨found, hplace, hfound⟩ := placeIn_walked ht hdir hfile
    rw [hwalk, hplace, (hfound rel).mpr hleast]
    rfl

theorem hasEntry (ht : t.Proper) (hplain : isPlainName name = true)
    (hdir : t.isDir directory = .ok true) (h : t.Takes recursive name directory rel) :
    t.HasEntry name directory rel := by
  have hrefused := isPlainName_eq_true_iff.mp hplain
  cases h with
  | direct hfile =>
    exact hasEntry_of_isFile ht (fun h => hrefused (.inr (.inl h)))
      (fun h => hrefused (.inr (.inr (.inl h)))) hdir hfile
  | walked _ _ hleast => exact hleast.1.2

/-- What is taken is resolved as far as its links can be followed. -/
theorem exists_stopsAt (ht : t.Proper) (hplain : isPlainName name = true)
    (hdir : t.isDir directory = .ok true) (h : t.Takes recursive name directory rel) :
    ∃ r, t.StopsAt (entryPath directory rel name) r :=
  FileTree.exists_stopsAt ht ((h.hasEntry ht hplain hdir).noNul ht hdir)

end Takes

theorem placeIn_of_not_takes (ht : t.Proper) (hdir : t.isDir directory = .ok true)
    (hpassed : ¬t.Refuses (directory.child name))
    (hnone : ∀ rel, ¬t.Takes recursive name directory rel) :
    t.placeIn recursive name directory = .ok none := by
  cases hfile : t.isFile (directory.child name) with
  | error e => exact absurd (leadsTo_eq_error_iff.mp hfile).1 hpassed
  | ok b =>
    cases b with
    | true => exact absurd (.direct hfile) (hnone [])
    | false =>
      cases recursive with
      | false => exact placeIn_flat hfile
      | true =>
        obtain ⟨found, hplace, hfound⟩ := placeIn_walked ht hdir hfile
        cases found with
        | none => exact hplace
        | some rel => exact absurd (.walked rfl hfile ((hfound rel).mp rfl)) (hnone rel)

/-! ## Errors -/

/-- The error of a search: that of the first directory in which the search comes to one. -/
inductive Fails (t : FileTree) (recursive : Bool) (name : String) : List Path → Trouble → Prop where
  | directory {d : Path} {rest : List Path} (h : t.Refuses d) :
      Fails t recursive name (d :: rest) (.system .nameTooLong d.text)
  | candidate {d : Path} {rest : List Path} (hdir : t.isDir d = .ok true)
      (h : t.Refuses (d.child name)) :
      Fails t recursive name (d :: rest) (.system .nameTooLong (d.child name).text)
  | cycle {d r : Path} {rest : List Path} {rel : List String} (hdir : t.isDir d = .ok true)
      (htakes : t.Takes recursive name d rel) (hstops : t.StopsAt (entryPath d rel name) r)
      (hcycle : t.find r = .error .tooManyLinks) :
      Fails t recursive name (d :: rest) (.linkCycle r.text)
  | later {d : Path} {rest : List Path} {e : Trouble} (hpassed : ¬t.Refuses d)
      (hnone : t.isDir d = .ok true →
        ¬t.Refuses (d.child name) ∧ ∀ rel, ¬t.Takes recursive name d rel)
      (h : Fails t recursive name rest e) : Fails t recursive name (d :: rest) e

section Search

variable {e : Trouble}

theorem searchDirs_refused (h : t.Refuses directory) :
    (t.searchDirs recursive name (directory :: rest)).outcome =
      .error (.system .nameTooLong directory.text) := by
  have hdir : t.isDir directory = .error .nameTooLong := leadsTo_eq_error_iff.mpr ⟨h, rfl⟩
  rw [searchDirs, hdir]

theorem searchDirs_failed (hdir : t.isDir directory = .ok true)
    (hplace : t.placeIn recursive name directory = .error e) :
    (t.searchDirs recursive name (directory :: rest)).outcome = .error e := by
  rw [searchDirs, hdir]
  dsimp only
  rw [hplace]

/-- A directory that is passed, because it is not there or nothing is taken in it, changes nothing. -/
theorem searchDirs_passed (ht : t.Proper) (hpassed : ¬t.Refuses directory)
    (hnone : t.isDir directory = .ok true →
      ¬t.Refuses (directory.child name) ∧ ∀ rel, ¬t.Takes recursive name directory rel) :
    (t.searchDirs recursive name (directory :: rest)).outcome =
      (t.searchDirs recursive name rest).outcome := by
  cases hdir : t.isDir directory with
  | error e => exact absurd (leadsTo_eq_error_iff.mp hdir).1 hpassed
  | ok b =>
    cases b with
    | false => exact searchDirs_missing hdir
    | true =>
      obtain ⟨hcandidate, hno⟩ := hnone hdir
      rw [searchDirs_none hdir (placeIn_of_not_takes ht hdir hcandidate hno)]

theorem searchDirs_of_fails (ht : t.Proper) (h : t.Fails recursive name directories e) :
    (t.searchDirs recursive name directories).outcome = .error e := by
  induction h with
  | directory h => exact searchDirs_refused h
  | candidate hdir h => exact searchDirs_failed hdir (placeIn_of_refuses h)
  | cycle hdir htakes hstops hcycle =>
    rw [searchDirs_some hdir (htakes.placeIn_eq ht hdir), hstops.resolve_of_cycle hcycle]
    rfl
  | later hpassed hnone _ ih => rw [searchDirs_passed ht hpassed hnone, ih]

theorem fails_of_searchDirs (ht : t.Proper) (hplain : isPlainName name = true)
    (h : (t.searchDirs recursive name directories).outcome = .error e) :
    t.Fails recursive name directories e := by
  induction directories with
  | nil =>
    rw [searchDirs] at h
    cases h
  | cons d rest ih =>
    by_cases hrefuses : t.Refuses d
    · rw [← Except.error.inj ((searchDirs_refused hrefuses).symm.trans h)]
      exact .directory hrefuses
    by_cases hnone : t.isDir d = .ok true →
        ¬t.Refuses (d.child name) ∧ ∀ rel, ¬t.Takes recursive name d rel
    · exact .later hrefuses hnone (ih ((searchDirs_passed ht hrefuses hnone).symm.trans h))
    obtain ⟨hdir, hsome⟩ := Classical.not_imp.mp hnone
    by_cases hcandidate : t.Refuses (d.child name)
    · rw [← Except.error.inj ((searchDirs_failed hdir (placeIn_of_refuses hcandidate)).symm.trans h)]
      exact .candidate hdir hcandidate
    obtain ⟨rel, htakes⟩ : ∃ rel, t.Takes recursive name d rel := by
      by_contra hno
      exact hsome ⟨hcandidate, not_exists.mp hno⟩
    obtain ⟨r, hstops⟩ := htakes.exists_stopsAt ht hplain hdir
    rw [searchDirs_some hdir (htakes.placeIn_eq ht hdir)] at h
    by_cases hcycle : t.find r = .error .tooManyLinks
    · rw [hstops.resolve_of_cycle hcycle] at h
      rw [← Except.error.inj h]
      exact .cycle hdir htakes hstops hcycle
    · rw [hstops.resolve_eq hcycle] at h
      cases h

end Search

/-- Probing fails for a plain name only, and with the error of the first directory in which the search comes to
one. -/
theorem probe_eq_error_iff (ht : t.Proper) (e : Trouble) :
    (t.probe directories name recursive).outcome = .error e ↔
      isPlainName name = true ∧ t.Fails recursive name directories e := by
  unfold probe
  split
  · rename_i hplain
    rw [and_iff_right hplain]
    exact ⟨fails_of_searchDirs ht hplain, searchDirs_of_fails ht⟩
  · rename_i hplain
    exact iff_of_false nofun fun h => hplain h.1

/-- What probing finds has an absolute path. -/
theorem isAbsolute_of_probe (ht : t.Proper)
    (h : (t.probe directories name recursive).outcome = .ok (some r)) : r.isAbsolute = true := by
  obtain ⟨d, -, rel, hdir, hentry, hresolve⟩ := exists_entry_of_probe ht h
  obtain ⟨r', hstops⟩ := exists_stopsAt ht (hentry.noNul ht hdir)
  by_cases hcycle : t.find r' = .error .tooManyLinks
  · cases hresolve.symm.trans (hstops.resolve_of_cycle hcycle)
  · rw [Except.ok.inj (hresolve.symm.trans (hstops.resolve_eq hcycle))]
    exact hstops.isAbsolute

/-! ## Entries that lead back to themselves -/

/-- At `rel` below a directory the entry is a link that leads nowhere, and that a walk has come to. -/
structure LeadsNowhere (t : FileTree) (recursive : Bool) (name : String) (directory : Path)
    (rel : List String) : Prop where
  walked : recursive = true
  link : ∃ here, t.locate true directory = .ok here ∧ t.IsUnchecked here directory rel name ∧
    ∀ place, ¬t.Leads (here ++ rel) name place

/-- An entry that is taken and not resolved leads nowhere. -/
theorem Takes.of_cycle (ht : t.Proper) (hplain : isPlainName name = true)
    (hdir : t.isDir directory = .ok true) (h : t.Takes recursive name directory rel)
    (hstops : t.StopsAt (entryPath directory rel name) r)
    (hcycle : t.find r = .error .tooManyLinks)
    (hfits : t.Fits ⟨directory.isAbsolute, []⟩ (entryPath directory rel name).names) :
    t.LeadsNowhere recursive name directory rel := by
  have hentry := h.hasEntry ht hplain hdir
  have hnul := hentry.noNul ht hdir
  obtain ⟨here, n, hplace, hn, hkind, -⟩ := hentry
  have hunresolved : ∀ r', t.resolve (entryPath directory rel name) ≠ .ok r' := by
    intro r' hr'
    cases hr'.symm.trans (hstops.resolve_of_cycle hcycle)
  have hnowhere : ∀ place, ¬t.Leads (here ++ rel) name place := fun place hleads =>
    hunresolved _ (resolve_of_resolvesTo ht (resolvesTo_of_leads ht hplace hn hleads) hnul hfits)
  have hrefused : t.isFile (entryPath directory rel name) ≠ .ok true := by
    intro hfile
    obtain ⟨-, there, text, hthere, -⟩ := isFile_eq_ok_true_iff.mp hfile
    exact hunresolved _ (resolve_of_locate ht hthere hnul hfits)
  refine ⟨?_, here, hplace, ⟨?_, hrefused⟩, hnowhere⟩
  · cases h with
    | direct hfile =>
      rw [entryPath, List.append_nil] at hrefused
      exact absurd hfile hrefused
    | walked hwalk => exact hwalk
  · by_contra hno
    refine hnowhere _ (.entry fun target htarget => hno ⟨target, htarget⟩)

/-- Where an error comes from: a path that is refused, or an entry in one of the directories that is taken, and
leads nowhere unless the path of a link on the way is too long to be read. -/
theorem Fails.origin (ht : t.Proper) (hplain : isPlainName name = true) {e : Trouble}
    (h : t.Fails recursive name directories e) :
    (∃ p, t.Refuses p ∧ e = .system .nameTooLong p.text) ∨
      ∃ d ∈ directories, ∃ rel, t.Takes recursive name d rel ∧ (∃ r : Path, e = .linkCycle r.text) ∧
        (t.Fits ⟨d.isAbsolute, []⟩ (entryPath d rel name).names →
          t.LeadsNowhere recursive name d rel) := by
  induction h with
  | directory h => exact .inl ⟨_, h, rfl⟩
  | candidate _ h => exact .inl ⟨_, h, rfl⟩
  | cycle hdir htakes hstops hcycle =>
    exact .inr ⟨_, List.mem_cons_self, _, htakes, ⟨_, rfl⟩,
      htakes.of_cycle ht hplain hdir hstops hcycle⟩
  | later _ _ _ ih =>
    refine ih.imp id ?_
    rintro ⟨d, hd, hfrom⟩
    exact ⟨d, List.mem_cons_of_mem _ hd, hfrom⟩

/-! ### A link to itself -/

/-- A tree with a directory that holds nothing but a link to itself. -/
def snare : FileTree := ⟨.dir [("box", .dir [("lib", .link "lib")])], []⟩

theorem snare_proper : snare.Proper := proper_of_isSound (by decide +kernel) ⟨_, rfl⟩

theorem snare_root : snare.nodeAt? [] = some (.dir [("box", .dir [("lib", .link "lib")])]) := rfl

theorem snare_dir : snare.nodeAt? ["box"] = some (.dir [("lib", .link "lib")]) := rfl

theorem lib_startsWith : "lib".startsWith "/" = false := by decide +kernel

theorem walk_snare (follow : Bool) (links : Nat) (rest : List String) :
    snare.walk follow links [] ("box" :: rest) = snare.walk follow links ["box"] rest :=
  walk_down snare_root (by decide) (by decide) (by decide) rfl nofun

theorem locate_snare (follow : Bool) : snare.locate follow boxPath = .ok ["box"] := by
  rw [locate_of_short (by decide)]
  exact (walk_snare _ _ _).trans walk_nil

theorem isDir_snare : snare.isDir boxPath = .ok true :=
  leadsTo_of_find (by decide) (find_of_some (locate_snare true) snare_dir)

/-- However many links may be followed, the link is followed to itself. -/
theorem walk_self (links : Nat) : snare.walk true links ["box"] ["lib"] = .error .tooManyLinks := by
  have hsteps : steps "lib" = ["lib"] := by decide +kernel
  induction links with
  | zero => exact walk_linkRefused snare_dir (by decide) (by decide) (by decide) rfl (by decide)
  | succ links ih =>
    rw [walk_link snare_dir (by decide) (by decide) (by decide) rfl (by decide), lib_startsWith,
      if_neg Bool.false_ne_true, hsteps]
    exact ih

theorem find_self (root : Root) : snare.find ⟨root, ["box", "lib"]⟩ = .error .tooManyLinks := by
  refine find_of_error ?_
  rw [locate_of_short (by cases root <;> decide +kernel)]
  have hstart : snare.start ⟨root, ["box", "lib"]⟩ = [] := by cases root <;> rfl
  rw [hstart]
  exact (walk_snare _ _ _).trans (walk_self _)

/-- The link leads to no file, and to no directory either. -/
theorem leadsTo_self (kind : Node → Bool) :
    snare.leadsTo kind (boxPath.child "lib") = .ok false := by
  have hnul : hasNul (boxPath.child "lib") = false := by decide +kernel
  unfold leadsTo
  rw [hnul, if_neg Bool.false_ne_true, show boxPath.child "lib" = ⟨.relative, ["box", "lib"]⟩ from rfl,
    find_self]

theorem takes_self : snare.Takes true "lib" boxPath [] := by
  refine .walked rfl (leadsTo_self Node.isFile) (isLeast_nil ⟨by decide, ?_⟩)
  refine ⟨["box"], .link "lib", locate_snare true, rfl, rfl, fun target _ => ?_⟩
  rw [show snare.isDir ((walkedPath boxPath []).child "lib") = .ok false from leadsTo_self Node.isDir]
  nofun

theorem findLink_self : snare.findLink ⟨.relative, ["box", "lib"]⟩ = .ok (.link "lib") := by
  have hplace : snare.locate false ⟨.relative, ["box", "lib"]⟩ = .ok ["box", "lib"] := by
    rw [locate_of_short (by decide +kernel)]
    exact (walk_snare _ _ _).trans (walk_lastLink snare_dir (by decide) (by decide) (by decide) rfl)
  exact findLink_of_some hplace rfl

theorem ofLink_lib : Trail.ofLink ⟨false, ["box"]⟩ "lib" = ⟨false, ["box"]⟩ := by
  unfold Trail.ofLink
  rw [lib_startsWith, if_neg Bool.false_ne_true]

theorem pieces_lib : Path.pieces "lib" = ["lib"] := by decide

/-- The link is met again while its target is followed. -/
theorem stopsAt_self : snare.StopsAt (entryPath boxPath [] "lib") ⟨.slash, ["box", "lib"]⟩ := by
  have hbox : ∀ target, snare.findLink boxPath ≠ .ok (.link target) := by
    intro target
    rw [findLink_of_some (locate_snare false) snare_dir]
    nofun
  have hinner : snare.trace 5 [(⟨false, ["box", "lib"]⟩, none)] (Trail.ofLink ⟨false, ["box"]⟩ "lib")
      (Path.pieces "lib") =
        .ok ⟨⟨false, ["box", "lib"]⟩, [(⟨false, ["box", "lib"]⟩, none)], false⟩ := by
    rw [ofLink_lib, pieces_lib]
    exact trace_halted (by decide) (by decide +kernel) findLink_self (.inl rfl)
  refine ⟨⟨⟨false, ["box", "lib"]⟩, [(⟨false, ["box", "lib"]⟩, none)], false⟩, ?_, rfl⟩
  calc snare.trace 6 [] ⟨false, []⟩ ["box", "lib"]
      = snare.trace 6 [] ⟨false, ["box"]⟩ ["lib"] := trace_down (by decide) (by decide +kernel) hbox
    _ = _ := trace_stopped (by decide) (by decide +kernel) findLink_self rfl hinner

/-- Nothing but the link is looked at while it is followed. -/
theorem eq_of_looks_self {q : Trail} (h : snare.Looks ⟨false, ["box"]⟩ ["lib"] q) :
    q = ⟨false, ["box", "lib"]⟩ := by
  generalize htrail : (⟨false, ["box"]⟩ : Trail) = trail at h
  generalize hnames : ["lib"] = names at h
  induction h with
  | here =>
    obtain ⟨rfl, rfl⟩ := List.cons.inj hnames
    subst htrail
    rfl
  | dot hname =>
    obtain ⟨rfl, -⟩ := List.cons.inj hnames
    exact absurd hname (by decide)
  | up => exact absurd (List.cons.inj hnames).1 (by decide)
  | down _ hno =>
    obtain ⟨rfl, -⟩ := List.cons.inj hnames
    subst htrail
    exact absurd rfl (hno "lib")
  | @link _ _ _ target _ _ hlink _ ih =>
    obtain ⟨rfl, rfl⟩ := List.cons.inj hnames
    subst htrail
    obtain rfl : "lib" = target := Node.link.inj (Option.some.inj hlink)
    exact ih ofLink_lib.symm (by rw [pieces_lib, List.append_nil])

theorem snare_fits : snare.Fits ⟨false, []⟩ ["box", "lib"] := by
  refine .down (by decide) (fun target h => nomatch h) fun q target hq _ => ?_
  rw [eq_of_looks_self hq]
  decide +kernel

/-- The link leads nowhere. -/
example (place : List String) : ¬snare.Leads ["box"] "lib" place := by
  obtain ⟨-, here, hplace, -, hnowhere⟩ :=
    takes_self.of_cycle snare_proper (by decide) isDir_snare stopsAt_self (find_self .slash) snare_fits
  obtain rfl : here = ["box"] := Except.ok.inj (hplace.symm.trans (locate_snare true))
  exact hnowhere place

/-- The link is found, and is not resolved. -/
theorem fails_self : snare.Fails true "lib" [boxPath] (.linkCycle "/box/lib") := by
  have htext : Path.text ⟨.slash, ["box", "lib"]⟩ = "/box/lib" := by decide +kernel
  rw [← htext]
  exact .cycle isDir_snare takes_self stopsAt_self (find_self .slash)

end FileTree

end BuildScript.Files
