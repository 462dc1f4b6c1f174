import BuildScript.Proofs.Files.Relisting

/-!
What probing looks for in one directory (`FileTree.Matches`), and that it comes to the least place at
which that is (`FileTree.placeIn_eq`): to the first one from the directory down, of siblings below the
one with the lesser name first.
-/

namespace BuildScript.Files

namespace FileTree

variable {t : FileTree} {recursive : Bool} {name : String} {directory : Path} {rel : List String}

/-- At `rel` below the place to which a path leads, past no link, there is an entry of that name which
is no directory, nor a link that leads to one. -/
def HasEntry (t : FileTree) (name : String) (directory : Path) (rel : List String) : Prop :=
  ∃ here n, t.locate true directory = .ok here ∧ t.nodeAt? (here ++ rel ++ [name]) = some n ∧
    n.isDir = false ∧
      ∀ target, n = .link target → t.isDir ((walkedPath directory rel).child name) ≠ .ok true

/-- The path leads to a directory, and at `rel` below it is what is looked for: an entry of that name
somewhere below, or else a file directly in the directory. -/
def Matches (t : FileTree) (recursive : Bool) (name : String) (directory : Path)
    (rel : List String) : Prop :=
  t.isDir directory = .ok true ∧ match recursive with
    | true => t.HasEntry name directory rel
    | false => rel = [] ∧ t.isFile (directory.child name) = .ok true

/-- The path of the entry at `rel` below a directory. -/
def entryPath (directory : Path) (rel : List String) (name : String) : Path :=
  ⟨directory.root, directory.names ++ rel ++ [name]⟩

/-- In a directory the search meets no path that is too long: not that of the directory itself, nor
that of an entry directly in it, nor one on the way to the first match. -/
structure Reachable (t : FileTree) (recursive : Bool) (name : String) (directory : Path) : Prop where
  itself : ∀ e, t.isDir directory ≠ .error e
  candidate : t.isDir directory = .ok true → ∀ e, t.isFile (directory.child name) ≠ .error e
  found : ∀ rel, IsLeast {rel | t.Matches recursive name directory rel} rel →
    (walkedPath directory rel).text.utf8ByteSize < pathByteLimit ∧
      t.Fits ⟨directory.isAbsolute, []⟩ (entryPath directory rel name).names

/-! ## Directories -/

theorem isDir_eq_ok_true_iff {p : Path} :
    t.isDir p = .ok true ↔
      hasNul p = false ∧ ∃ here es, t.locate true p = .ok here ∧ t.nodeAt? here = some (.dir es) := by
  unfold isDir
  rw [leadsTo_eq_ok_true_iff]
  refine and_congr_right fun _ => ⟨?_, ?_⟩
  · rintro ⟨n, hfind, hkind⟩
    obtain ⟨here, hplace, hn⟩ := find_eq_ok_iff.mp hfind
    cases n with
    | dir es => exact ⟨here, es, hplace, hn⟩
    | file text => cases hkind
    | link target => cases hkind
  · rintro ⟨here, es, hplace, hes⟩
    exact ⟨.dir es, find_of_some hplace hes, rfl⟩

theorem isFile_eq_ok_true_iff {p : Path} :
    t.isFile p = .ok true ↔ hasNul p = false ∧
      ∃ here text, t.locate true p = .ok here ∧ t.nodeAt? here = some (.file text) := by
  unfold isFile
  rw [leadsTo_eq_ok_true_iff]
  refine and_congr_right fun _ => ⟨?_, ?_⟩
  · rintro ⟨n, hfind, hkind⟩
    obtain ⟨here, hplace, hn⟩ := find_eq_ok_iff.mp hfind
    cases n with
    | file text => exact ⟨here, text, hplace, hn⟩
    | dir es => cases hkind
    | link target => cases hkind
  · rintro ⟨here, text, hplace, hn⟩
    exact ⟨.file text, find_of_some hplace hn, rfl⟩

/-- The dot in front of a walked path makes no difference. -/
theorem walk_walkedPath (ht : t.Proper) (links : Nat) (names : List String) :
    t.walk true links (t.start directory) ((walkedPath directory rel).names ++ names) =
      t.walk true links (t.start directory) (directory.names ++ rel ++ names) := by
  obtain ⟨root, dnames⟩ := directory
  unfold walkedPath
  dsimp only
  split
  · rename_i hempty
    obtain ⟨rfl, rfl⟩ := hempty
    obtain ⟨es, hes⟩ := ht.current
    exact walk_dot hes
  · rfl

/-- A file that is found directly in a directory is an entry of it, or a link there that leads to no
directory. -/
theorem hasEntry_of_isFile (ht : t.Proper) (hdot : name ≠ ".") (hup : name ≠ "..")
    (hdir : t.isDir directory = .ok true) (hfile : t.isFile (directory.child name) = .ok true) :
    t.HasEntry name directory [] := by
  obtain ⟨-, here, es, hplace, hes⟩ := isDir_eq_ok_true_iff.mp hdir
  obtain ⟨-, there, text, hthere, htext⟩ := isFile_eq_ok_true_iff.mp hfile
  have hwalk : t.walk true maxLinks (t.start directory) (directory.names ++ [name]) = .ok there :=
    walk_of_locate hthere
  obtain ⟨left, hafter⟩ := walk_append (walk_of_locate hplace)
  obtain ⟨n, hlookup, hend⟩ :=
    exists_entry_of_walk hes hdot hup ((hafter [name]).symm.trans hwalk)
  refine ⟨here, n, hplace, ?_, ?_, ?_⟩
  · rw [List.append_nil, nodeAt?_concat hes, hlookup]
  · cases n with
    | file text => rfl
    | link target => rfl
    | dir es' =>
      have hfound := hend nofun
      rw [htext] at hfound
      cases hfound
  · intro target _ hisDir
    -- the entry is looked at by its path, which is that of the file
    obtain ⟨-, place, es', hlocate, hes'⟩ := isDir_eq_ok_true_iff.mp hisDir
    have hsame : t.walk true maxLinks (t.start directory) (directory.names ++ [name]) =
        .ok place := by
      rw [← List.append_nil directory.names, ← walk_walkedPath ht]
      exact walk_of_locate hlocate
    obtain rfl : there = place := Except.ok.inj (hwalk.symm.trans hsame)
    rw [hes'] at htext
    cases htext

theorem Matches.hasEntry (ht : t.Proper) (hdot : name ≠ ".") (hup : name ≠ "..")
    (h : t.Matches recursive name directory rel) : t.HasEntry name directory rel := by
  obtain ⟨hdir, hmatch⟩ := h
  cases recursive with
  | true => exact hmatch
  | false =>
    obtain ⟨rfl, hfile⟩ := hmatch
    exact hasEntry_of_isFile ht hdot hup hdir hfile

/-- Where there is no directory there is no match. -/
theorem not_matches_of_not_dir (h : t.isDir directory ≠ .ok true) (rel : List String) :
    ¬t.Matches recursive name directory rel :=
  fun hmatch => h hmatch.1

/-! ## What is listed -/

theorem listsFile_eq_true_iff {n : Node} :
    t.listsFile directory name rel n = true ↔
      (walkedPath directory rel).text.utf8ByteSize < pathByteLimit ∧
        ∃ c, n.child? name = some c ∧ c.isDir = false ∧ ∀ target, c = .link target →
          t.isDir ((walkedPath directory rel).child name) ≠ .ok true := by
  unfold listsFile
  rw [Bool.and_eq_true, decide_eq_true_iff]
  refine and_congr_right fun _ => ?_
  cases n.child? name with
  | none => exact iff_of_false nofun nofun
  | some c =>
    cases c with
    | dir es => exact iff_of_false nofun fun ⟨_, heq, hkind, _⟩ => by cases heq; cases hkind
    | file text => exact iff_of_true rfl ⟨.file text, rfl, rfl, nofun⟩
    | link target =>
      dsimp only
      cases hisDir : t.isDir ((walkedPath directory rel).child name) with
      | error e => exact iff_of_true rfl ⟨.link target, rfl, rfl, nofun⟩
      | ok b =>
        cases b with
        | true =>
          refine iff_of_false nofun fun ⟨c, heq, _, hno⟩ => ?_
          exact hno target (Option.some.inj heq).symm rfl
        | false => exact iff_of_true rfl ⟨.link target, rfl, rfl, nofun⟩

section Place

variable {here : List String} {n : Node} (hplace : t.locate true directory = .ok here)
  (hn : t.nodeAt? here = some n)

include hplace hn

/-- A directory has an entry exactly if it is there below and lists it. -/
theorem hasEntry_iff :
    t.HasEntry name directory rel ↔ ∃ es, n.below? rel = some (.dir es) ∧
      ∃ c, es.lookup name = some c ∧ c.isDir = false ∧ ∀ target, c = .link target →
        t.isDir ((walkedPath directory rel).child name) ≠ .ok true := by
  have hbelow : t.nodeAt? (here ++ rel) = n.below? rel := by
    unfold nodeAt? at hn ⊢
    rw [Node.below?_append, hn]
    rfl
  constructor
  · rintro ⟨here', c, hplace', hc, hkind, hlink⟩
    obtain rfl : here' = here := Except.ok.inj (hplace'.symm.trans hplace)
    obtain ⟨es, hes, hlookup⟩ := dir_of_nodeAt?_concat hc
    exact ⟨es, hbelow ▸ hes, c, hlookup, hkind, hlink⟩
  · rintro ⟨es, hes, c, hlookup, hkind, hlink⟩
    rw [← hbelow] at hes
    exact ⟨here, c, hplace, (nodeAt?_concat hes name).trans hlookup, hkind, hlink⟩

/-- The directories that list the name are those that have such an entry and are not too deep to be
listed. -/
theorem mem_dirsWith_listsFile :
    rel ∈ n.dirsWith (t.listsFile directory name) [] ↔
      (walkedPath directory rel).text.utf8ByteSize < pathByteLimit ∧
        t.HasEntry name directory rel := by
  rw [hasEntry_iff hplace hn]
  constructor
  · rintro ⟨es, hes, hlists⟩
    obtain ⟨hshort, hentry⟩ := listsFile_eq_true_iff.mp hlists
    exact ⟨hshort, es, hes, hentry⟩
  · rintro ⟨hshort, es, hes, hentry⟩
    exact ⟨es, hes, listsFile_eq_true_iff.mpr ⟨hshort, hentry⟩⟩

open Classical in
/-- Of the directories that have such an entry one is the least, if there are any. -/
theorem exists_isLeast_hasEntry (hdistinct : n.Distinct) (h : t.HasEntry name directory rel) :
    ∃ least, IsLeast {rel | t.HasEntry name directory rel} least := by
  have hsame : n.dirsWith (fun rel _ => decide (t.HasEntry name directory rel)) [] =
      {rel | t.HasEntry name directory rel} := by
    ext rel
    constructor
    · rintro ⟨es, -, hentry⟩
      exact of_decide_eq_true hentry
    · intro hentry
      obtain ⟨es, hes, -⟩ := (hasEntry_iff hplace hn).mp hentry
      exact ⟨es, hes, decide_eq_true hentry⟩
  have hleast := least_firstDir (fun rel _ => decide (t.HasEntry name directory rel)) [] n hdistinct
  rw [hsame] at hleast
  generalize n.firstDir _ [] = found at hleast
  cases hleast with
  | none hempty =>
    have hmem : rel ∈ {rel | t.HasEntry name directory rel} := h
    rw [hempty] at hmem
    exact absurd hmem (Set.notMem_empty rel)
  | some hleast => exact ⟨_, hleast⟩

end Place

/-! ## The place that is found -/

theorem isLeast_nil {S : Set (List String)} (h : [] ∈ S) : IsLeast S [] :=
  ⟨h, fun rel _ => not_lt.mp (List.not_lt_nil rel)⟩

theorem placeIn_direct (h : t.isFile (directory.child name) = .ok true) :
    t.placeIn recursive name directory = .ok (some (entryPath directory [] name)) := by
  unfold placeIn entryPath
  dsimp only
  rw [h, List.append_nil]
  rfl

theorem placeIn_flat (h : t.isFile (directory.child name) = .ok false) :
    t.placeIn false name directory = .ok none := by
  unfold placeIn
  dsimp only
  rw [h]
  rfl

theorem placeIn_below (h : t.isFile (directory.child name) = .ok false) {n : Node}
    (hfind : t.find directory = .ok n) :
    t.placeIn true name directory =
      .ok ((n.firstDir (t.listsFile directory name) []).map (entryPath directory · name)) := by
  unfold placeIn
  dsimp only
  rw [h, hfind]
  rfl

/-- Directories that list the name are walked in order, so the first of them has the least place. -/
theorem firstDir_listsFile (ht : t.Proper) (hdir : t.isDir directory = .ok true)
    (hreach : t.Reachable true name directory) {n : Node} (hfind : t.find directory = .ok n) :
    (∃ rel, IsLeast {rel | t.Matches true name directory rel} rel ∧
        n.firstDir (t.listsFile directory name) [] = some rel) ∨
      ((∀ rel, ¬t.Matches true name directory rel) ∧
        n.firstDir (t.listsFile directory name) [] = none) := by
  obtain ⟨here, hplace, hn⟩ := find_eq_ok_iff.mp hfind
  have hdistinct := ht.distinct_of_nodeAt? hn
  have hmatches : {rel | t.Matches true name directory rel} =
      {rel | t.HasEntry name directory rel} := by
    ext rel
    exact and_iff_right hdir
  by_cases hany : ∃ rel, t.Matches true name directory rel
  · obtain ⟨rel, -, hentry⟩ := hany
    obtain ⟨least, hleast⟩ := exists_isLeast_hasEntry hplace hn hdistinct hentry
    -- the least place is short enough to be listed, and no other place that is listed is less
    have hshort := (hreach.found least (hmatches ▸ hleast)).1
    have hlisted : IsLeast (n.dirsWith (t.listsFile directory name) []) least :=
      ⟨(mem_dirsWith_listsFile hplace hn).mpr ⟨hshort, hleast.1⟩,
        fun rel hrel => hleast.2 ((mem_dirsWith_listsFile hplace hn).mp hrel).2⟩
    exact .inl ⟨least, hmatches ▸ hleast,
      (Node.firstDir_eq_some_iff hdistinct).mpr ⟨least, hlisted, rfl⟩⟩
  · refine .inr ⟨fun rel h => hany ⟨rel, h⟩, (Node.firstDir_eq_none_iff hdistinct).mpr ?_⟩
    refine Set.eq_empty_of_forall_notMem fun rel hrel => hany ⟨rel, hdir, ?_⟩
    exact ((mem_dirsWith_listsFile hplace hn).mp hrel).2

/-- In a directory that is there the search comes to the least place at which there is a match, or to
nothing if there is none. -/
theorem placeIn_eq (ht : t.Proper) (hdot : name ≠ ".") (hup : name ≠ "..")
    (hdir : t.isDir directory = .ok true) (hreach : t.Reachable recursive name directory) :
    (∃ rel, IsLeast {rel | t.Matches recursive name directory rel} rel ∧
        t.placeIn recursive name directory = .ok (some (entryPath directory rel name))) ∨
      ((∀ rel, ¬t.Matches recursive name directory rel) ∧
        t.placeIn recursive name directory = .ok none) := by
  cases hfile : t.isFile (directory.child name) with
  | error e => exact absurd hfile (hreach.candidate hdir e)
  | ok b =>
    cases b with
    | true =>
      refine .inl ⟨[], isLeast_nil ⟨hdir, ?_⟩, placeIn_direct hfile⟩
      cases recursive with
      | true => exact hasEntry_of_isFile ht hdot hup hdir hfile
      | false => exact ⟨rfl, hfile⟩
    | false =>
      cases recursive with
      | false =>
        refine .inr ⟨fun rel h => ?_, placeIn_flat hfile⟩
        have htrue : t.isFile (directory.child name) = .ok true := h.2.2
        rw [hfile] at htrue
        cases htrue
      | true =>
        obtain ⟨-, here, es, hplace, hes⟩ := isDir_eq_ok_true_iff.mp hdir
        have hfind := find_of_some hplace hes
        rw [placeIn_below hfile hfind]
        rcases firstDir_listsFile ht hdir hreach hfind with ⟨rel, hleast, hfirst⟩ | ⟨hno, hfirst⟩
        · exact .inl ⟨rel, hleast, by rw [hfirst]; rfl⟩
        · exact .inr ⟨hno, by rw [hfirst]; rfl⟩

end FileTree

end BuildScript.Files
