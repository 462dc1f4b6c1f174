import BuildScript.Proofs.Files.Matching

/-!
The search of one directory after the other. What it should come to (`FileTree.Finds`) is told by the
first directory with a match and the least place of a match in it. Main statements: it comes to that
where it meets no path that is too long (`FileTree.exists_searchDirs`), directories behind one with a
match play no part (`FileTree.searchDirs_append`), and neither does the order in which directories list
their entries (`FileTree.Alike.finds`).
-/

namespace BuildScript.Files

namespace FileTree

variable {t : FileTree} {recursive : Bool} {name : String} {directories : List Path}

/-- The first directory of a list in which there is a match, with the least place of a match in it. -/
inductive FirstMatch (t : FileTree) (recursive : Bool) (name : String) :
    List Path → Path → List String → Prop where
  | here {directory : Path} {rest : List Path} {rel : List String}
      (h : IsLeast {rel | t.Matches recursive name directory rel} rel) :
      FirstMatch t recursive name (directory :: rest) directory rel
  | later {skipped directory : Path} {rest : List Path} {rel : List String}
      (hno : ∀ rel, ¬t.Matches recursive name skipped rel)
      (h : FirstMatch t recursive name rest directory rel) :
      FirstMatch t recursive name (skipped :: rest) directory rel

/-- What a search of directories should come to: the resolved path of the first match, or nothing if
there is no match. -/
inductive Finds (t : FileTree) (recursive : Bool) (name : String) (directories : List Path) :
    Option Path → Prop where
  | some {directory : Path} {rel : List String} {r : Path}
      (h : t.FirstMatch recursive name directories directory rel)
      (hr : t.ResolvesTo (entryPath directory rel name) r) :
      Finds t recursive name directories (some r)
  | none (h : ∀ d ∈ directories, ∀ rel, ¬t.Matches recursive name d rel) :
      Finds t recursive name directories none

/-- In no directory to which it comes does the search meet a path that is too long. -/
def ReachableAll (t : FileTree) (recursive : Bool) (name : String) : List Path → Prop
  | [] => True
  | directory :: rest => t.Reachable recursive name directory ∧
      ((∀ rel, ¬t.Matches recursive name directory rel) → t.ReachableAll recursive name rest)

namespace FirstMatch

variable {directory directory' : Path} {rel rel' : List String}

theorem exists_matches (h : t.FirstMatch recursive name directories directory rel) :
    ∃ d ∈ directories, ∃ rel, t.Matches recursive name d rel := by
  induction h with
  | @here directory rest rel h => exact ⟨directory, List.mem_cons_self, rel, h.1⟩
  | later _ _ ih =>
    obtain ⟨d, hd, hmatch⟩ := ih
    exact ⟨d, List.mem_cons_of_mem _ hd, hmatch⟩

theorem unique (h : t.FirstMatch recursive name directories directory rel)
    (h' : t.FirstMatch recursive name directories directory' rel') :
    directory = directory' ∧ rel = rel' := by
  induction h with
  | here h =>
    cases h' with
    | here h' => exact ⟨rfl, h.unique h'⟩
    | later hno => exact absurd h.1 (hno _)
  | later hno _ ih =>
    cases h' with
    | here h' => exact absurd h'.1 (hno _)
    | later _ h' => exact ih h'

end FirstMatch

namespace Finds

variable {found found' : Option Path}

theorem unique (h : t.Finds recursive name directories found)
    (h' : t.Finds recursive name directories found') : found = found' := by
  cases h with
  | some h hr =>
    cases h' with
    | some h' hr' =>
      obtain ⟨rfl, rfl⟩ := h.unique h'
      rw [hr.unique hr']
    | none hnone =>
      obtain ⟨d, hd, rel, hmatch⟩ := h.exists_matches
      exact absurd hmatch (hnone d hd rel)
  | none hnone =>
    cases h' with
    | some h' =>
      obtain ⟨d, hd, rel, hmatch⟩ := h'.exists_matches
      exact absurd hmatch (hnone d hd rel)
    | none => rfl

/-- A directory without a match changes nothing. -/
theorem skip {directory : Path} (hno : ∀ rel, ¬t.Matches recursive name directory rel)
    (h : t.Finds recursive name directories found) :
    t.Finds recursive name (directory :: directories) found := by
  cases h with
  | some h hr => exact .some (.later hno h) hr
  | none h =>
    refine .none fun d hd => ?_
    rcases List.mem_cons.mp hd with rfl | hd
    · exact hno
    · exact h d hd

theorem eq_none_iff (h : t.Finds recursive name directories found) :
    found = Option.none ↔ ∀ d ∈ directories, ∀ rel, ¬t.Matches recursive name d rel := by
  constructor
  · rintro rfl
    cases h with
    | none h => exact h
  · intro hnone
    exact h.unique (.none hnone)

theorem eq_some_iff (h : t.Finds recursive name directories found) (r : Path) :
    found = Option.some r ↔ ∃ d rel, t.FirstMatch recursive name directories d rel ∧
      t.ResolvesTo (entryPath d rel name) r := by
  constructor
  · rintro rfl
    cases h with
    | some h hr => exact ⟨_, _, h, hr⟩
  · rintro ⟨d, rel, hfirst, hr⟩
    exact h.unique (.some hfirst hr)

end Finds

/-! ## The search -/

section Step

variable {directory : Path} {rest : List Path}

theorem searchDirs_missing (h : t.isDir directory = .ok false) :
    (t.searchDirs recursive name (directory :: rest)).outcome =
      (t.searchDirs recursive name rest).outcome := by
  rw [searchDirs, h]

theorem searchDirs_none (h : t.isDir directory = .ok true)
    (hplace : t.placeIn recursive name directory = .ok none) :
    t.searchDirs recursive name (directory :: rest) = t.searchDirs recursive name rest := by
  rw [searchDirs, h]
  dsimp only
  rw [hplace]

theorem searchDirs_some (h : t.isDir directory = .ok true) {place : Path}
    (hplace : t.placeIn recursive name directory = .ok (some place)) :
    t.searchDirs recursive name (directory :: rest) =
      ⟨(t.resolve place).map some, [foundRecord name place]⟩ := by
  rw [searchDirs, h]
  dsimp only
  rw [hplace]

end Step

theorem HasEntry.noNul (ht : t.Proper) {directory : Path} {rel : List String}
    (h : t.HasEntry name directory rel) (hdir : t.isDir directory = .ok true) :
    NoNul (entryPath directory rel name).names := by
  obtain ⟨here, n, -, hn, -⟩ := h
  have hentry : NoNul (rel ++ [name]) := by
    intro k hk
    rw [List.append_assoc] at hn
    exact (ht.ne_up_of_mem hn k (List.mem_append_right _ hk)).no_nul
  unfold entryPath
  rw [List.append_assoc]
  exact (noNul_of_hasNul (isDir_eq_ok_true_iff.mp hdir).1).append hentry

/-- The entry of a match resolves, and is resolved. -/
theorem Matches.exists_resolve (ht : t.Proper) (hcycle : t.NoCycle) (hdot : name ≠ ".")
    (hup : name ≠ "..") {directory : Path} {rel : List String}
    (h : t.Matches recursive name directory rel)
    (hfits : t.Fits ⟨directory.isAbsolute, []⟩ (entryPath directory rel name).names) :
    ∃ r, t.ResolvesTo (entryPath directory rel name) r ∧
      t.resolve (entryPath directory rel name) = .ok r := by
  have hnul := (h.hasEntry ht hdot hup).noNul ht h.1
  obtain ⟨r, hr⟩ := hcycle.exists_resolvesTo (entryPath directory rel name)
  exact ⟨r, hr, resolve_of_resolvesTo ht hr hnul hfits⟩

/-- The search comes to what it should. -/
theorem exists_searchDirs (ht : t.Proper) (hcycle : t.NoCycle) (hdot : name ≠ ".")
    (hup : name ≠ "..") (hreach : t.ReachableAll recursive name directories) :
    ∃ found, (t.searchDirs recursive name directories).outcome = .ok found ∧
      t.Finds recursive name directories found := by
  induction directories with
  | nil =>
    refine ⟨none, ?_, .none fun d hd => absurd hd List.not_mem_nil⟩
    rw [searchDirs]
  | cons directory rest ih =>
    obtain ⟨hreach, hlater⟩ := hreach
    cases hdir : t.isDir directory with
    | error e => exact absurd hdir (hreach.itself e)
    | ok b =>
      cases b with
      | false =>
        have hno : ∀ rel, ¬t.Matches recursive name directory rel :=
          not_matches_of_not_dir (by rw [hdir]; exact nofun)
        obtain ⟨found, hout, hfinds⟩ := ih (hlater hno)
        exact ⟨found, (searchDirs_missing hdir).trans hout, hfinds.skip hno⟩
      | true =>
        rcases placeIn_eq ht hdot hup hdir hreach with ⟨rel, hleast, hplace⟩ | ⟨hno, hplace⟩
        · obtain ⟨r, hr, hresolve⟩ :=
            hleast.1.exists_resolve ht hcycle hdot hup (hreach.found rel hleast).2
          refine ⟨some r, ?_, .some (.here hleast) hr⟩
          rw [searchDirs_some hdir hplace, hresolve]
          rfl
        · obtain ⟨found, hout, hfinds⟩ := ih (hlater hno)
          exact ⟨found, by rw [searchDirs_none hdir hplace, hout], hfinds.skip hno⟩

/-- Directories behind one with a match play no part. -/
theorem searchDirs_append {r : Path}
    (h : (t.searchDirs recursive name directories).outcome = .ok (some r)) (more : List Path) :
    t.searchDirs recursive name (directories ++ more) = t.searchDirs recursive name directories := by
  induction directories with
  | nil =>
    rw [searchDirs] at h
    cases h
  | cons directory rest ih =>
    rw [List.cons_append, searchDirs, searchDirs]
    cases hdir : t.isDir directory with
    | error e => rfl
    | ok b =>
      cases b with
      | false =>
        rw [searchDirs_missing hdir] at h
        dsimp only
        rw [ih h]
      | true =>
        cases hplace : t.placeIn recursive name directory with
        | error e => rfl
        | ok found =>
          cases found with
          | none =>
            rw [searchDirs_none hdir hplace] at h
            exact ih h
          | some place => rfl

/-! ## Another order of listing -/

namespace Alike

variable {t' : FileTree} (h : t.Alike t')

include h

theorem hasEntry {directory : Path} {rel : List String} (hentry : t.HasEntry name directory rel) :
    t'.HasEntry name directory rel := by
  obtain ⟨here, n, hplace, hn, hkind, hlink⟩ := hentry
  obtain ⟨n', hn', hface⟩ := h.node hn
  refine ⟨here, n', (h.locate_eq true directory).trans hplace, hn', ?_, ?_⟩
  · cases n' with
    | dir es =>
      obtain ⟨es', rfl⟩ := Node.face_dir hface.symm
      cases hkind
    | file text => rfl
    | link target => rfl
  · rintro target rfl
    rw [h.isDir_eq]
    exact hlink target (Node.face_link hface.symm)

theorem setOf_matches (directory : Path) :
    {rel | t'.Matches recursive name directory rel} =
      {rel | t.Matches recursive name directory rel} := by
  ext rel
  unfold Matches
  rw [Set.mem_ofPred_eq, Set.mem_ofPred_eq, h.isDir_eq]
  refine and_congr_right fun _ => ?_
  cases recursive with
  | true => exact ⟨h.symm.hasEntry, h.hasEntry⟩
  | false => exact and_congr_right fun _ => by rw [h.isFile_eq]

theorem matches_iff (directory : Path) (rel : List String) :
    t'.Matches recursive name directory rel ↔ t.Matches recursive name directory rel :=
  iff_of_eq (congrArg (rel ∈ ·) (h.setOf_matches directory))

theorem firstMatch {directory : Path} {rel : List String}
    (hfirst : t.FirstMatch recursive name directories directory rel) :
    t'.FirstMatch recursive name directories directory rel := by
  induction hfirst with
  | here hleast => exact .here (by rwa [h.setOf_matches])
  | later hno _ ih => exact .later (fun rel hrel => hno rel ((h.matches_iff _ rel).mp hrel)) ih

theorem finds {found : Option Path} (hfinds : t.Finds recursive name directories found) :
    t'.Finds recursive name directories found := by
  cases hfinds with
  | some hfirst hr => exact .some (h.firstMatch hfirst) (h.resolvesTo hr)
  | none hnone =>
    exact .none fun d hd rel hmatch => hnone d hd rel ((h.matches_iff d rel).mp hmatch)

theorem reachable {directory : Path} (hreach : t.Reachable recursive name directory) :
    t'.Reachable recursive name directory where
  itself := by
    rw [h.isDir_eq]
    exact hreach.itself
  candidate := by
    rw [h.isDir_eq, h.isFile_eq]
    exact hreach.candidate
  found rel hleast := by
    rw [h.setOf_matches] at hleast
    obtain ⟨hshort, hfits⟩ := hreach.found rel hleast
    exact ⟨hshort, h.fits hfits⟩

theorem reachableAll (hreach : t.ReachableAll recursive name directories) :
    t'.ReachableAll recursive name directories := by
  induction directories with
  | nil => trivial
  | cons directory rest ih =>
    exact ⟨h.reachable hreach.1, fun hno =>
      ih (hreach.2 fun rel hrel => hno rel ((h.matches_iff directory rel).mpr hrel))⟩

end Alike

end FileTree

end BuildScript.Files
