import BuildScript.Proofs.Files.Searching

/-!
Probing finds exactly the first match (`FileTree.probe_eq_first_match`): the directories are taken in
the order of the list, and in a directory the match at the least place. The order in which directories
list their entries plays no part, nor do directories behind one with a match.

This holds where the search meets no path that is too long (`FileTree.ReachableAll`). A directory with
such a path is not skipped: the search fails.
-/

namespace BuildScript.Files

theorem isPlainName_eq_true_iff {name : String} :
    isPlainName name = true ↔ ¬(name = "" ∨ name = "." ∨ name = ".." ∨ '/' ∈ name.toList) := by
  simp [isPlainName, not_or, and_assoc]

namespace FileTree

variable {t : FileTree}

/-- Probing finds exactly the first match. A name with a directory part, and one that is empty or no
more than a dot or two, is not found. -/
theorem probe_eq_first_match (ht : t.Proper) (hcycle : t.NoCycle) (recursive : Bool) (name : String)
    (directories : List Path) :
    ((name = "" ∨ name = "." ∨ name = ".." ∨ '/' ∈ name.toList) →
        (t.probe directories name recursive).outcome = .ok none) ∧
      (¬(name = "" ∨ name = "." ∨ name = ".." ∨ '/' ∈ name.toList) →
        t.ReachableAll recursive name directories →
        ∃ found, (t.probe directories name recursive).outcome = .ok found ∧
          (found = none ↔ ∀ d ∈ directories, ∀ rel, ¬t.Matches recursive name d rel) ∧
          (∀ r, found = some r ↔ ∃ d rel, t.FirstMatch recursive name directories d rel ∧
            t.ResolvesTo (entryPath d rel name) r) ∧
          (∀ t', t.Relisted t' → (t'.probe directories name recursive).outcome = .ok found) ∧
          (found ≠ none → ∀ more,
            (t.probe (directories ++ more) name recursive).outcome = .ok found)) := by
  refine ⟨fun hrefused => ?_, fun hname hreach => ?_⟩
  · unfold probe
    rw [if_neg fun hplain => isPlainName_eq_true_iff.mp hplain hrefused]
  have hprobe : ∀ (t' : FileTree) (directories : List Path),
      t'.probe directories name recursive = t'.searchDirs recursive name directories :=
    fun t' directories => if_pos (isPlainName_eq_true_iff.mpr hname)
  have hdot : name ≠ "." := fun h => hname (.inr (.inl h))
  have hup : name ≠ ".." := fun h => hname (.inr (.inr (.inl h)))
  simp only [hprobe]
  obtain ⟨found, hout, hfinds⟩ := exists_searchDirs ht hcycle hdot hup hreach
  refine ⟨found, hout, hfinds.eq_none_iff, hfinds.eq_some_iff, fun t' h => ?_, fun hsome more => ?_⟩
  · have halike := h.alike ht
    obtain ⟨found', hout', hfinds'⟩ := exists_searchDirs (h.proper ht) (halike.noCycle hcycle) hdot
      hup (halike.reachableAll hreach)
    rw [hout', hfinds'.unique (halike.finds hfinds)]
  · obtain ⟨r, rfl⟩ := Option.ne_none_iff_exists'.mp hsome
    rw [searchDirs_append hout, hout]

/-! ### A shelf with a link -/

/-- Two directories with an entry `lib`, in one of them a link. -/
def shelfEntries : List (String × Node) :=
  [("b", .dir [("lib", .file "")]), ("a", .dir [("lib", .link "real"), ("real", .file "")])]

/-- A tree with these directories below another one. -/
def shelf : FileTree := ⟨.dir [("shelf", .dir shelfEntries)], []⟩

/-- The path of the shelf, from the current directory. -/
def shelfPath : Path := ⟨.relative, ["shelf"]⟩

theorem shelf_proper : shelf.Proper :=
  proper_of_isSound (by decide +kernel) ⟨_, rfl⟩

theorem shelf_link {here : List String} {target : String}
    (h : shelf.nodeAt? here = some (.link target)) :
    here = ["shelf", "a", "lib"] ∧ target = "real" := by
  have hplaces : shelf.root.linkPlaces [] = [["shelf", "a", "lib"]] := rfl
  have hmem : [] ++ here ∈ shelf.root.linkPlaces [] := Node.mem_linkPlaces h []
  rw [hplaces, List.mem_singleton, List.nil_append] at hmem
  subst hmem
  have hlink : shelf.nodeAt? ["shelf", "a", "lib"] = some (.link "real") := rfl
  exact ⟨rfl, Node.link.inj (Option.some.inj (h.symm.trans hlink))⟩

theorem shelf_no_link {trail : Trail} (h : shelf.spot trail ≠ ["shelf", "a", "lib"])
    (target : String) : shelf.nodeAt? (shelf.spot trail) ≠ some (.link target) :=
  fun hlink => h (shelf_link hlink).1

/-- The target of the link. -/
theorem pieces_real : Path.pieces "real" = ["real"] := by decide

theorem real_startsWith : "real".startsWith "/" = false := by decide +kernel

theorem ofLink_real (trail : Trail) : trail.ofLink "real" = trail := by
  unfold Trail.ofLink
  rw [real_startsWith, if_neg Bool.false_ne_true]

theorem shelf_noCycle : shelf.NoCycle := by
  refine noCycle_of_targets fun here name target h => ?_
  obtain ⟨hplace, rfl⟩ := shelf_link h
  obtain ⟨rfl, -⟩ := List.append_inj' (hplace.trans (rfl : _ = ["shelf", "a"] ++ ["lib"])) rfl
  refine ⟨"real", pieces_real, by decide, real_startsWith, ?_⟩
  exact fun target' h' => absurd (shelf_link h').1 (by decide)

/-! What is looked up on the shelf. -/

theorem shelf_root : shelf.nodeAt? [] = some (.dir [("shelf", .dir shelfEntries)]) := rfl

theorem shelf_dir : shelf.nodeAt? ["shelf"] = some (.dir shelfEntries) := rfl

theorem walk_shelf (links : Nat) (rest : List String) :
    shelf.walk true links [] ("shelf" :: rest) = shelf.walk true links ["shelf"] rest :=
  walk_down shelf_root (by decide) (by decide) (by decide) rfl nofun

theorem locate_shelfPath : shelf.locate true shelfPath = .ok ["shelf"] := by
  rw [locate_of_short (by decide)]
  exact (walk_shelf _ _).trans walk_nil

theorem isDir_shelfPath : shelf.isDir shelfPath = .ok true :=
  leadsTo_of_find (by decide) (find_of_some locate_shelfPath shelf_dir)

theorem isDir_gone : shelf.isDir ⟨.slash, ["gone"]⟩ = .ok false := by
  refine leadsTo_of_notFound (find_of_error ?_)
  rw [locate_of_short (by decide)]
  exact walk_missing shelf_root (by decide) (by decide) (by decide) rfl

theorem isFile_direct : shelf.isFile (shelfPath.child "lib") = .ok false := by
  refine leadsTo_of_notFound (find_of_error ?_)
  rw [locate_of_short (by decide +kernel)]
  exact (walk_shelf _ _).trans (walk_missing shelf_dir (by decide) (by decide) (by decide) rfl)

theorem steps_real : steps "real" = ["real"] := by decide +kernel

/-- The link leads to the file next to it. -/
theorem isDir_link : shelf.isDir ((walkedPath shelfPath ["a"]).child "lib") = .ok false := by
  have ha : shelf.nodeAt? ["shelf", "a"] =
      some (.dir [("lib", .link "real"), ("real", .file "")]) := rfl
  have hlocate : shelf.locate true ((walkedPath shelfPath ["a"]).child "lib") =
      .ok ["shelf", "a", "real"] := by
    rw [locate_of_short (by decide +kernel)]
    calc shelf.walk true 40 [] ["shelf", "a", "lib"]
        = shelf.walk true 40 ["shelf"] ["a", "lib"] := walk_shelf _ _
      _ = shelf.walk true 40 ["shelf", "a"] ["lib"] :=
          walk_down shelf_dir (by decide) (by decide) (by decide) rfl nofun
      _ = shelf.walk true 39 ["shelf", "a"] ["real"] := by
          rw [walk_link ha (by decide) (by decide) (by decide) rfl (by decide), real_startsWith,
            if_neg Bool.false_ne_true, steps_real]
          rfl
      _ = shelf.walk true 39 ["shelf", "a", "real"] [] :=
          walk_down ha (by decide) (by decide) (by decide) rfl nofun
      _ = .ok ["shelf", "a", "real"] := walk_nil
  exact leadsTo_of_find (by decide +kernel) (find_of_some hlocate rfl)

theorem shelf_least : IsLeast {rel | shelf.Matches true "lib" shelfPath rel} ["a"] := by
  refine ⟨⟨isDir_shelfPath, ["shelf"], .link "real", locate_shelfPath, rfl, rfl, ?_⟩, ?_⟩
  · intro target _ h
    rw [isDir_link] at h
    cases h
  · intro rel h
    -- the least place at which there is any entry of that name
    have hfirst : (Node.dir shelfEntries).firstDir (fun _ n => (n.child? "lib").isSome) [] =
        some ["a"] := by decide +kernel
    obtain ⟨least, hleast, rfl⟩ :=
      (Node.firstDir_eq_some_iff (shelf_proper.distinct_of_nodeAt? shelf_dir)).mp hfirst
    obtain ⟨es, hes, c, hc, -⟩ := (hasEntry_iff locate_shelfPath shelf_dir).mp h.2
    refine hleast.2 ⟨es, hes, ?_⟩
    show (es.lookup "lib").isSome = true
    rw [hc]
    rfl

theorem shelf_gone (rel : List String) : ¬shelf.Matches true "lib" ⟨.slash, ["gone"]⟩ rel :=
  not_matches_of_not_dir (by rw [isDir_gone]; exact nofun) rel

theorem shelf_fits : shelf.Fits ⟨false, []⟩ ["shelf", "a", "lib"] := by
  refine .down (by decide) (shelf_no_link (by decide)) ?_
  refine .down (by decide) (shelf_no_link (by decide)) ?_
  refine .link (by decide) rfl (by decide +kernel) ?_
  rw [pieces_real, ofLink_real]
  exact .down (by decide) (shelf_no_link (by decide)) (.nil _ _)

theorem shelf_follows :
    shelf.Follows 4 ⟨false, []⟩ ["shelf", "a", "lib"] ⟨false, ["shelf", "a", "real"]⟩ := by
  refine .down (by decide) (shelf_no_link (by decide)) ?_
  refine .down (by decide) (shelf_no_link (by decide)) ?_
  refine .link (by decide) rfl ?_
  rw [pieces_real, ofLink_real]
  exact .down (by decide) (shelf_no_link (by decide)) (.nil _)

theorem shelf_resolvesTo :
    shelf.ResolvesTo (entryPath shelfPath ["a"] "lib") ⟨.slash, ["shelf", "a", "real"]⟩ :=
  ⟨4, ⟨false, ["shelf", "a", "real"]⟩, shelf_follows, rfl⟩

theorem shelf_reachable : shelf.ReachableAll true "lib" [⟨.slash, ["gone"]⟩, shelfPath] := by
  refine ⟨⟨?_, ?_, fun rel hrel => absurd hrel.1 (shelf_gone rel)⟩, fun _ => ⟨⟨?_, ?_, ?_⟩, ?_⟩⟩
  · rw [isDir_gone]
    exact nofun
  · rw [isDir_gone]
    exact nofun
  · rw [isDir_shelfPath]
    exact nofun
  · rw [isFile_direct]
    exact nofun
  · intro rel hrel
    obtain rfl := hrel.unique shelf_least
    exact ⟨by decide +kernel, shelf_fits⟩
  · exact fun _ => trivial

/-- The entry in the directory with the lesser name is found, the link resolved. -/
theorem probe_shelf :
    shelf.Proper ∧ shelf.NoCycle ∧
      shelf.ReachableAll true "lib" [⟨.slash, ["gone"]⟩, shelfPath] ∧
      (shelf.probe [⟨.slash, ["gone"]⟩, shelfPath] "lib" true).outcome =
        .ok (some ⟨.slash, ["shelf", "a", "real"]⟩) := by
  refine ⟨shelf_proper, shelf_noCycle, shelf_reachable, ?_⟩
  obtain ⟨found, hout, -, hfound, -⟩ :=
    (probe_eq_first_match shelf_proper shelf_noCycle true "lib" [⟨.slash, ["gone"]⟩, shelfPath]).2
      (by decide) shelf_reachable
  rw [hout, (hfound _).mpr ⟨shelfPath, ["a"], .later shelf_gone (.here shelf_least),
    shelf_resolvesTo⟩]

/-- A name that is one byte longer than a name may be. -/
def longName : String := String.ofList (List.replicate 256 'x')

theorem longName_toList : longName.toList = List.replicate 256 'x' := String.toList_ofList

/-- A directory with such a name is not skipped, though there is none: the search fails. -/
theorem probe_fails_of_long_name :
    shelf.Proper ∧ shelf.NoCycle ∧
      shelf.FirstMatch true "lib" [⟨.relative, [longName]⟩, shelfPath] shelfPath ["a"] ∧
      shelf.ResolvesTo (entryPath shelfPath ["a"] "lib") ⟨.slash, ["shelf", "a", "real"]⟩ ∧
      (shelf.probe [⟨.relative, [longName]⟩, shelfPath] "lib" true).outcome =
        .error (.system .nameTooLong (Path.text ⟨.relative, [longName]⟩)) := by
  have hplace : shelf.locate true ⟨.relative, [longName]⟩ = .error .nameTooLong := by
    rw [locate_of_short (by decide +kernel)]
    exact walk_tooLong shelf_root (by decide +kernel) (by decide +kernel) (by decide +kernel)
  have hnul : hasNul ⟨.relative, [longName]⟩ = false := by
    refine hasNul_eq_false fun name hname hmem => ?_
    rw [List.mem_singleton.mp hname, longName_toList] at hmem
    exact absurd (List.eq_of_mem_replicate hmem) (by decide)
  have hdir : shelf.isDir ⟨.relative, [longName]⟩ = .error .nameTooLong := by
    unfold isDir leadsTo
    rw [hnul, if_neg Bool.false_ne_true, find_of_error hplace]
  have hno : ∀ rel, ¬shelf.Matches true "lib" ⟨.relative, [longName]⟩ rel :=
    not_matches_of_not_dir (by rw [hdir]; exact nofun)
  refine ⟨shelf_proper, shelf_noCycle, .later hno (.here shelf_least), shelf_resolvesTo, ?_⟩
  unfold probe
  rw [if_pos (by decide), searchDirs, hdir]

end FileTree

end BuildScript.Files
