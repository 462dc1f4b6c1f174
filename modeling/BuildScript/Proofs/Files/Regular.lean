import BuildScript.Proofs.Files.Containment

/-!
Whether files are found at the paths that probing gives. An entry that is no link is a file, and so
is what an entry leads to that the direct check takes for a file (`IsRegular`). The walk below a
directory does not make that check: it takes every link that leads to no directory, broken ones
included. Main statement: `probe_regular`, that no other entry is found for which there is no file.
Nothing is said where a link on the way has a path that is too long to be read.
-/

namespace BuildScript.Files

namespace FileTree

variable {t : FileTree} {recursive : Bool} {name : String} {directories : List Path}
  {directory r : Path} {here rel : List String}

/-- A file stands at the path, which holds no link, and is found there if the path can be read. -/
structure IsRegular (t : FileTree) (p : Path) : Prop where
  root : p.root = .slash
  file : ∃ text, t.nodeAt? p.names = some (.file text)
  found : p.text.utf8ByteSize < pathByteLimit → t.isFile p = .ok true

/-- At `rel` below a directory the entry is a link, and the direct check does not take it for a
file. -/
structure IsUnchecked (t : FileTree) (here : List String) (directory : Path) (rel : List String)
    (name : String) : Prop where
  link : ∃ target, t.nodeAt? (here ++ rel ++ [name]) = some (.link target)
  refused : t.isFile (entryPath directory rel name) ≠ .ok true

/-! ## Places of files -/

section Proper

variable (ht : t.Proper)

include ht

theorem Proper.clean_of_nodeAt? {n : Node} (hn : t.nodeAt? here = some n)
    (hlink : ∀ target, n ≠ .link target) :
    t.Clean ⟨true, here⟩ ∧ t.spot ⟨true, here⟩ = here := by
  cases here using List.reverseRecOn with
  | nil => exact ⟨.root, rfl⟩
  | append_singleton here last =>
    obtain ⟨es, hes, -⟩ := dir_of_nodeAt?_concat hn
    obtain ⟨hclean, hspot⟩ := ht.clean_of_dir hes
    have hlast := (ht.isEntryName hn).isOwnName
    have hdown : t.spot ((⟨true, here⟩ : Trail).down last) = here ++ [last] := by
      rw [spot_down t _ hlast.ne_up, hspot]
    refine ⟨hclean.down hlast fun target htarget => ?_, hdown⟩
    rw [hdown, hn] at htarget
    exact hlink target (Option.some.inj htarget)

/-- The names of what is no link are looked up as they stand. -/
theorem locate_of_nodeAt? {n : Node} (hn : t.nodeAt? here = some n)
    (hlink : ∀ target, n ≠ .link target)
    (hshort : (Path.mk .slash here).text.utf8ByteSize < pathByteLimit) :
    t.locate true ⟨.slash, here⟩ = .ok here := by
  obtain ⟨hclean, hspot⟩ := ht.clean_of_nodeAt? hn hlink
  have hwalk := hclean.walk_eq ht (hspot.symm ▸ hn) true maxLinks []
  rw [List.append_nil, hspot, walk_nil] at hwalk
  rw [locate_of_short hshort]
  exact hwalk

theorem isRegular_of_nodeAt? {text : String} (hn : t.nodeAt? here = some (.file text)) :
    t.IsRegular ⟨.slash, here⟩ where
  root := rfl
  file := ⟨text, hn⟩
  found hshort := by
    have hnul : hasNul ⟨.slash, here⟩ = false :=
      hasNul_eq_false fun k hk => (ht.ne_up_of_mem hn k hk).no_nul
    have hplace := locate_of_nodeAt? ht hn nofun hshort
    exact isFile_eq_ok_true_iff.mpr ⟨hnul, here, text, hplace, hn⟩

/-- A path that the direct check takes for that of a file resolves to the path of a file. -/
theorem isRegular_of_isFile {p : Path} (hfile : t.isFile p = .ok true)
    (hfits : t.Fits ⟨p.isAbsolute, []⟩ p.names) (hr : t.resolve p = .ok r) : t.IsRegular r := by
  obtain ⟨hnul, there, text, hplace, htext⟩ := isFile_eq_ok_true_iff.mp hfile
  have hresolve := resolve_of_locate ht hplace (noNul_of_hasNul hnul) hfits
  rw [Except.ok.inj (hr.symm.trans hresolve)]
  exact isRegular_of_nodeAt? ht htext

/-- The direct check takes an entry that is a file for one, if its path can be read. -/
theorem isFile_entryPath (hplace : t.locate true directory = .ok here) {text : String}
    (hn : t.nodeAt? (here ++ rel ++ [name]) = some (.file text))
    (hnul : NoNul (entryPath directory rel name).names)
    (hshort : (entryPath directory rel name).text.utf8ByteSize < pathByteLimit) :
    t.isFile (entryPath directory rel name) = .ok true := by
  rw [List.append_assoc] at hn
  have hrest : rel ++ [name] ≠ [] := List.append_ne_nil_of_right_ne_nil _ (List.cons_ne_nil _ _)
  obtain ⟨es, hes⟩ := dir_of_nodeAt?_append hn hrest
  obtain ⟨hfront, hfrontSpot⟩ := ht.clean_of_dir hes
  obtain ⟨hwhole, hwholeSpot⟩ := ht.clean_of_nodeAt? hn nofun
  obtain ⟨left, hafter⟩ := walk_append (walk_of_locate hplace)
  -- from the root on, the names lead through the directory to the entry
  have hbelow : t.walk true left here (rel ++ [name]) = .ok (here ++ (rel ++ [name])) := by
    have hdir := hfront.walk_eq ht (hfrontSpot.symm ▸ hes) true left (rel ++ [name])
    have hentry := hwhole.walk_eq ht (hwholeSpot.symm ▸ hn) true left []
    rw [List.append_nil, hwholeSpot, walk_nil] at hentry
    rw [hfrontSpot] at hdir
    exact hdir.symm.trans hentry
  have hwalk : t.locate true (entryPath directory rel name) = .ok (here ++ (rel ++ [name])) := by
    rw [locate_of_short hshort, ← hbelow, ← hafter, ← List.append_assoc]
    rfl
  exact isFile_eq_ok_true_iff.mpr ⟨hasNul_eq_false hnul, _, text, hwalk, hn⟩

/-- A path of an entry that resolves leads where the entry leads. -/
theorem eq_of_leads (hplace : t.locate true directory = .ok here) {n : Node}
    (hn : t.nodeAt? (here ++ rel ++ [name]) = some n)
    (hnul : NoNul (entryPath directory rel name).names)
    (hfits : t.Fits ⟨directory.isAbsolute, []⟩ (entryPath directory rel name).names)
    (hr : t.resolve (entryPath directory rel name) = .ok r) {place : List String}
    (hleads : t.Leads (here ++ rel) name place) : r = ⟨.slash, place⟩ := by
  have hresolve := resolve_of_resolvesTo ht (resolvesTo_of_leads ht hplace hn hleads) hnul hfits
  exact Except.ok.inj (hr.symm.trans hresolve)

end Proper

/-! ## What is found -/

/-- Without the walk only the direct check finds anything. -/
theorem isFile_of_placeIn {place : Path}
    (h : t.placeIn false name directory = .ok (some place)) : t.isFile place = .ok true := by
  cases hfile : t.isFile (directory.child name) with
  | error e =>
    unfold placeIn at h
    dsimp only at h
    rw [hfile] at h
    cases h
  | ok b =>
    cases b with
    | false =>
      rw [placeIn_flat hfile] at h
      cases h
    | true =>
      rw [placeIn_direct hfile, Except.ok.injEq, Option.some.injEq, entryPath, List.append_nil] at h
      exact h ▸ hfile

/-- What probing finds is where an entry leads that lies at or below one of the directories, past no
link. The direct check takes the entry for a file, unless the walk came to a link that it refuses or
to a path that is too long; and a file is where the entry leads, unless it is such a link. -/
theorem probe_regular (ht : t.Proper)
    (h : (t.probe directories name recursive).outcome = .ok (some r)) :
    ∃ d ∈ directories, ∃ here rel, t.locate true d = .ok here ∧ t.HasEntry name d rel ∧
      (t.isFile (entryPath d rel name) = .ok true ∨ recursive = true ∧
        (t.IsUnchecked here d rel name ∨
          pathByteLimit ≤ (entryPath d rel name).text.utf8ByteSize)) ∧
      (t.Fits ⟨d.isAbsolute, []⟩ (entryPath d rel name).names →
        (∀ place, t.Leads (here ++ rel) name place → r = ⟨.slash, place⟩) ∧
          (t.IsRegular r ∨ recursive = true ∧ t.IsUnchecked here d rel name)) := by
  obtain ⟨d, hd, rel, hdir, hentry, hplaceIn, hr⟩ := exists_placeIn_of_probe ht h
  have hnul := hentry.noNul ht hdir
  obtain ⟨here, n, hplace, hn, hkind, -⟩ := id hentry
  have hleads : t.Fits ⟨d.isAbsolute, []⟩ (entryPath d rel name).names →
      ∀ place, t.Leads (here ++ rel) name place → r = ⟨.slash, place⟩ :=
    fun hfits place => eq_of_leads ht hplace hn hnul hfits hr
  by_cases hfile : t.isFile (entryPath d rel name) = .ok true
  · exact ⟨d, hd, here, rel, hplace, hentry, .inl hfile, fun hfits =>
      ⟨hleads hfits, .inl (isRegular_of_isFile ht hfile hfits hr)⟩⟩
  -- without the walk it is the direct check that has found the entry
  have hwalked : recursive = true := by
    by_contra hflat
    rw [Bool.not_eq_true] at hflat
    rw [hflat] at hplaceIn
    exact hfile (isFile_of_placeIn hplaceIn)
  cases n with
  | dir es => cases hkind
  | file text =>
    have hlong : pathByteLimit ≤ (entryPath d rel name).text.utf8ByteSize := by
      by_contra hshort
      exact hfile (isFile_entryPath ht hplace hn hnul (Nat.lt_of_not_le hshort))
    have hown : t.Leads (here ++ rel) name (here ++ rel ++ [name]) := by
      refine .entry fun target htarget => ?_
      rw [hn] at htarget
      cases htarget
    refine ⟨d, hd, here, rel, hplace, hentry, .inr ⟨hwalked, .inr hlong⟩, fun hfits =>
      ⟨hleads hfits, .inl ?_⟩⟩
    rw [hleads hfits _ hown]
    exact isRegular_of_nodeAt? ht hn
  | link target =>
    have hunchecked : t.IsUnchecked here d rel name := ⟨⟨target, hn⟩, hfile⟩
    exact ⟨d, hd, here, rel, hplace, hentry, .inr ⟨hwalked, .inl hunchecked⟩, fun hfits =>
      ⟨hleads hfits, .inr ⟨hwalked, hunchecked⟩⟩⟩

/-- The file in the box is one. -/
theorem isRegular_own :
    box.Proper ∧ (box.probe [boxPath] "own" true).outcome = .ok (some ⟨.slash, ["box", "own"]⟩) ∧
      box.IsRegular ⟨.slash, ["box", "own"]⟩ := by
  have hout : (box.probe [boxPath] "own" true).outcome = .ok (some ⟨.slash, ["box", "own"]⟩) :=
    probe_box (by decide) (leadsTo_of_find (by decide +kernel) (find_of_some locate_own rfl))
      (resolve_of_locate box_proper locate_own (noNul_of_hasNul (by decide +kernel)) own_fits)
  refine ⟨box_proper, hout, ?_⟩
  obtain ⟨d, hd, here, rel, hplace, hentry, -, hfound⟩ := probe_regular box_proper hout
  obtain rfl := List.mem_singleton.mp hd
  obtain rfl : here = ["box"] := Except.ok.inj (hplace.symm.trans locate_boxPath)
  obtain rfl := rel_eq_nil_of_hasEntry hentry
  obtain ⟨-, hregular | ⟨-, hlink, -⟩⟩ := hfound own_fits
  · exact hregular
  · obtain ⟨target, htarget⟩ := hlink
    cases htarget

/-! ### A directory with a broken link -/

/-- A tree with a directory that holds nothing but a link to what is not there. -/
def hollow : FileTree := ⟨.dir [("box", .dir [("lib", .link "gone")])], []⟩

theorem hollow_proper : hollow.Proper := proper_of_isSound (by decide +kernel) ⟨_, rfl⟩

theorem hollow_root : hollow.nodeAt? [] = some (.dir [("box", .dir [("lib", .link "gone")])]) := rfl

theorem hollow_dir : hollow.nodeAt? ["box"] = some (.dir [("lib", .link "gone")]) := rfl

theorem gone_startsWith : "gone".startsWith "/" = false := by decide +kernel

theorem walk_hollow (links : Nat) (rest : List String) :
    hollow.walk true links [] ("box" :: rest) = hollow.walk true links ["box"] rest :=
  walk_down hollow_root (by decide) (by decide) (by decide) rfl nofun

theorem locate_hollow : hollow.locate true boxPath = .ok ["box"] := by
  rw [locate_of_short (by decide)]
  exact (walk_hollow _ _).trans walk_nil

theorem isDir_hollow : hollow.isDir boxPath = .ok true :=
  leadsTo_of_find (by decide) (find_of_some locate_hollow hollow_dir)

/-- The link leads to nothing. -/
theorem find_hollow : hollow.find (boxPath.child "lib") = .error .notFound := by
  have hsteps : steps "gone" = ["gone"] := by decide +kernel
  refine find_of_error ?_
  rw [locate_of_short (by decide +kernel)]
  calc hollow.walk true 40 [] ["box", "lib"]
      = hollow.walk true 40 ["box"] ["lib"] := walk_hollow _ _
    _ = hollow.walk true 39 ["box"] ["gone"] := by
        rw [walk_link hollow_dir (by decide) (by decide) (by decide) rfl (by decide),
          gone_startsWith, if_neg Bool.false_ne_true, hsteps]
        rfl
    _ = .error .notFound := walk_missing hollow_dir (by decide) (by decide) (by decide) rfl

/-- The direct check refuses the link, and the walk takes it. -/
theorem placeIn_hollow :
    hollow.placeIn true "lib" boxPath = .ok (some (entryPath boxPath [] "lib")) := by
  have hlists : hollow.listsFile boxPath "lib" [] (.dir [("lib", .link "gone")]) = true := by
    refine listsFile_eq_true_iff.mpr ⟨by decide, _, rfl, rfl, fun target _ => ?_⟩
    rw [show hollow.isDir ((walkedPath boxPath []).child "lib") = .ok false from
      leadsTo_of_notFound find_hollow]
    nofun
  rw [placeIn_below (leadsTo_of_notFound find_hollow) (find_of_some locate_hollow hollow_dir),
    Node.firstDir, if_pos hlists]
  rfl

theorem hollow_fits : hollow.Fits ⟨false, []⟩ ["box", "lib"] := by
  have hpieces : Path.pieces "gone" = ["gone"] := by decide
  refine .down (by decide) (fun target h => nomatch h)
    (.link (by decide) rfl (by decide +kernel) ?_)
  unfold Trail.ofLink
  rw [hpieces, gone_startsWith, if_neg Bool.false_ne_true]
  exact .down (by decide) (fun target h => nomatch h) (.nil _ _)

theorem hollow_leads : hollow.Leads ["box"] "lib" ["box", "gone"] := by
  have hpieces : Path.pieces "gone" = ["gone"] := by decide
  have hfollows : hollow.Follows 1 (Trail.ofLink ⟨true, ["box"]⟩ "gone") (Path.pieces "gone")
      ⟨true, ["box", "gone"]⟩ := by
    unfold Trail.ofLink
    rw [hpieces, gone_startsWith, if_neg Bool.false_ne_true]
    exact .down (by decide) (fun target h => nomatch h) (.nil _)
  exact .link rfl hfollows

/-- The broken link is found, and there is no file where it leads. -/
theorem probe_finds_nothing :
    hollow.Proper ∧
      (hollow.probe [boxPath] "lib" true).outcome = .ok (some ⟨.slash, ["box", "gone"]⟩) ∧
      hollow.nodeAt? ["box", "gone"] = none ∧
      hollow.isFile ⟨.slash, ["box", "gone"]⟩ = .ok false := by
  have hresolve : hollow.resolve (entryPath boxPath [] "lib") = .ok ⟨.slash, ["box", "gone"]⟩ :=
    resolve_of_resolvesTo hollow_proper
      (resolvesTo_of_leads hollow_proper locate_hollow rfl hollow_leads)
      (noNul_of_hasNul (by decide +kernel)) hollow_fits
  have hfind : hollow.find ⟨.slash, ["box", "gone"]⟩ = .error .notFound := by
    refine find_of_error ?_
    rw [locate_of_short (by decide +kernel)]
    exact (walk_hollow _ _).trans
      (walk_missing hollow_dir (by decide) (by decide) (by decide) rfl)
  refine ⟨hollow_proper, ?_, rfl, leadsTo_of_notFound hfind⟩
  unfold probe
  rw [if_pos (by decide), searchDirs_some isDir_hollow placeIn_hollow, hresolve]
  rfl

end FileTree

end BuildScript.Files
