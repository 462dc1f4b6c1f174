import BuildScript.Proofs.Files.Landing
import BuildScript.Proofs.Files.Probing

/-!
Where the files lie that probing finds. The entry that is found lies at or below one of the
directories, past no link (`HasEntry`), and the result is where that entry leads (`Leads`). Main
statement: `probe_inside`, that the result lies within the resolved path of a directory unless the
entry itself is a link, and that it then lies where the target of the link ends. Probing does not ask
whether that is inside.
-/

namespace BuildScript.Files

/-- The path is that of a directory, or has more names behind it. -/
def Path.IsWithin (p directory : Path) : Prop :=
  p.root = directory.root ∧ directory.names <+: p.names

namespace FileTree

variable {t : FileTree} {recursive : Bool} {name : String} {directories : List Path}
  {directory r : Path} {here rel : List String}

/-- Where an entry of a directory leads: a link to where its target ends, anything else to itself. -/
inductive Leads (t : FileTree) (here : List String) (name : String) : List String → Prop where
  | entry (hno : ∀ target, t.nodeAt? (here ++ [name]) ≠ some (.link target)) :
      Leads t here name (here ++ [name])
  | link {target : String} {k : Nat} {e : Trail}
      (hlink : t.nodeAt? (here ++ [name]) = some (.link target))
      (h : t.Follows k (Trail.ofLink ⟨true, here⟩ target) (Path.pieces target) e) :
      Leads t here name (t.spot e)

/-- At `rel` below a directory the entry is a link, and its target does not end inside the
directory. -/
def LeadsOut (t : FileTree) (here rel : List String) (name : String) : Prop :=
  (∃ target, t.nodeAt? (here ++ rel ++ [name]) = some (.link target)) ∧
    ∀ place, t.Leads (here ++ rel) name place → ¬here <+: place

/-! ## What is found -/

/-- What a search finds in its directories it has resolved. -/
theorem exists_place_of_searchDirs
    (h : (t.searchDirs recursive name directories).outcome = .ok (some r)) :
    ∃ d ∈ directories, ∃ place, t.isDir d = .ok true ∧
      t.placeIn recursive name d = .ok (some place) ∧ t.resolve place = .ok r := by
  induction directories with
  | nil =>
    rw [searchDirs] at h
    cases h
  | cons directory rest ih =>
    have hlater (hrest : (t.searchDirs recursive name rest).outcome = .ok (some r)) :
        ∃ d ∈ directory :: rest, ∃ place, t.isDir d = .ok true ∧
          t.placeIn recursive name d = .ok (some place) ∧ t.resolve place = .ok r := by
      obtain ⟨d, hd, hfound⟩ := ih hrest
      exact ⟨d, List.mem_cons_of_mem _ hd, hfound⟩
    cases hdir : t.isDir directory with
    | error e =>
      rw [searchDirs, hdir] at h
      cases h
    | ok b =>
      cases b with
      | false => exact hlater ((searchDirs_missing hdir).symm.trans h)
      | true =>
        cases hplace : t.placeIn recursive name directory with
        | error e =>
          rw [searchDirs, hdir] at h
          dsimp only at h
          rw [hplace] at h
          cases h
        | ok found =>
          cases found with
          | none =>
            rw [searchDirs_none hdir hplace] at h
            exact hlater h
          | some place =>
            rw [searchDirs_some hdir hplace] at h
            refine ⟨directory, List.mem_cons_self, place, hdir, hplace, ?_⟩
            cases hr : t.resolve place with
            | error e =>
              rw [hr] at h
              cases h
            | ok r' =>
              rw [hr] at h
              rw [Option.some.inj (Except.ok.inj h)]

/-- The place in a directory is that of an entry at or below it. -/
theorem hasEntry_of_placeIn (ht : t.Proper) (hdot : name ≠ ".") (hup : name ≠ "..")
    (hdir : t.isDir directory = .ok true) {place : Path}
    (h : t.placeIn recursive name directory = .ok (some place)) :
    ∃ rel, place = entryPath directory rel name ∧ t.HasEntry name directory rel := by
  cases hfile : t.isFile (directory.child name) with
  | error e =>
    unfold placeIn at h
    dsimp only at h
    rw [hfile] at h
    cases h
  | ok b =>
    cases b with
    | true =>
      rw [placeIn_direct hfile, Except.ok.injEq, Option.some.injEq] at h
      exact ⟨[], h.symm, hasEntry_of_isFile ht hdot hup hdir hfile⟩
    | false =>
      cases recursive with
      | false =>
        rw [placeIn_flat hfile] at h
        cases h
      | true =>
        obtain ⟨-, here, es, hplace, hes⟩ := isDir_eq_ok_true_iff.mp hdir
        rw [placeIn_below hfile (find_of_some hplace hes), Except.ok.injEq,
          Option.map_eq_some_iff] at h
        obtain ⟨rel, hfirst, rfl⟩ := h
        obtain ⟨least, hleast, hrel⟩ :=
          (Node.firstDir_eq_some_iff (ht.distinct_of_nodeAt? hes)).mp hfirst
        rw [List.nil_append] at hrel
        exact ⟨rel, rfl, ((mem_dirsWith_listsFile hplace hes).mp (hrel ▸ hleast.1)).2⟩

/-- What probing finds is the place in one of the directories, resolved. -/
theorem exists_placeIn_of_probe (ht : t.Proper)
    (h : (t.probe directories name recursive).outcome = .ok (some r)) :
    ∃ d ∈ directories, ∃ rel, t.isDir d = .ok true ∧ t.HasEntry name d rel ∧
      t.placeIn recursive name d = .ok (some (entryPath d rel name)) ∧
      t.resolve (entryPath d rel name) = .ok r := by
  unfold probe at h
  split at h
  · rename_i hplain
    have hrefused := isPlainName_eq_true_iff.mp hplain
    have hdot : name ≠ "." := fun h => hrefused (.inr (.inl h))
    have hup : name ≠ ".." := fun h => hrefused (.inr (.inr (.inl h)))
    obtain ⟨d, hd, place, hdir, hplace, hr⟩ := exists_place_of_searchDirs h
    obtain ⟨rel, rfl, hentry⟩ := hasEntry_of_placeIn ht hdot hup hdir hplace
    exact ⟨d, hd, rel, hdir, hentry, hplace, hr⟩
  · cases h

/-- What probing finds is an entry at or below one of the directories, resolved. -/
theorem exists_entry_of_probe (ht : t.Proper)
    (h : (t.probe directories name recursive).outcome = .ok (some r)) :
    ∃ d ∈ directories, ∃ rel, t.isDir d = .ok true ∧ t.HasEntry name d rel ∧
      t.resolve (entryPath d rel name) = .ok r := by
  obtain ⟨d, hd, rel, hdir, hentry, -, hr⟩ := exists_placeIn_of_probe ht h
  exact ⟨d, hd, rel, hdir, hentry, hr⟩

/-! ## Where it leads -/

section Entry

variable (ht : t.Proper) (hplace : t.locate true directory = .ok here) {n : Node}
  (hn : t.nodeAt? (here ++ rel ++ [name]) = some n)

include ht hplace hn

/-- The path of an entry is followed to the directory of the entry. -/
theorem exists_follows_entryDir :
    ∃ k trail, t.Follows k ⟨directory.isAbsolute, []⟩ (directory.names ++ rel) trail ∧
      t.spot trail = here ++ rel := by
  obtain ⟨k, trail, hfollows, rfl⟩ := exists_follows_of_locate ht hplace
  obtain ⟨es, hes⟩ := dir_of_nodeAt?_append hn (List.cons_ne_nil _ _)
  obtain ⟨m, e, hbelow, he⟩ := exists_follows_below ht hes
  exact ⟨k + m, e, hfollows.append hbelow, he⟩

/-- The path of an entry resolves to where the entry leads. -/
theorem resolvesTo_of_leads {place : List String} (h : t.Leads (here ++ rel) name place) :
    t.ResolvesTo (entryPath directory rel name) ⟨.slash, place⟩ := by
  obtain ⟨k, trail, hfollows, hspot⟩ := exists_follows_entryDir ht hplace hn
  have hown := (ht.isEntryName hn).isOwnName
  have hdown : t.spot (trail.down name) = here ++ rel ++ [name] := by
    rw [spot_down t _ hown.ne_up, hspot]
  cases h with
  | entry hno =>
    have hlast : t.Follows 1 trail [name] (trail.down name) :=
      .down hown (by rw [hdown]; exact hno) (.nil _)
    exact ⟨k + 1, trail.down name, hfollows.append hlast, by rw [hdown]⟩
  | @link target m e hlink htarget =>
    have hdir : t.spot trail = t.spot ⟨true, here ++ rel⟩ := by
      obtain ⟨es, hes, -⟩ := dir_of_nodeAt?_concat hn
      rw [hspot, (ht.clean_of_dir hes).2]
    have hstart : t.spot (trail.ofLink target) =
        t.spot (Trail.ofLink ⟨true, here ++ rel⟩ target) := by
      unfold Trail.ofLink
      split
      · rfl
      · exact hdir
    obtain ⟨e', hsame, he'⟩ := htarget.of_spot_eq hstart
    have hlast : t.Follows (m + 1) trail [name] e' := by
      refine .link hown (by rw [hdown]; exact hlink) ?_
      rw [List.append_nil]
      exact hsame
    exact ⟨k + (m + 1), e', hfollows.append hlast, by rw [he']⟩

end Entry

/-- What probing finds is where an entry leads that lies at or below one of the directories, past no
link. So it lies within the resolved path of the directory, unless the entry itself is a link that
leads out of it. -/
theorem probe_inside (ht : t.Proper)
    (h : (t.probe directories name recursive).outcome = .ok (some r)) :
    ∃ d ∈ directories, ∃ here rel, t.locate true d = .ok here ∧ t.HasEntry name d rel ∧
      (t.Fits ⟨d.isAbsolute, []⟩ (entryPath d rel name).names →
        t.resolve d = .ok ⟨.slash, here⟩ ∧
          (r.IsWithin ⟨.slash, here⟩ ∨ t.LeadsOut here rel name) ∧
          ∀ place, t.Leads (here ++ rel) name place → r = ⟨.slash, place⟩) := by
  obtain ⟨d, hd, rel, hdir, hentry, hr⟩ := exists_entry_of_probe ht h
  have hnul := hentry.noNul ht hdir
  obtain ⟨here, n, hplace, hn, hkind⟩ := id hentry
  refine ⟨d, hd, here, rel, hplace, hentry, fun hfits => ?_⟩
  have hleads : ∀ place, t.Leads (here ++ rel) name place → r = ⟨.slash, place⟩ := by
    intro place hleads
    have hresolve := resolve_of_resolvesTo ht (resolvesTo_of_leads ht hplace hn hleads) hnul hfits
    exact Except.ok.inj (hr.symm.trans hresolve)
  have hfront : (entryPath d rel name).names = d.names ++ (rel ++ [name]) := List.append_assoc ..
  refine ⟨resolve_of_locate ht hplace ?_ ?_, ?_, hleads⟩
  · exact fun k hk => hnul k (by rw [hfront]; exact List.mem_append_left _ hk)
  · rw [hfront] at hfits
    exact hfits.front
  · by_cases hlink : ∃ target, t.nodeAt? (here ++ rel ++ [name]) = some (.link target)
    · by_cases hwithin : r.IsWithin ⟨.slash, here⟩
      · exact .inl hwithin
      · refine .inr ⟨hlink, fun place hplace hprefix => hwithin ?_⟩
        rw [hleads place hplace]
        exact ⟨rfl, hprefix⟩
    · refine .inl ?_
      rw [hleads _ (.entry fun target htarget => hlink ⟨target, htarget⟩)]
      exact ⟨rfl, rel ++ [name], (List.append_assoc ..).symm⟩

/-! ### A box with a link to what lies beside it -/

/-- A directory with a file and with a link, whose target lies beside the directory. -/
def boxEntries : List (String × Node) := [("lib", .link "../secret"), ("own", .file "")]

/-- A tree with this directory. -/
def box : FileTree := ⟨.dir [("box", .dir boxEntries), ("secret", .file "")], []⟩

/-- The path of the directory, from the current one. -/
def boxPath : Path := ⟨.relative, ["box"]⟩

theorem secret_startsWith : "../secret".startsWith "/" = false := by decide +kernel

theorem box_proper : box.Proper := proper_of_isSound (by decide +kernel) ⟨_, rfl⟩

theorem box_root : box.nodeAt? [] = some (.dir [("box", .dir boxEntries), ("secret", .file "")]) :=
  rfl

theorem box_dir : box.nodeAt? ["box"] = some (.dir boxEntries) := rfl

theorem walk_box (links : Nat) (rest : List String) :
    box.walk true links [] ("box" :: rest) = box.walk true links ["box"] rest :=
  walk_down box_root (by decide) (by decide) (by decide) rfl nofun

theorem locate_boxPath : box.locate true boxPath = .ok ["box"] := by
  rw [locate_of_short (by decide)]
  exact (walk_box _ _).trans walk_nil

theorem isDir_boxPath : box.isDir boxPath = .ok true :=
  leadsTo_of_find (by decide) (find_of_some locate_boxPath box_dir)

theorem locate_own : box.locate true (boxPath.child "own") = .ok ["box", "own"] := by
  rw [locate_of_short (by decide +kernel)]
  calc box.walk true 40 [] ["box", "own"]
      = box.walk true 40 ["box"] ["own"] := walk_box _ _
    _ = box.walk true 40 ["box", "own"] [] :=
        walk_down box_dir (by decide) (by decide) (by decide) rfl nofun
    _ = .ok ["box", "own"] := walk_nil

theorem locate_lib : box.locate true (boxPath.child "lib") = .ok ["secret"] := by
  have hsteps : steps "../secret" = ["..", "secret"] := by decide +kernel
  rw [locate_of_short (by decide +kernel)]
  calc box.walk true 40 [] ["box", "lib"]
      = box.walk true 40 ["box"] ["lib"] := walk_box _ _
    _ = box.walk true 39 ["box"] ["..", "secret"] := by
        rw [walk_link box_dir (by decide) (by decide) (by decide) rfl (by decide),
          secret_startsWith, if_neg Bool.false_ne_true, hsteps]
        rfl
    _ = box.walk true 39 [] ["secret"] := walk_up box_dir
    _ = box.walk true 39 ["secret"] [] :=
        walk_down box_root (by decide) (by decide) (by decide) rfl nofun
    _ = .ok ["secret"] := walk_nil

theorem box_fits : box.Fits ⟨false, []⟩ ["box"] :=
  .down (by decide) (fun target h => nomatch h) (.nil _ _)

theorem own_fits : box.Fits ⟨false, []⟩ ["box", "own"] :=
  .down (by decide) (fun target h => nomatch h)
    (.down (by decide) (fun target h => nomatch h) (.nil _ _))

theorem lib_fits : box.Fits ⟨false, []⟩ ["box", "lib"] := by
  have hpieces : Path.pieces "../secret" = ["..", "secret"] := by decide
  refine .down (by decide) (fun target h => nomatch h) (.link (by decide) rfl (by decide +kernel) ?_)
  unfold Trail.ofLink
  rw [hpieces, secret_startsWith, if_neg Bool.false_ne_true]
  exact .up (.down (by decide) (fun target h => nomatch h) (.nil _ _))

/-- What is directly in the box is found there, and resolved. -/
theorem probe_box {name : String} {r : Path} (hplain : isPlainName name = true)
    (hfile : box.isFile (boxPath.child name) = .ok true)
    (hr : box.resolve (entryPath boxPath [] name) = .ok r) :
    (box.probe [boxPath] name true).outcome = .ok (some r) := by
  unfold probe
  rw [if_pos hplain, searchDirs_some isDir_boxPath (placeIn_direct hfile), hr]
  rfl

/-- There are no directories in the box. -/
theorem rel_eq_nil_of_hasEntry {name : String} {rel : List String}
    (h : box.HasEntry name boxPath rel) : rel = [] := by
  obtain ⟨es, hes, -⟩ := (hasEntry_iff locate_boxPath box_dir).mp h
  cases rel with
  | nil => rfl
  | cons k rest =>
    rw [Node.below?, Node.child?_dir, Option.bind_eq_some_iff] at hes
    obtain ⟨c, hc, hrest⟩ := hes
    obtain ⟨l₁, l₂, hsplit, -⟩ := List.lookup_eq_some_iff.mp hc
    have hmem : (k, c) ∈ boxEntries := hsplit ▸ List.mem_append_right _ List.mem_cons_self
    have hc : c = .link "../secret" ∨ c = .file "" := by
      rcases List.mem_cons.mp hmem with heq | hmem
      · exact .inl (Prod.mk.inj heq).2
      · exact .inr (Prod.mk.inj (List.mem_singleton.mp hmem)).2
    rcases hc with rfl | rfl
    all_goals cases rest <;> cases hrest

/-- The file in the box is found in it. -/
theorem probe_own :
    box.Proper ∧ (box.probe [boxPath] "own" true).outcome = .ok (some ⟨.slash, ["box", "own"]⟩) ∧
      box.resolve boxPath = .ok ⟨.slash, ["box"]⟩ ∧
      (Path.mk .slash ["box", "own"]).IsWithin ⟨.slash, ["box"]⟩ := by
  have hout : (box.probe [boxPath] "own" true).outcome = .ok (some ⟨.slash, ["box", "own"]⟩) :=
    probe_box (by decide) (leadsTo_of_find (by decide +kernel) (find_of_some locate_own rfl))
      (resolve_of_locate box_proper locate_own (noNul_of_hasNul (by decide +kernel)) own_fits)
  refine ⟨box_proper, hout, ?_⟩
  obtain ⟨d, hd, here, rel, hplace, hentry, hinside⟩ := probe_inside box_proper hout
  obtain rfl := List.mem_singleton.mp hd
  obtain rfl : here = ["box"] := Except.ok.inj (hplace.symm.trans locate_boxPath)
  obtain rfl := rel_eq_nil_of_hasEntry hentry
  obtain ⟨hbox, hwithin | ⟨⟨target, hlink⟩, -⟩, -⟩ := hinside own_fits
  · exact ⟨hbox, hwithin⟩
  · cases hlink

/-- The link in the box is found too, and leads out of it. -/
theorem probe_leaves_box :
    box.Proper ∧ (box.probe [boxPath] "lib" true).outcome = .ok (some ⟨.slash, ["secret"]⟩) ∧
      box.resolve boxPath = .ok ⟨.slash, ["box"]⟩ ∧
      ¬(Path.mk .slash ["secret"]).IsWithin ⟨.slash, ["box"]⟩ := by
  have hout : (box.probe [boxPath] "lib" true).outcome = .ok (some ⟨.slash, ["secret"]⟩) :=
    probe_box (by decide) (leadsTo_of_find (by decide +kernel) (find_of_some locate_lib rfl))
      (resolve_of_locate box_proper locate_lib (noNul_of_hasNul (by decide +kernel)) lib_fits)
  have hbox : box.resolve boxPath = .ok ⟨.slash, ["box"]⟩ :=
    resolve_of_locate box_proper locate_boxPath (noNul_of_hasNul (by decide)) box_fits
  exact ⟨box_proper, hout, hbox, fun h => absurd h.2 (by decide)⟩

end FileTree

end BuildScript.Files
