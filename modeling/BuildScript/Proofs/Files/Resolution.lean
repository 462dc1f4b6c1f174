import BuildScript.Proofs.Files.Following
import Mathlib.Data.List.Perm.Subperm

/-!
Trails without links, and the links of a tree. Main statements: such a trail is looked up where it
ends (`Clean.walk_eq`), what stands one name further is seen for a link exactly if it is one
(`Clean.findLink_eq_ok_link_iff`), and no more distinct places hold links than are counted
(`length_le_countLinks`).
-/

namespace BuildScript.Files

/-- From a trail that only goes up one goes up further. -/
theorem Trail.up_dots (k : Nat) :
    Trail.up ⟨false, List.replicate k ".."⟩ = ⟨false, List.replicate (k + 1) ".."⟩ := by
  cases k with
  | zero => rfl
  | succ k =>
    have hlast : (List.replicate (k + 1) "..").getLast? = some ".." := by
      rw [List.replicate_succ', List.getLast?_concat]
    unfold Trail.up
    rw [hlast, List.replicate_succ' (n := k + 1)]
    rfl

namespace FileTree

variable {t : FileTree} {trail : Trail} {name : String} {names rest : List String}

/-! ## Trails without links -/

/-- A trail that goes up, if it does, before it goes down, and holds no links. -/
inductive Clean (t : FileTree) : Trail → Prop where
  | root : Clean t ⟨true, []⟩
  | dots (k : Nat) : Clean t ⟨false, List.replicate k ".."⟩
  | down {trail : Trail} {name : String} (h : Clean t trail) (hname : IsOwnName name)
      (hno : ∀ target, t.nodeAt? (t.spot (trail.down name)) ≠ some (.link target)) :
      Clean t (trail.down name)

theorem Clean.up (h : t.Clean trail) : t.Clean trail.up := by
  cases h with
  | root => exact .root
  | dots k =>
    rw [Trail.up_dots]
    exact .dots (k + 1)
  | @down trail name h hname hno =>
    have hup : (trail.down name).up = trail := by
      have hlast : (trail.down name).names.getLast? = some name := List.getLast?_concat
      unfold Trail.up
      rw [hlast]
      split
      · rename_i hnone
        cases hnone
      · rename_i hdots
        exact absurd (Option.some.inj hdots) hname.ne_up
      · unfold Trail.down
        rw [List.dropLast_concat]
    rw [hup]
    exact h

theorem Clean.ofLink (h : t.Clean trail) (target : String) : t.Clean (trail.ofLink target) := by
  unfold Trail.ofLink
  split
  · exact .root
  · exact h

/-- Where names end from a trail without links there are none. -/
theorem Follows.clean {n : Nat} {e : Trail} (h : t.Follows n trail names e) (htrail : t.Clean trail) :
    t.Clean e := by
  induction h with
  | nil => exact htrail
  | dot _ _ ih => exact ih htrail
  | up _ ih => exact ih htrail.up
  | down hown hno _ ih => exact ih (htrail.down hown hno)
  | link _ _ _ ih => exact ih (htrail.ofLink _)

theorem spot_dots_succ (t : FileTree) (k : Nat) :
    t.spot ⟨false, List.replicate (k + 1) ".."⟩ =
      (t.spot ⟨false, List.replicate k ".."⟩).dropLast := by
  show Path.foldParents (t.current ++ List.replicate (k + 1) "..") = _
  rw [List.replicate_succ', ← List.append_assoc, Path.foldParents_concat_up]
  rfl

theorem start_path (t : FileTree) (trail : Trail) :
    t.start trail.path = if trail.absolute then [] else t.current := by
  unfold start Trail.path
  cases trail.absolute <;> rfl

section Proper

variable (ht : t.Proper)

include ht

theorem Proper.ne_up_of_mem {here : List String} {n : Node} (h : t.nodeAt? here = some n) :
    ∀ name ∈ here, IsEntryName name := by
  induction here using List.reverseRecOn generalizing n with
  | nil => exact fun name hname => absurd hname List.not_mem_nil
  | append_singleton here last ih =>
    intro name hname
    obtain ⟨es, hes, -⟩ := dir_of_nodeAt?_concat h
    rcases List.mem_append.mp hname with hname | hname
    · exact ih hes name hname
    · rw [List.mem_singleton.mp hname]
      exact ht.isEntryName h

/-- From the current directory one only comes to directories by going up. -/
theorem Proper.dir_dots (k : Nat) :
    ∃ es, t.nodeAt? (t.spot ⟨false, List.replicate k ".."⟩) = some (.dir es) := by
  induction k with
  | zero =>
    obtain ⟨es, hes⟩ := ht.current
    have hup : ".." ∉ t.current := fun h => (ht.ne_up_of_mem hes _ h).ne_up rfl
    refine ⟨es, ?_⟩
    show t.nodeAt? (Path.foldParents (t.current ++ [])) = _
    rw [List.append_nil, Path.foldParents_eq_self hup, hes]
  | succ k ih =>
    obtain ⟨es, hes⟩ := ih
    rw [spot_dots_succ]
    exact dir_dropLast hes

theorem Proper.dir_root : ∃ es, t.nodeAt? [] = some (.dir es) := by
  obtain ⟨es, hes⟩ := ht.current
  cases hcur : t.current with
  | nil => exact ⟨es, hcur ▸ hes⟩
  | cons name rest =>
    rw [hcur] at hes
    exact dir_of_nodeAt?_append (a := []) hes (List.cons_ne_nil _ _)

/-- A trail without links does not end at one. -/
theorem Clean.not_link (h : t.Clean trail) (target : String) :
    t.nodeAt? (t.spot trail) ≠ some (.link target) := by
  cases h with
  | root =>
    obtain ⟨es, hes⟩ := ht.dir_root
    rw [spot_root, hes]
    exact nofun
  | dots k =>
    obtain ⟨es, hes⟩ := ht.dir_dots k
    rw [hes]
    exact nofun
  | down _ _ hno => exact hno target

/-- The lookup of a trail without links leads to the place at which it ends, if something is
there. -/
theorem Clean.walk_eq (h : t.Clean trail) {n : Node} (hn : t.nodeAt? (t.spot trail) = some n)
    (follow : Bool) (links : Nat) (rest : List String) :
    t.walk follow links (if trail.absolute then [] else t.current) (trail.names ++ rest) =
      t.walk follow links (t.spot trail) rest := by
  induction h generalizing n rest with
  | root => rfl
  | dots k =>
    clear hn
    induction k generalizing rest with
    | zero =>
      obtain ⟨es, hes⟩ := ht.current
      have hup : ".." ∉ t.current := fun h => (ht.ne_up_of_mem hes _ h).ne_up rfl
      show t.walk follow links t.current rest =
        t.walk follow links (Path.foldParents (t.current ++ [])) rest
      rw [List.append_nil, Path.foldParents_eq_self hup]
    | succ k ih =>
      obtain ⟨es, hes⟩ := ht.dir_dots k
      have hstep := ih (".." :: rest)
      rw [walk_up hes, ← spot_dots_succ] at hstep
      rw [← hstep]
      show t.walk follow links t.current (List.replicate (k + 1) ".." ++ rest) =
        t.walk follow links t.current (List.replicate k ".." ++ ".." :: rest)
      rw [List.replicate_succ', List.append_assoc, List.singleton_append]
  | @down trail name _ hname hno ih =>
    rw [spot_down t _ hname.ne_up] at hn ⊢
    obtain ⟨es, hes, hlookup⟩ := dir_of_nodeAt?_concat hn
    have hlink : ∀ target, n ≠ .link target := by
      rintro target rfl
      exact hno target (by rw [spot_down t _ hname.ne_up]; exact hn)
    have hstep := ih hes (name :: rest)
    rw [walk_down hes hname.ne_dot hname.ne_up (ht.isEntryName hn).short hlookup hlink] at hstep
    rw [← hstep]
    show t.walk follow links _ (trail.names ++ [name] ++ rest) = _
    rw [List.append_assoc]
    rfl

/-- The lookup fails if nothing is there, and not because of links. -/
theorem Clean.walk_error (h : t.Clean trail) (hn : t.nodeAt? (t.spot trail) = none)
    (follow : Bool) (links : Nat) (rest : List String) :
    ∃ e, e ≠ .tooManyLinks ∧
      t.walk follow links (if trail.absolute then [] else t.current) (trail.names ++ rest) =
        .error e := by
  induction h generalizing rest with
  | root =>
    obtain ⟨es, hes⟩ := ht.dir_root
    rw [spot_root, hes] at hn
    cases hn
  | dots k =>
    obtain ⟨es, hes⟩ := ht.dir_dots k
    rw [hes] at hn
    cases hn
  | @down trail name h hname hno ih =>
    rw [spot_down t _ hname.ne_up] at hn
    have hnames : (trail.down name).names ++ rest = trail.names ++ name :: rest :=
      List.append_assoc ..
    show ∃ e, _ ∧ t.walk follow links (if trail.absolute then [] else t.current) _ = _
    rw [hnames]
    cases habove : t.nodeAt? (t.spot trail) with
    | none => exact ih habove (name :: rest)
    | some n =>
      rw [h.walk_eq ht habove]
      cases n with
      | dir es =>
        rw [nodeAt?_concat habove] at hn
        cases hlong : tooLong name with
        | true => exact ⟨.nameTooLong, nofun, walk_tooLong habove hname.ne_dot hname.ne_up hlong⟩
        | false => exact ⟨.notFound, nofun, walk_missing habove hname.ne_dot hname.ne_up hlong hn⟩
      | file text =>
        exact ⟨.notDirectory, nofun, walk_notDirectory fun es hes => by
          rw [habove] at hes; cases hes⟩
      | link target => exact absurd habove (h.not_link ht target)

theorem Proper.clean_of_dir {here : List String} {es : List (String × Node)}
    (h : t.nodeAt? here = some (.dir es)) : t.Clean ⟨true, here⟩ ∧ t.spot ⟨true, here⟩ = here := by
  induction here using List.reverseRecOn generalizing es with
  | nil => exact ⟨.root, rfl⟩
  | append_singleton here name ih =>
    obtain ⟨es', hes', -⟩ := dir_of_nodeAt?_concat h
    obtain ⟨hclean, hspot⟩ := ih hes'
    have hname := (ht.isEntryName h).isOwnName
    have hdown : t.spot ((⟨true, here⟩ : Trail).down name) = here ++ [name] := by
      rw [spot_down t _ hname.ne_up, hspot]
    exact ⟨hclean.down hname fun target => by rw [hdown, h]; exact nofun, hdown⟩

/-- The place at which a trail without links ends is spelled without links. -/
theorem Clean.spelled (h : t.Clean trail) :
    t.Clean ⟨true, t.spot trail⟩ ∧ t.spot ⟨true, t.spot trail⟩ = t.spot trail := by
  induction h with
  | root => exact ⟨.root, rfl⟩
  | dots k =>
    obtain ⟨es, hes⟩ := ht.dir_dots k
    exact ht.clean_of_dir hes
  | @down trail name _ hname hno ih =>
    obtain ⟨hclean, hspot⟩ := ih
    have hdown : t.spot ((⟨true, t.spot trail⟩ : Trail).down name) = t.spot (trail.down name) := by
      rw [spot_down t _ hname.ne_up, spot_down t _ hname.ne_up, hspot]
    have hspelled := hclean.down hname (hdown ▸ hno)
    rw [spot_down t trail hname.ne_up]
    rw [spot_down t trail hname.ne_up] at hdown
    exact ⟨hspelled, hdown⟩

/-- A path to that place is never refused because of links. -/
theorem Clean.find_ne_tooManyLinks (h : t.Clean trail) :
    t.find ⟨.slash, t.spot trail⟩ ≠ .error .tooManyLinks := by
  obtain ⟨hclean, hspot⟩ := h.spelled ht
  intro hfind
  by_cases hlong : pathByteLimit ≤ (Path.mk .slash (t.spot trail)).text.utf8ByteSize
  · rw [find_of_error (locate_of_long hlong true)] at hfind
    cases hfind
  · have hlocate := locate_of_short (t := t) (Nat.lt_of_not_le hlong) true
    cases hn : t.nodeAt? (t.spot trail) with
    | none =>
      obtain ⟨e, hne, hwalk⟩ := hclean.walk_error ht (hspot.symm ▸ hn) true maxLinks []
      rw [List.append_nil] at hwalk
      rw [find_of_error (hlocate.trans hwalk)] at hfind
      exact hne (Except.error.inj hfind)
    | some n =>
      have hwalk := hclean.walk_eq ht (hspot.symm ▸ hn) true maxLinks []
      rw [List.append_nil, hspot, walk_nil] at hwalk
      rw [find_of_some (hlocate.trans hwalk) hn] at hfind
      cases hfind

/-- The lookup of one name more, a link not followed, finds what is there. -/
theorem Clean.walk_last (h : t.Clean trail) (hname : IsOwnName name) :
    (∃ n, t.nodeAt? (t.spot (trail.down name)) = some n ∧
        t.walk false maxLinks (if trail.absolute then [] else t.current) (trail.names ++ [name]) =
          .ok (t.spot (trail.down name))) ∨
      (t.nodeAt? (t.spot (trail.down name)) = none ∧
        ∃ e, t.walk false maxLinks (if trail.absolute then [] else t.current)
          (trail.names ++ [name]) = .error e) := by
  cases hn : t.nodeAt? (t.spot (trail.down name)) with
  | some n =>
    refine .inl ⟨n, rfl, ?_⟩
    rw [spot_down t _ hname.ne_up] at hn ⊢
    obtain ⟨es, hes, hlookup⟩ := dir_of_nodeAt?_concat hn
    have hshort := (ht.isEntryName hn).short
    rw [h.walk_eq ht hes]
    by_cases hlink : ∃ target, n = .link target
    · obtain ⟨target, rfl⟩ := hlink
      exact walk_lastLink hes hname.ne_dot hname.ne_up hshort hlookup
    · rw [walk_down hes hname.ne_dot hname.ne_up hshort hlookup fun target htarget =>
        hlink ⟨target, htarget⟩]
      exact walk_nil
  | none =>
    refine .inr ⟨rfl, ?_⟩
    -- what is not there is no link, so the longer trail has none either
    have hdown : t.Clean (trail.down name) := h.down hname fun target => by rw [hn]; exact nofun
    obtain ⟨e, -, he⟩ := hdown.walk_error ht hn false maxLinks []
    rw [List.append_nil] at he
    exact ⟨e, he⟩

/-- A link is seen for what it is, if its path is not too long to be looked at. -/
theorem Clean.findLink_eq_ok_link_iff (h : t.Clean trail) (hname : IsOwnName name)
    (hfits : (trail.down name).path.text.utf8ByteSize < pathByteLimit) (target : String) :
    t.findLink (trail.down name).path = .ok (.link target) ↔
      t.nodeAt? (t.spot (trail.down name)) = some (.link target) := by
  have hlocate := locate_of_short (t := t) hfits false
  rw [start_path] at hlocate
  rcases h.walk_last ht hname with ⟨n, hn, hwalk⟩ | ⟨hn, e, hwalk⟩
  · rw [findLink_of_some (hlocate.trans hwalk) hn, hn, Except.ok.injEq, Option.some.injEq]
  · rw [findLink_of_error (hlocate.trans hwalk), hn]
    exact iff_of_false nofun nofun

/-- What is no link is not taken for one, however long its path is. -/
theorem Clean.findLink_ne_ok_link (h : t.Clean trail) (hname : IsOwnName name)
    (hno : ∀ target, t.nodeAt? (t.spot (trail.down name)) ≠ some (.link target)) (target : String) :
    t.findLink (trail.down name).path ≠ .ok (.link target) := by
  by_cases hlong : pathByteLimit ≤ (trail.down name).path.text.utf8ByteSize
  · rw [findLink_of_error (locate_of_long hlong false)]
    exact nofun
  · intro hlink
    exact hno target ((h.findLink_eq_ok_link_iff ht hname (Nat.lt_of_not_le hlong) target).mp hlink)

end Proper

end FileTree

/-! ## The links of a tree -/

mutual

/-- The places of the links among a node at `here` and those below it. -/
def Node.linkPlaces (here : List String) : Node → List (List String)
  | .file _ => []
  | .link _ => [here]
  | .dir es => linkPlacesIn here es

/-- The places of the links among the entries of a directory at `here` and below them. -/
def linkPlacesIn (here : List String) : List (String × Node) → List (List String)
  | [] => []
  | (name, n) :: rest => n.linkPlaces (here ++ [name]) ++ linkPlacesIn here rest

end

mutual

theorem Node.length_linkPlaces (here : List String) :
    (n : Node) → (n.linkPlaces here).length = n.countLinks
  | .file _ => by rw [Node.linkPlaces, Node.countLinks]; rfl
  | .link _ => by rw [Node.linkPlaces, Node.countLinks]; rfl
  | .dir es => by rw [Node.linkPlaces, Node.countLinks, length_linkPlacesIn here es]

theorem length_linkPlacesIn (here : List String) :
    (es : List (String × Node)) → (linkPlacesIn here es).length = countLinksIn es
  | [] => by rw [linkPlacesIn, countLinksIn]; rfl
  | (name, n) :: rest => by
    rw [linkPlacesIn, countLinksIn, List.length_append, n.length_linkPlaces,
      length_linkPlacesIn here rest]

end

theorem mem_linkPlacesIn {here : List String} {es : List (String × Node)} {name : String} {n : Node}
    (hn : (name, n) ∈ es) {place : List String} (h : place ∈ n.linkPlaces (here ++ [name])) :
    place ∈ linkPlacesIn here es := by
  induction es with
  | nil => cases hn
  | cons e rest ih =>
    obtain ⟨name', n'⟩ := e
    rw [linkPlacesIn, List.mem_append]
    rcases List.mem_cons.mp hn with heq | hn
    · obtain ⟨rfl, rfl⟩ := Prod.mk.inj heq
      exact .inl h
    · exact .inr (ih hn)

theorem Node.mem_linkPlaces {n : Node} {rel : List String} {target : String}
    (h : n.below? rel = some (.link target)) (here : List String) :
    here ++ rel ∈ n.linkPlaces here := by
  induction rel generalizing n here with
  | nil =>
    obtain rfl := Option.some.inj h
    rw [Node.linkPlaces, List.append_nil]
    exact List.mem_singleton_self here
  | cons name rest ih =>
    rw [Node.below?, Option.bind_eq_some_iff] at h
    obtain ⟨c, hc, hrest⟩ := h
    obtain ⟨es, rfl, hlookup⟩ := Node.dir_of_child? hc
    obtain ⟨l₁, l₂, rfl, -⟩ := List.lookup_eq_some_iff.mp hlookup
    have hplace := ih hrest (here ++ [name])
    rw [List.append_assoc, List.singleton_append] at hplace
    rw [Node.linkPlaces]
    exact mem_linkPlacesIn (List.mem_append_right _ List.mem_cons_self) hplace

namespace FileTree

variable {t : FileTree} {trail : Trail} {name : String} {names rest : List String}

/-- There are at most as many distinct places of links as there are links. -/
theorem length_le_countLinks {places : List (List String)} (hnodup : places.Nodup)
    (h : ∀ place ∈ places, ∃ target, t.nodeAt? place = some (.link target)) :
    places.length ≤ t.root.countLinks := by
  have hsub : places ⊆ t.root.linkPlaces [] := by
    intro place hplace
    obtain ⟨target, htarget⟩ := h place hplace
    exact Node.mem_linkPlaces htarget []
  rw [← Node.length_linkPlaces [] t.root]
  exact (List.subperm_of_subset hnodup hsub).length_le

/-! ## One step of a trace -/

section Step

variable {fuel : Nat} {seen : List (Trail × Option Trail)}

theorem trace_nil : t.trace fuel seen trail [] = .ok ⟨trail, seen, true⟩ := by
  rw [trace]

theorem trace_dot (h : name = "" ∨ name = ".") :
    t.trace fuel seen trail (name :: rest) = t.trace fuel seen trail rest := by
  rw [trace]
  rcases h with rfl | rfl <;> rfl

theorem trace_up : t.trace fuel seen trail (".." :: rest) = t.trace fuel seen trail.up rest := by
  rw [trace]
  rfl

theorem trace_down (hname : IsOwnName name) (hnul : hasNul (trail.down name).path = false)
    (hno : ∀ target, t.findLink (trail.down name).path ≠ .ok (.link target)) :
    t.trace fuel seen trail (name :: rest) = t.trace fuel seen (trail.down name) rest := by
  rw [trace]
  dsimp only
  rw [if_neg (by simp [hname.ne_empty, hname.ne_dot]), if_neg hname.ne_up, hnul,
    if_neg Bool.false_ne_true]
  split
  · rename_i target hlink
    exact absurd hlink (hno target)
  · rfl

theorem trace_known (hname : IsOwnName name) (hnul : hasNul (trail.down name).path = false)
    {target : String} (hlink : t.findLink (trail.down name).path = .ok (.link target))
    {resolved : Trail} (hseen : seen.lookup (trail.down name) = some (some resolved)) :
    t.trace fuel seen trail (name :: rest) = t.trace fuel seen resolved rest := by
  rw [trace]
  dsimp only
  rw [if_neg (by simp [hname.ne_empty, hname.ne_dot]), if_neg hname.ne_up, hnul,
    if_neg Bool.false_ne_true]
  simp only [hlink, hseen]

theorem trace_new (hname : IsOwnName name) (hnul : hasNul (trail.down name).path = false)
    {target : String} (hlink : t.findLink (trail.down name).path = .ok (.link target))
    (hseen : seen.lookup (trail.down name) = none) {mid : Trail}
    {seen' : List (Trail × Option Trail)}
    (hinner : t.trace fuel ((trail.down name, none) :: seen) (trail.ofLink target)
      (Path.pieces target) = .ok ⟨mid, seen', true⟩) :
    t.trace (fuel + 1) seen trail (name :: rest) =
      t.trace (fuel + 1) ((trail.down name, some mid) :: seen') mid rest := by
  rw [trace]
  dsimp only
  rw [if_neg (by simp [hname.ne_empty, hname.ne_dot]), if_neg hname.ne_up, hnul,
    if_neg Bool.false_ne_true]
  simp only [hlink, hseen]
  unfold Trail.ofLink at hinner
  rw [hinner]
  rfl

end Step

end FileTree

end BuildScript.Files
