import BuildScript.Proofs.Files.Tracing

/-!
Lookups and trails agree. Main statements: where a lookup comes to a place, following the same names
ends there (`FileTree.exists_follows_of_walk`), so a path that leads somewhere has a resolved path
(`FileTree.resolve_of_locate`), and below a directory names that are there are followed as they stand
(`FileTree.exists_follows_below`).
-/

namespace BuildScript.Files

namespace FileTree

variable {t : FileTree} {trail mid e : Trail} {n m : Nat} {a b names rest : List String}
  {target : String}

/-! ## Names in a row -/

namespace Follows

/-- What ends where other names begin is followed by them. -/
theorem append (h : t.Follows n trail a mid) (h' : t.Follows m mid b e) :
    t.Follows (n + m) trail (a ++ b) e := by
  induction h with
  | nil => rwa [Nat.zero_add]
  | dot hname _ ih =>
    rw [Nat.add_right_comm]
    exact .dot hname (ih h')
  | up _ ih =>
    rw [Nat.add_right_comm]
    exact .up (ih h')
  | down hown hno _ ih =>
    rw [Nat.add_right_comm]
    exact .down hown hno (ih h')
  | link hown hlink _ ih =>
    have hrest := ih h'
    rw [List.append_assoc] at hrest
    rw [Nat.add_right_comm]
    exact .link hown hlink hrest

/-- Empty names and dots may stand between the others. -/
theorem of_filter {keep : String → Bool}
    (hkeep : ∀ name, keep name = false → name = "" ∨ name = ".")
    (h : t.Follows n trail (names.filter keep) e) : ∃ m, t.Follows m trail names e := by
  induction names generalizing n trail with
  | nil => exact ⟨n, h⟩
  | cons name rest ih =>
    cases hname : keep name with
    | false =>
      rw [List.filter_cons_of_neg (by rw [hname]; exact Bool.false_ne_true)] at h
      obtain ⟨m, hrest⟩ := ih h
      exact ⟨m + 1, .dot (hkeep name hname) hrest⟩
    | true =>
      rw [List.filter_cons_of_pos hname, ← List.singleton_append] at h
      obtain ⟨n₁, n₂, mid, hfirst, hfiltered, -⟩ := h.split
      obtain ⟨m, hrest⟩ := ih hfiltered
      exact ⟨n₁ + m, hfirst.append hrest⟩

/-- The steps of a target stand for its pieces. -/
theorem of_steps (h : t.Follows n trail (steps target ++ rest) e) :
    ∃ m, t.Follows m trail (Path.pieces target ++ rest) e := by
  obtain ⟨n₁, n₂, mid, hsteps, hrest, -⟩ := h.split
  unfold steps at hsteps
  obtain ⟨k₁, k₂, mid', hnames, hdot, -⟩ := hsteps.split
  -- a slash at the end leads no further
  have hsame : mid' = mid := by
    split at hdot
    · exact ((Follows.dot (.inr rfl) (.nil mid')).unique hdot).2
    · exact ((Follows.nil mid').unique hdot).2
  obtain ⟨k, hpieces⟩ := hnames.of_filter fun name hname => .inl (by simpa using hname)
  exact ⟨k + n₂, (hsame ▸ hpieces).append hrest⟩

end Follows

theorem Fits.front (h : t.Fits trail (a ++ b)) : t.Fits trail a :=
  fun q target hq => h q target (hq.append b)

section Proper

variable (ht : t.Proper)

include ht

/-! ## Lookups -/

/-- Where a lookup comes to a place, following the names ends there. -/
theorem exists_follows_of_walk {links : Nat} {here there : List String}
    (h : t.walk true links here names = .ok there) (hspot : t.spot trail = here) :
    ∃ n e, t.Follows n trail names e ∧ t.spot e = there := by
  induction links, here, names using walk.induct t true generalizing trail with
  | case1 links here =>
    rw [walk_nil, Except.ok.injEq] at h
    exact ⟨0, trail, .nil trail, hspot.trans h⟩
  | case2 links here rest es hes ih =>
    rw [walk_dot hes] at h
    obtain ⟨n, e, hrest, he⟩ := ih h hspot
    exact ⟨n + 1, e, .dot (.inr rfl) hrest, he⟩
  | case3 links here rest es hes _ ih =>
    rw [walk_up hes] at h
    obtain ⟨n, e, hrest, he⟩ := ih h (by rw [spot_up, hspot])
    exact ⟨n + 1, e, .up hrest, he⟩
  | case4 links here name rest es hes hdot hup hlong =>
    rw [walk_tooLong hes hdot hup hlong] at h
    cases h
  | case5 links here name rest es hes hdot hup hshort hn =>
    rw [walk_missing hes hdot hup (eq_false_of_ne_true hshort) hn] at h
    cases h
  | case6 links here name rest es hes hdot hup hshort target hn hlast =>
    rw [Bool.not_true, Bool.and_false] at hlast
    cases hlast
  | case7 here name rest es hes hdot hup hshort target hn hfollow =>
    rw [walk_linkRefused hes hdot hup (eq_false_of_ne_true hshort) hn hfollow] at h
    cases h
  | case8 here name rest es hes hdot hup hshort target hn hfollow links ih =>
    rw [walk_link hes hdot hup (eq_false_of_ne_true hshort) hn hfollow] at h
    have hstart : t.spot (trail.ofLink target) = if target.startsWith "/" then [] else here := by
      unfold Trail.ofLink
      split
      · exact spot_root t
      · exact hspot
    obtain ⟨n, e, hsteps, he⟩ := ih h hstart
    obtain ⟨m, hpieces⟩ := hsteps.of_steps
    rw [← nodeAt?_concat hes] at hn
    have hlink : t.nodeAt? (t.spot (trail.down name)) = some (.link target) := by
      rw [spot_down t _ hup, hspot, hn]
    exact ⟨m + 1, e, .link (ht.isEntryName hn).isOwnName hlink hpieces, he⟩
  | case9 links here name rest es hes hdot hup hshort n hlink hn ih =>
    rw [walk_down hes hdot hup (eq_false_of_ne_true hshort) hn hlink] at h
    rw [← nodeAt?_concat hes] at hn
    have hdown : t.spot (trail.down name) = here ++ [name] := by rw [spot_down t _ hup, hspot]
    obtain ⟨k, e, hrest, he⟩ := ih h hdown
    refine ⟨k + 1, e, .down (ht.isEntryName hn).isOwnName (fun target htarget => ?_) hrest, he⟩
    rw [hdown, hn] at htarget
    exact hlink target (Option.some.inj htarget)
  | case10 links here name rest hno =>
    rw [walk_notDirectory fun es hes => hno es hes] at h
    cases h

/-- A path is followed from where its lookup starts. -/
theorem spot_start (p : Path) : t.spot ⟨p.isAbsolute, []⟩ = t.start p := by
  unfold start
  cases p.isAbsolute with
  | true => rfl
  | false =>
    obtain ⟨es, hes⟩ := ht.current
    have hup : ".." ∉ t.current := fun h => (ht.ne_up_of_mem hes _ h).ne_up rfl
    show Path.foldParents (t.current ++ []) = t.current
    rw [List.append_nil, Path.foldParents_eq_self hup]

theorem exists_follows_of_locate {p : Path} {here : List String}
    (h : t.locate true p = .ok here) :
    ∃ n e, t.Follows n ⟨p.isAbsolute, []⟩ p.names e ∧ t.spot e = here :=
  exists_follows_of_walk ht (walk_of_locate h) (spot_start ht p)

/-- A path that leads somewhere has that place as its resolved path. -/
theorem resolve_of_locate {p : Path} {here : List String} (h : t.locate true p = .ok here)
    (hnul : NoNul p.names) (hfits : t.Fits ⟨p.isAbsolute, []⟩ p.names) :
    t.resolve p = .ok ⟨.slash, here⟩ := by
  obtain ⟨n, e, hfollows, rfl⟩ := exists_follows_of_locate ht h
  exact resolve_of_resolvesTo ht ⟨n, e, hfollows, rfl⟩ hnul hfits

/-! ## Below a directory -/

/-- Names that lead from one directory to another below it are followed as they stand. -/
theorem exists_follows_below {es : List (String × Node)}
    (h : t.nodeAt? (t.spot trail ++ names) = some (.dir es)) :
    ∃ n e, t.Follows n trail names e ∧ t.spot e = t.spot trail ++ names := by
  induction names generalizing trail with
  | nil => exact ⟨0, trail, .nil trail, (List.append_nil _).symm⟩
  | cons name rest ih =>
    have hown := (ht.ne_up_of_mem h name (List.mem_append_right _ List.mem_cons_self)).isOwnName
    have hdown : t.spot trail ++ name :: rest = t.spot (trail.down name) ++ rest := by
      rw [spot_down t _ hown.ne_up, List.append_assoc, List.singleton_append]
    rw [hdown] at h ⊢
    obtain ⟨es', hes'⟩ : ∃ es', t.nodeAt? (t.spot (trail.down name)) = some (.dir es') := by
      cases rest with
      | nil =>
        rw [List.append_nil] at h
        exact ⟨es, h⟩
      | cons next rest => exact dir_of_nodeAt?_append h (List.cons_ne_nil _ _)
    obtain ⟨n, e, hrest, he⟩ := ih h
    exact ⟨n + 1, e, .down hown (by rw [hes']; exact nofun) hrest, he⟩

end Proper

end FileTree

end BuildScript.Files
