import BuildScript.Proofs.Files.Placing

/-!
Files that are opened to be written. Where there is a file, it is opened where the lookup of its path
ends (`FileTree.walkNew_of_walk`); else there is room for it where it is made
(`FileTree.locateNew_cases`). What is opened is found by the same path
(`FileTree.openToAdd_found`). Main statements: what can be opened can be made sure of first and then be
opened (`FileTree.exists_touch_of_openToAdd`), and what cannot be opened fails at one of the two
(`FileTree.touch_of_openToAdd_error`).
-/

namespace BuildScript.Files.FileTree

variable {t t' : FileTree} {here names : List String} {es : List (String × Node)} {name : String}

/-! ## The place of a file that is opened -/

/-- The step that a slash behind the last name asks for. -/
def slashed (slash : Bool) : List String := if slash then ["."] else []

theorem steps_eq (s : String) : steps s = targetNames s ++ slashed (s.endsWith "/") := rfl

section Walk

variable {slash : Bool} {links : Nat} {rest there : List String}

theorem walkNew_nil : t.walkNew slash links here [] = .ok here := by
  rw [walkNew]

theorem walkNew_dot (h : t.nodeAt? here = some (.dir es)) :
    t.walkNew slash links here ("." :: rest) = t.walkNew slash links here rest := by
  rw [walkNew, h]
  rfl

theorem walkNew_up (h : t.nodeAt? here = some (.dir es)) :
    t.walkNew slash links here (".." :: rest) = t.walkNew slash links here.dropLast rest := by
  rw [walkNew, h]
  rfl

theorem walkNew_notDirectory (h : ∀ es, t.nodeAt? here ≠ some (.dir es)) :
    t.walkNew slash links here (name :: rest) = .error .notDirectory := by
  rw [walkNew]
  split
  · rename_i es hes
    exact absurd hes (h es)
  · rfl

theorem walkNew_down (h : t.nodeAt? here = some (.dir es)) (hdot : name ≠ ".") (hup : name ≠ "..")
    (hslash : ¬(rest.isEmpty && slash) = true) (hshort : tooLong name = false) {n : Node}
    (hn : es.lookup name = some n) (hlink : ∀ target, n ≠ .link target) :
    t.walkNew slash links here (name :: rest) = t.walkNew slash links (here ++ [name]) rest := by
  rw [walkNew, h]
  dsimp only
  rw [if_neg hdot, if_neg hup, if_neg hslash, hshort, if_neg Bool.false_ne_true, hn]
  cases n with
  | link target => exact absurd rfl (hlink target)
  | file text => rfl
  | dir es' => rfl

theorem walkNew_lastLink (h : t.nodeAt? here = some (.dir es)) (hdot : name ≠ ".")
    (hup : name ≠ "..") (hshort : tooLong name = false) {target : String}
    (hn : es.lookup name = some (.link target)) :
    t.walkNew false (links + 1) here [name] =
      t.walkNew (target.endsWith "/") links (linkStart here target) (targetNames target) := by
  rw [walkNew, h]
  dsimp only
  rw [if_neg hdot, if_neg hup, Bool.and_false, if_neg Bool.false_ne_true, hshort,
    if_neg Bool.false_ne_true, hn]
  rfl

theorem walkNew_link (h : t.nodeAt? here = some (.dir es)) (hdot : name ≠ ".") (hup : name ≠ "..")
    (hrest : ¬rest.isEmpty = true) (hshort : tooLong name = false) {target : String}
    (hn : es.lookup name = some (.link target)) :
    t.walkNew slash (links + 1) here (name :: rest) =
      t.walkNew slash links (linkStart here target) (steps target ++ rest) := by
  rw [walkNew, h]
  dsimp only
  rw [if_neg hdot, if_neg hup, eq_false_of_ne_true hrest, Bool.false_and, if_neg Bool.false_ne_true,
    hshort, if_neg Bool.false_ne_true, hn]
  rfl

theorem walkNew_new (h : t.nodeAt? here = some (.dir es)) (hdot : name ≠ ".") (hup : name ≠ "..")
    (hshort : tooLong name = false) (hn : es.lookup name = none) :
    t.walkNew false links here [name] = .ok (here ++ [name]) := by
  rw [walkNew, h]
  dsimp only
  rw [if_neg hdot, if_neg hup, Bool.and_false, if_neg Bool.false_ne_true, hshort,
    if_neg Bool.false_ne_true, hn]
  rfl

theorem walkNew_slash (h : t.nodeAt? here = some (.dir es)) (hdot : name ≠ ".") (hup : name ≠ "..") :
    t.walkNew true links here [name] = .error .isDirectory := by
  rw [walkNew, h]
  dsimp only
  rw [if_neg hdot, if_neg hup]
  rfl

theorem walkNew_tooLong (h : t.nodeAt? here = some (.dir es)) (hdot : name ≠ ".")
    (hup : name ≠ "..") (hslash : ¬(rest.isEmpty && slash) = true) (hlong : tooLong name = true) :
    t.walkNew slash links here (name :: rest) = .error .nameTooLong := by
  rw [walkNew, h]
  dsimp only
  rw [if_neg hdot, if_neg hup, if_neg hslash, if_pos hlong]

theorem walkNew_missing (h : t.nodeAt? here = some (.dir es)) (hdot : name ≠ ".")
    (hup : name ≠ "..") (hrest : ¬rest.isEmpty = true) (hshort : tooLong name = false)
    (hn : es.lookup name = none) :
    t.walkNew slash links here (name :: rest) = .error .notFound := by
  rw [walkNew, h]
  dsimp only
  rw [if_neg hdot, if_neg hup, eq_false_of_ne_true hrest, Bool.false_and, if_neg Bool.false_ne_true,
    hshort, if_neg Bool.false_ne_true, hn]
  rfl

theorem walkNew_linkRefused (h : t.nodeAt? here = some (.dir es)) (hdot : name ≠ ".")
    (hup : name ≠ "..") (hslash : ¬(rest.isEmpty && slash) = true) (hshort : tooLong name = false)
    {target : String} (hn : es.lookup name = some (.link target)) :
    t.walkNew slash 0 here (name :: rest) = .error .tooManyLinks := by
  rw [walkNew, h]
  dsimp only
  rw [if_neg hdot, if_neg hup, if_neg hslash, hshort, if_neg Bool.false_ne_true, hn]

end Walk

/-- Links are followed on the way to a name behind others, whatever becomes of the last. -/
theorem not_isEmpty_and_false (rest : List String) : ¬(rest.isEmpty && !true) = true := by
  rw [Bool.not_true, Bool.and_false]
  exact Bool.false_ne_true

/-- A name that is no last one with a slash, and is a last one, has no slash. -/
theorem last_without_slash {rest : List String} {slash : Bool}
    (hslash : ¬(rest.isEmpty && slash) = true) (hrest : rest.isEmpty = true) :
    rest = [] ∧ slash = false := by
  rw [hrest, Bool.true_and] at hslash
  exact ⟨List.isEmpty_iff.mp hrest, eq_false_of_ne_true hslash⟩

/-- What stands in front of names that are looked up is looked up itself. -/
theorem exists_walk_front {links : Nat} {a b there : List String}
    (h : t.walk true links here (a ++ b) = .ok there) :
    ∃ left mid, t.walk true links here a = .ok mid ∧ t.walk true left mid b = .ok there := by
  induction links, here, a using walk.induct t true with
  | case1 links here => exact ⟨links, here, walk_nil, h⟩
  | case2 links here rest es hes ih =>
    rw [List.cons_append, walk_dot hes] at h
    rw [walk_dot hes]
    exact ih h
  | case3 links here rest es hes _ ih =>
    rw [List.cons_append, walk_up hes] at h
    rw [walk_up hes]
    exact ih h
  | case4 links here name rest es hes hdot hup hlong =>
    rw [List.cons_append, walk_tooLong hes hdot hup hlong] at h
    cases h
  | case5 links here name rest es hes hdot hup hshort hn =>
    rw [List.cons_append, walk_missing hes hdot hup (eq_false_of_ne_true hshort) hn] at h
    cases h
  | case6 links here name rest es hes hdot hup hshort target hn hlast =>
    exact absurd hlast (not_isEmpty_and_false rest)
  | case7 here name rest es hes hdot hup hshort target hn hfollow =>
    rw [List.cons_append, walk_linkRefused hes hdot hup (eq_false_of_ne_true hshort) hn
      (not_isEmpty_and_false _)] at h
    cases h
  | case8 here name rest es hes hdot hup hshort target hn hfollow links ih =>
    have hlen := eq_false_of_ne_true hshort
    rw [List.cons_append, walk_link hes hdot hup hlen hn (not_isEmpty_and_false _),
      ← List.append_assoc] at h
    rw [walk_link hes hdot hup hlen hn hfollow]
    exact ih h
  | case9 links here name rest es hes hdot hup hshort n hlink hn ih =>
    have hlen := eq_false_of_ne_true hshort
    rw [List.cons_append, walk_down hes hdot hup hlen hn hlink] at h
    rw [walk_down hes hdot hup hlen hn hlink]
    exact ih h
  | case10 links here name rest hno =>
    rw [List.cons_append, walk_notDirectory fun es hes => hno es hes] at h
    cases h

/-- Only a directory is looked up with a slash behind its name. -/
theorem walk_slashed {links : Nat} {slash : Bool} {there : List String}
    (h : t.walk true links here (slashed slash) = .ok there) :
    here = there ∧ (slash = true → ∃ es, t.nodeAt? there = some (.dir es)) := by
  cases slash with
  | false => exact ⟨Except.ok.inj (walk_nil.symm.trans h), nofun⟩
  | true =>
    by_cases hdir : ∃ es, t.nodeAt? here = some (.dir es)
    · obtain ⟨es, hes⟩ := hdir
      have hhere : t.walk true links here (slashed true) = .ok here := (walk_dot hes).trans walk_nil
      obtain rfl := Except.ok.inj (hhere.symm.trans h)
      exact ⟨rfl, fun _ => ⟨es, hes⟩⟩
    · have hno : ∀ es, t.nodeAt? here ≠ some (.dir es) := fun es hes => hdir ⟨es, hes⟩
      cases (walk_notDirectory hno).symm.trans h

/-- A file is opened where the lookup of its path ends. What has a slash behind its name cannot be
opened; it is a directory. -/
theorem walkNew_of_walk {slash : Bool} {links : Nat} {there : List String}
    (h : t.walk true links here (names ++ slashed slash) = .ok there) :
    t.walkNew slash links here names = .ok there ∨
      t.walkNew slash links here names = .error .isDirectory ∧
        ∃ es, t.nodeAt? there = some (.dir es) := by
  induction slash, links, here, names using walkNew.induct t with
  | case1 slash links here =>
    obtain ⟨rfl, -⟩ := walk_slashed h
    exact .inl walkNew_nil
  | case2 slash links here rest es hes ih =>
    rw [List.cons_append, walk_dot hes] at h
    rw [walkNew_dot hes]
    exact ih h
  | case3 slash links here rest es hes _ ih =>
    rw [List.cons_append, walk_up hes] at h
    rw [walkNew_up hes]
    exact ih h
  | case4 slash links here name rest es hes hdot hup hslash =>
    rw [Bool.and_eq_true, List.isEmpty_iff] at hslash
    obtain ⟨rfl, rfl⟩ := hslash
    obtain ⟨left, mid, -, hend⟩ := exists_walk_front h
    exact .inr ⟨walkNew_slash hes hdot hup, (walk_slashed hend).2 rfl⟩
  | case5 slash links here name rest es hes hdot hup hslash hlong =>
    rw [List.cons_append, walk_tooLong hes hdot hup hlong] at h
    cases h
  | case6 slash links here name rest es hes hdot hup hslash hshort hn hrest =>
    rw [List.cons_append, walk_missing hes hdot hup (eq_false_of_ne_true hshort) hn] at h
    cases h
  | case7 slash links here name rest es hes hdot hup hslash hshort hn hrest =>
    rw [List.cons_append, walk_missing hes hdot hup (eq_false_of_ne_true hshort) hn] at h
    cases h
  | case8 slash here name rest es hes hdot hup hslash hshort target hn =>
    rw [List.cons_append, walk_linkRefused hes hdot hup (eq_false_of_ne_true hshort) hn
      (not_isEmpty_and_false _)] at h
    cases h
  | case9 slash here name rest es hes hdot hup hslash hshort target hn links hrest ih =>
    have hlen := eq_false_of_ne_true hshort
    obtain ⟨rfl, rfl⟩ := last_without_slash hslash hrest
    rw [List.cons_append, walk_link hes hdot hup hlen hn (not_isEmpty_and_false _)] at h
    rw [walkNew_lastLink hes hdot hup hlen hn]
    refine ih ?_
    rw [← steps_eq, ← List.append_nil (steps target)]
    exact h
  | case10 slash here name rest es hes hdot hup hslash hshort target hn links hrest ih =>
    have hlen := eq_false_of_ne_true hshort
    rw [List.cons_append, walk_link hes hdot hup hlen hn (not_isEmpty_and_false _),
      ← List.append_assoc] at h
    rw [walkNew_link hes hdot hup hrest hlen hn]
    exact ih h
  | case11 slash links here name rest es hes hdot hup hslash hshort n hlink hn ih =>
    have hlen := eq_false_of_ne_true hshort
    rw [List.cons_append, walk_down hes hdot hup hlen hn hlink] at h
    rw [walkNew_down hes hdot hup hslash hlen hn hlink]
    exact ih h
  | case12 slash links here name rest hno =>
    rw [List.cons_append, walk_notDirectory fun es hes => hno es hes] at h
    cases h

theorem exists_dir_linkStart (h : t.nodeAt? here = some (.dir es)) (target : String) :
    ∃ es, t.nodeAt? (linkStart here target) = some (.dir es) := by
  unfold linkStart
  split
  · cases here with
    | nil => exact ⟨es, h⟩
    | cons k rest => exact dir_of_nodeAt?_append (a := []) h (List.cons_ne_nil k rest)
  · exact ⟨es, h⟩

/-- There is room for a new entry: its directory is there, and has no entry of its name. -/
def Vacant (t : FileTree) (place : List String) : Prop :=
  ∃ dir name es, place = dir ++ [name] ∧ t.nodeAt? dir = some (.dir es) ∧ es.lookup name = none

theorem Vacant.nodeAt? {place : List String} (h : t.Vacant place) : t.nodeAt? place = none := by
  obtain ⟨dir, name, es, rfl, hes, hnone⟩ := h
  rw [nodeAt?_concat hes, hnone]

/-- Where a file is to be opened the lookup of its path ends, or there is room for it. -/
theorem walkNew_cases {slash : Bool} {links : Nat} {there : List String}
    (h : t.walkNew slash links here names = .ok there) (hhere : ∃ n, t.nodeAt? here = some n)
    (hdir : slash = true → ∃ es, t.nodeAt? here = some (.dir es)) :
    (∃ n, t.nodeAt? there = some n ∧ t.walk true links here (names ++ slashed slash) = .ok there) ∨
      t.Vacant there := by
  induction slash, links, here, names using walkNew.induct t with
  | case1 slash links here =>
    rw [walkNew_nil, Except.ok.injEq] at h
    subst h
    obtain ⟨n, hn⟩ := hhere
    refine .inl ⟨n, hn, ?_⟩
    cases slash with
    | false => exact walk_nil
    | true =>
      obtain ⟨es, hes⟩ := hdir rfl
      exact (walk_dot hes).trans walk_nil
  | case2 slash links here rest es hes ih =>
    rw [walkNew_dot hes] at h
    rw [List.cons_append, walk_dot hes]
    exact ih h hhere hdir
  | case3 slash links here rest es hes _ ih =>
    obtain ⟨es', hup⟩ := dir_dropLast hes
    rw [walkNew_up hes] at h
    rw [List.cons_append, walk_up hes]
    exact ih h ⟨_, hup⟩ fun _ => ⟨es', hup⟩
  | case4 slash links here name rest es hes hdot hup hslash =>
    rw [Bool.and_eq_true, List.isEmpty_iff] at hslash
    obtain ⟨rfl, rfl⟩ := hslash
    rw [walkNew_slash hes hdot hup] at h
    cases h
  | case5 slash links here name rest es hes hdot hup hslash hlong =>
    rw [walkNew_tooLong hes hdot hup hslash hlong] at h
    cases h
  | case6 slash links here name rest es hes hdot hup hslash hshort hnone hrest =>
    obtain ⟨rfl, rfl⟩ := last_without_slash hslash hrest
    rw [walkNew_new hes hdot hup (eq_false_of_ne_true hshort) hnone, Except.ok.injEq] at h
    exact .inr ⟨here, name, es, h.symm, hes, hnone⟩
  | case7 slash links here name rest es hes hdot hup hslash hshort hnone hrest =>
    rw [walkNew_missing hes hdot hup hrest (eq_false_of_ne_true hshort) hnone] at h
    cases h
  | case8 slash here name rest es hes hdot hup hslash hshort target hlink =>
    rw [walkNew_linkRefused hes hdot hup hslash (eq_false_of_ne_true hshort) hlink] at h
    cases h
  | case9 slash here name rest es hes hdot hup hslash hshort target hlink links hrest ih =>
    have hlen := eq_false_of_ne_true hshort
    obtain ⟨es', hstart⟩ := exists_dir_linkStart hes target
    obtain ⟨rfl, rfl⟩ := last_without_slash hslash hrest
    rw [walkNew_lastLink hes hdot hup hlen hlink] at h
    have hwalk := ih h ⟨_, hstart⟩ fun _ => ⟨es', hstart⟩
    rw [← steps_eq, ← List.append_nil (steps target)] at hwalk
    rw [List.cons_append, walk_link hes hdot hup hlen hlink (not_isEmpty_and_false _)]
    exact hwalk
  | case10 slash here name rest es hes hdot hup hslash hshort target hlink links hrest ih =>
    have hlen := eq_false_of_ne_true hshort
    obtain ⟨es', hstart⟩ := exists_dir_linkStart hes target
    rw [walkNew_link hes hdot hup hrest hlen hlink] at h
    have hwalk := ih h ⟨_, hstart⟩ fun _ => ⟨es', hstart⟩
    rw [List.append_assoc] at hwalk
    rw [List.cons_append, walk_link hes hdot hup hlen hlink (not_isEmpty_and_false _)]
    exact hwalk
  | case11 slash links here name rest es hes hdot hup hslash hshort m hlink hm ih =>
    have hlen := eq_false_of_ne_true hshort
    have hplace : t.nodeAt? (here ++ [name]) = some m := (nodeAt?_concat hes name).trans hm
    rw [walkNew_down hes hdot hup hslash hlen hm hlink] at h
    rw [List.cons_append, walk_down hes hdot hup hlen hm hlink]
    refine ih h ⟨m, hplace⟩ fun hs => ?_
    -- A slash stands behind a later name, which is only looked up in a directory.
    cases rest with
    | nil => exact absurd (by rw [hs]; rfl) hslash
    | cons k rest =>
      by_contra hno
      rw [walkNew_notDirectory fun es' hes' => hno ⟨es', hes'⟩] at h
      cases h
  | case12 slash links here name rest hno =>
    rw [walkNew_notDirectory fun es hes => hno es hes] at h
    cases h

/-- In a tree that holds more, a file is opened at the same place, if that is a file by then. -/
theorem walkNew_of_extends (ht : t.Extends t') {slash : Bool} {links : Nat} {there : List String}
    {text : String} (hfile : t'.nodeAt? there = some (.file text))
    (h : t.walkNew slash links here names = .ok there) :
    t'.walkNew slash links here names = .ok there := by
  induction slash, links, here, names using walkNew.induct t with
  | case1 slash links here =>
    rw [walkNew_nil] at h ⊢
    exact h
  | case2 slash links here rest es hes ih =>
    obtain ⟨es', hes', -⟩ := ht.dir hes
    rw [walkNew_dot hes] at h
    rw [walkNew_dot hes']
    exact ih h
  | case3 slash links here rest es hes _ ih =>
    obtain ⟨es', hes', -⟩ := ht.dir hes
    rw [walkNew_up hes] at h
    rw [walkNew_up hes']
    exact ih h
  | case4 slash links here name rest es hes hdot hup hslash =>
    rw [Bool.and_eq_true, List.isEmpty_iff] at hslash
    obtain ⟨rfl, rfl⟩ := hslash
    rw [walkNew_slash hes hdot hup] at h
    cases h
  | case5 slash links here name rest es hes hdot hup hslash hlong =>
    rw [walkNew_tooLong hes hdot hup hslash hlong] at h
    cases h
  | case6 slash links here name rest es hes hdot hup hslash hshort hnone hrest =>
    have hlen := eq_false_of_ne_true hshort
    obtain ⟨es', hes', -⟩ := ht.dir hes
    obtain ⟨rfl, rfl⟩ := last_without_slash hslash hrest
    rw [walkNew_new hes hdot hup hlen hnone, Except.ok.injEq] at h
    subst h
    rw [nodeAt?_concat hes'] at hfile
    rw [walkNew_down hes' hdot hup hslash hlen hfile (fun _ => Node.noConfusion), walkNew_nil]
  | case7 slash links here name rest es hes hdot hup hslash hshort hnone hrest =>
    rw [walkNew_missing hes hdot hup hrest (eq_false_of_ne_true hshort) hnone] at h
    cases h
  | case8 slash here name rest es hes hdot hup hslash hshort target hlink =>
    rw [walkNew_linkRefused hes hdot hup hslash (eq_false_of_ne_true hshort) hlink] at h
    cases h
  | case9 slash here name rest es hes hdot hup hslash hshort target hlink links hrest ih =>
    have hlen := eq_false_of_ne_true hshort
    obtain ⟨es', hes', hentry⟩ := ht.dir hes
    obtain ⟨n', hn', hkind⟩ := hentry name _ hlink
    obtain rfl := hkind.link
    obtain ⟨rfl, rfl⟩ := last_without_slash hslash hrest
    rw [walkNew_lastLink hes hdot hup hlen hlink] at h
    rw [walkNew_lastLink hes' hdot hup hlen hn']
    exact ih h
  | case10 slash here name rest es hes hdot hup hslash hshort target hlink links hrest ih =>
    have hlen := eq_false_of_ne_true hshort
    obtain ⟨es', hes', hentry⟩ := ht.dir hes
    obtain ⟨n', hn', hkind⟩ := hentry name _ hlink
    obtain rfl := hkind.link
    rw [walkNew_link hes hdot hup hrest hlen hlink] at h
    rw [walkNew_link hes' hdot hup hrest hlen hn']
    exact ih h
  | case11 slash links here name rest es hes hdot hup hslash hshort n hlink hn ih =>
    have hlen := eq_false_of_ne_true hshort
    obtain ⟨es', hes', hentry⟩ := ht.dir hes
    obtain ⟨n', hn', hkind⟩ := hentry name _ hn
    rw [walkNew_down hes hdot hup hslash hlen hn hlink] at h
    rw [walkNew_down hes' hdot hup hslash hlen hn' (hkind.not_link hlink)]
    exact ih h
  | case12 slash links here name rest hno =>
    rw [walkNew_notDirectory fun es hes => hno es hes] at h
    cases h

/-! ## Opening -/

section Open

variable {p q : Path} {there : List String}

theorem locateNew_of_short (h : p.text.utf8ByteSize < pathByteLimit) :
    t.locateNew p = t.walkNew false maxLinks (t.start p) p.names := by
  unfold locateNew
  rw [if_neg (Nat.not_le.mpr h)]
  rfl

theorem locateNew_of_long (h : pathByteLimit ≤ p.text.utf8ByteSize) :
    t.locateNew p = .error .nameTooLong := by
  unfold locateNew
  rw [if_pos h]

theorem short_of_locateNew (h : t.locateNew p = .ok there) :
    p.text.utf8ByteSize < pathByteLimit := by
  by_contra hlong
  cases (locateNew_of_long (Nat.not_lt.mp hlong)).symm.trans h

/-- Where a path leads, a file can be opened, unless a slash asks for a directory. -/
theorem locateNew_of_find {n : Node} (h : t.find p = .ok n) :
    (∃ there, t.locateNew p = .ok there ∧ t.nodeAt? there = some n) ∨
      t.locateNew p = .error .isDirectory ∧ ∃ es, n = .dir es := by
  obtain ⟨there, hplace, hn⟩ := find_eq_ok_iff.mp h
  by_cases hshort : p.text.utf8ByteSize < pathByteLimit
  · have hwalk : t.walk true maxLinks (t.start p) (p.names ++ slashed false) = .ok there :=
      (congrArg _ (List.append_nil _)).trans (walk_of_locate hplace)
    rw [locateNew_of_short hshort]
    rcases walkNew_of_walk hwalk with hnew | ⟨hnew, es, hes⟩
    · exact .inl ⟨there, hnew, hn⟩
    · exact .inr ⟨hnew, es, Option.some.inj (hn.symm.trans hes)⟩
  · cases (locate_of_long (Nat.not_lt.mp hshort) true).symm.trans hplace

theorem Proper.exists_start (ht : t.Proper) (p : Path) : ∃ n, t.nodeAt? (t.start p) = some n := by
  unfold start
  split
  · exact ⟨t.root, rfl⟩
  · obtain ⟨es, hes⟩ := ht.current
    exact ⟨_, hes⟩

theorem exists_start_of_isAbsolute (h : p.isAbsolute = true) :
    ∃ n, t.nodeAt? (t.start p) = some n := by
  unfold start
  rw [if_pos h]
  exact ⟨t.root, rfl⟩

/-- Where a file is to be opened the path leads, or there is room for it. -/
theorem locateNew_cases (hstart : ∃ n, t.nodeAt? (t.start p) = some n)
    (h : t.locateNew p = .ok there) :
    (∃ n, t.nodeAt? there = some n ∧ t.find p = .ok n) ∨ t.Vacant there := by
  have hshort := short_of_locateNew h
  rw [locateNew_of_short hshort] at h
  rcases walkNew_cases h hstart nofun with ⟨n, hn, hwalk⟩ | hvacant
  · refine .inl ⟨n, hn, find_of_some ?_ hn⟩
    rw [locate_of_short hshort, ← List.append_nil p.names]
    exact hwalk
  · exact .inr hvacant

theorem find_of_locateNew (hstart : ∃ n, t.nodeAt? (t.start p) = some n)
    (h : t.locateNew p = .ok there) {n : Node} (hn : t.nodeAt? there = some n) :
    t.find p = .ok n := by
  rcases locateNew_cases hstart h with ⟨n', hn', hfind⟩ | hvacant
  · rw [hfind, Option.some.inj (hn'.symm.trans hn)]
  · cases hvacant.nodeAt?.symm.trans hn

theorem locateNew_of_extends (ht : t.Extends t') {text : String}
    (hfile : t'.nodeAt? there = some (.file text)) (h : t.locateNew p = .ok there) :
    t'.locateNew p = .ok there := by
  have hshort := short_of_locateNew h
  have hstart : t'.start p = t.start p := by
    unfold start
    rw [ht.current]
  rw [locateNew_of_short hshort] at h ⊢
  rw [hstart]
  exact walkNew_of_extends ht hfile h

theorem openToAdd_of_error {e : LookupError} (h : t.locateNew p = .error e) :
    t.openToAdd p = .error (.system e p.text) := by
  unfold openToAdd
  rw [h]

theorem openToAdd_of_file (h : t.locateNew p = .ok there) {text : String}
    (hfile : t.nodeAt? there = some (.file text)) : t.openToAdd p = .ok (t, there) := by
  unfold openToAdd
  rw [h]
  simp only [hfile]

theorem openToAdd_of_other (h : t.locateNew p = .ok there) {n : Node}
    (hn : t.nodeAt? there = some n) (hother : ∀ text, n ≠ .file text) :
    t.openToAdd p = .error (.system .isDirectory p.text) := by
  unfold openToAdd
  rw [h]
  cases n with
  | file text => exact absurd rfl (hother text)
  | link target => simp only [hn]
  | dir es => simp only [hn]

theorem openToAdd_of_vacant (h : t.locateNew p = .ok there) (hvacant : t.Vacant there) :
    t.openToAdd p = .ok (t.place there (.file ""), there) := by
  unfold openToAdd
  rw [h]
  simp only [hvacant.nodeAt?]

theorem touch_of_find (hnul : hasNul p = false) {n : Node} (h : t.find p = .ok n) :
    t.touch p = .ok t := by
  unfold touch
  rw [hnul, if_neg Bool.false_ne_true, h]

theorem touch_of_vacant (hnul : hasNul p = false) (h : t.locateNew p = .ok there)
    (hvacant : t.Vacant there) : t.touch p = .ok (t.place there (.file "")) := by
  unfold touch
  rw [hnul, if_neg Bool.false_ne_true]
  cases hfind : t.find p with
  | error e => simp only [h]
  | ok n =>
    rcases locateNew_of_find hfind with ⟨there', hthere', hn⟩ | ⟨herror, -⟩
    · obtain rfl := Except.ok.inj (h.symm.trans hthere')
      cases hvacant.nodeAt?.symm.trans hn
    · cases h.symm.trans herror

theorem touch_of_error (hnul : hasNul p = false) {e : LookupError} (h : t.locateNew p = .error e)
    (hfind : ∀ n, t.find p ≠ .ok n) : t.touch p = .error (.system e p.text) := by
  unfold touch
  rw [hnul, if_neg Bool.false_ne_true]
  cases hfound : t.find p with
  | error e => simp only [h]
  | ok n => exact absurd hfound (hfind n)

theorem touch_of_nul (hnul : hasNul p = true) : t.touch p = .error .embeddedNul := by
  unfold touch
  rw [if_pos hnul]

/-- What there may be where a path asks for a file: a file, room for one, something else, or no place
at all. -/
inductive Site (t : FileTree) (p : Path) : Prop where
  | file {there : List String} {text : String} (h : t.locateNew p = .ok there)
      (hfile : t.nodeAt? there = some (.file text)) (hfind : t.find p = .ok (.file text))
  | vacant {there : List String} (h : t.locateNew p = .ok there) (hvacant : t.Vacant there)
  | other {there : List String} {n : Node} (h : t.locateNew p = .ok there)
      (hn : t.nodeAt? there = some n) (hother : ∀ text, n ≠ .file text) (hfind : t.find p = .ok n)
  | refused {e : LookupError} (h : t.locateNew p = .error e)

theorem site (hstart : ∃ n, t.nodeAt? (t.start p) = some n) : t.Site p := by
  cases hplace : t.locateNew p with
  | error e => exact .refused hplace
  | ok there =>
    rcases locateNew_cases hstart hplace with ⟨n, hn, hfind⟩ | hvacant
    · cases n with
      | file text => exact .file hplace hn hfind
      | link target => exact .other hplace hn (fun _ => Node.noConfusion) hfind
      | dir es => exact .other hplace hn (fun _ => Node.noConfusion) hfind
    · exact .vacant hplace hvacant

theorem Vacant.extends {place : List String} (h : t.Vacant place) (text : String) :
    t.Extends (t.place place (.file text)) ∧
      (t.place place (.file text)).nodeAt? place = some (.file text) := by
  obtain ⟨dir, name, es, rfl, hes, hnone⟩ := h
  refine ⟨extends_place hes fun n hn => ?_, nodeAt?_place hes name _⟩
  cases hnone.symm.trans hn

/-- What is opened is a file, found by the same path, and nothing else has changed its kind. -/
theorem openToAdd_found (hstart : ∃ n, t.nodeAt? (t.start p) = some n) {opened : FileTree}
    (h : t.openToAdd p = .ok (opened, there)) :
    t.Extends opened ∧ opened.locateNew p = .ok there ∧
      ∃ text, opened.nodeAt? there = some (.file text) := by
  cases site hstart with
  | file hplace hfile hfind =>
    obtain ⟨rfl, rfl⟩ := Prod.mk.inj (Except.ok.inj ((openToAdd_of_file hplace hfile).symm.trans h))
    exact ⟨.refl t, hplace, _, hfile⟩
  | vacant hplace hvacant =>
    obtain ⟨rfl, rfl⟩ :=
      Prod.mk.inj (Except.ok.inj ((openToAdd_of_vacant hplace hvacant).symm.trans h))
    obtain ⟨hextends, hfile⟩ := hvacant.extends ""
    exact ⟨hextends, locateNew_of_extends hextends hfile hplace, _, hfile⟩
  | other hplace hn hother =>
    cases (openToAdd_of_other hplace hn hother).symm.trans h
  | refused hplace =>
    cases (openToAdd_of_error hplace).symm.trans h

/-- What can be opened can be made sure of first, and then be opened under another path for the same
place. -/
theorem exists_touch_of_openToAdd (ht : t.Proper) (hnul : hasNul p = false)
    (hsame : t.locateNew q = t.locateNew p) {opened : FileTree}
    (h : t.openToAdd p = .ok (opened, there)) :
    ∃ touched, t.touch p = .ok touched ∧ touched.openToAdd q = .ok (opened, there) := by
  cases site (ht.exists_start p) with
  | file hplace hfile hfind =>
    refine ⟨t, touch_of_find hnul hfind, ?_⟩
    rw [← h, openToAdd_of_file hplace hfile]
    exact openToAdd_of_file (hsame.trans hplace) hfile
  | vacant hplace hvacant =>
    obtain ⟨hextends, hfile⟩ := hvacant.extends ""
    refine ⟨_, touch_of_vacant hnul hplace hvacant, ?_⟩
    rw [← h, openToAdd_of_vacant hplace hvacant]
    exact openToAdd_of_file (locateNew_of_extends hextends hfile (hsame.trans hplace)) hfile
  | other hplace hn hother =>
    cases (openToAdd_of_other hplace hn hother).symm.trans h
  | refused hplace =>
    cases (openToAdd_of_error hplace).symm.trans h

/-- What cannot be opened cannot be made sure of, unless it is there and is no file: then it cannot be
opened afterwards. -/
theorem touch_of_openToAdd_error (ht : t.Proper) (hnul : hasNul p = false)
    (hsame : t.locateNew q = t.locateNew p) {e : Trouble} (h : t.openToAdd p = .error e) :
    t.touch p = .error e ∨
      e = .system .isDirectory p.text ∧ t.touch p = .ok t ∧
        t.openToAdd q = .error (.system .isDirectory q.text) := by
  cases site (ht.exists_start p) with
  | file hplace hfile hfind =>
    cases (openToAdd_of_file hplace hfile).symm.trans h
  | vacant hplace hvacant =>
    cases (openToAdd_of_vacant hplace hvacant).symm.trans h
  | other hplace hn hother hfind =>
    have he := Except.error.inj ((openToAdd_of_other hplace hn hother).symm.trans h)
    exact .inr ⟨he.symm, touch_of_find hnul hfind,
      openToAdd_of_other (hsame.trans hplace) hn hother⟩
  | refused hplace =>
    obtain rfl := Except.error.inj ((openToAdd_of_error hplace).symm.trans h)
    by_cases hfound : ∃ n, t.find p = .ok n
    · obtain ⟨n, hn⟩ := hfound
      rcases locateNew_of_find hn with ⟨there, hthere, -⟩ | ⟨hdir, -⟩
      · cases hplace.symm.trans hthere
      · obtain rfl := Except.error.inj (hplace.symm.trans hdir)
        exact .inr ⟨rfl, touch_of_find hnul hn, openToAdd_of_error (hsame.trans hplace)⟩
    · exact .inl (touch_of_error hnul hplace fun n hn => hfound ⟨n, hn⟩)

end Open

end BuildScript.Files.FileTree
