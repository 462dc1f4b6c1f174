import BuildScript.Proofs.Files.FirstDir
import BuildScript.Proofs.Files.Tracing
import Mathlib.Logic.Relation

/-!
Trees that differ in the order of listing alone (`FileTree.Relisted`). They hold the same at every
place (`Relisted.alike`), so a lookup comes to the same place in both (`Alike.locate_eq`), a path leads
to a directory, or to a file, in both or in neither (`Alike.isDir_eq`, `Alike.isFile_eq`), and resolves
to the same path (`Alike.resolvesTo`).
-/

namespace BuildScript.Files

/-! ## Nodes in another order -/

/-- The entries of one directory, at the node or below it, are put in another order. -/
inductive Node.Reorders : Node → Node → Prop where
  | here {es es' : List (String × Node)} (h : es.Perm es') : Reorders (.dir es) (.dir es')
  | inside {front back : List (String × Node)} {name : String} {n n' : Node} (h : Reorders n n') :
      Reorders (.dir (front ++ (name, n) :: back)) (.dir (front ++ (name, n') :: back))

/-- The node without what is below it. -/
def Node.face : Node → Node
  | .dir _ => .dir []
  | n => n

theorem Node.face_link {n : Node} {target : String} (h : n.face = .link target) :
    n = .link target := by
  cases n with
  | dir es => cases h
  | file text => exact h
  | link target' => exact h

theorem Node.face_dir {n : Node} {es : List (String × Node)} (h : n.face = .dir es) :
    ∃ es', n = .dir es' := by
  cases n with
  | dir es' => exact ⟨es', rfl⟩
  | file text => cases h
  | link target => cases h

theorem lookup_link_of_face {es es' : List (String × Node)} {name target : String}
    (h : (es.lookup name).map Node.face = (es'.lookup name).map Node.face)
    (hn : es.lookup name = some (.link target)) : es'.lookup name = some (.link target) := by
  rw [hn] at h
  obtain ⟨n', hn', hface⟩ := Option.map_eq_some_iff.mp h.symm
  rw [hn', Node.face_link hface]

theorem lookup_eq_of_perm {es es' : List (String × Node)} (h : es.Perm es')
    (hes : (es.map (·.1)).Nodup) (name : String) : es.lookup name = es'.lookup name := by
  have hes' : (es'.map (·.1)).Nodup := (h.map (·.1)).nodup_iff.mp hes
  ext n
  rw [← Table.mem_iff_lookup name n hes, ← Table.mem_iff_lookup name n hes', h.mem_iff]

namespace Node.Reorders

variable {n n' : Node}

/-- At every place there is the same, up to what is below it. -/
theorem map_face_below? (h : Reorders n n') (hn : n.Distinct) (rel : List String) :
    (n.below? rel).map Node.face = (n'.below? rel).map Node.face := by
  induction h generalizing rel with
  | @here es es' h =>
    cases rel with
    | nil => rfl
    | cons name rest =>
      rw [below?, below?, child?_dir, child?_dir, lookup_eq_of_perm h (hn [] es rfl)]
  | @inside front back name n n' h ih =>
    cases rel with
    | nil => rfl
    | cons k rest =>
      rw [below?, below?, child?_dir, child?_dir, List.lookup_append, List.lookup_append,
        Table.lookup_cons, Table.lookup_cons]
      cases front.lookup k with
      | some m => rfl
      | none =>
        by_cases hk : k = name
        · rw [if_pos hk, if_pos hk]
          exact ih (hn.child (List.mem_append_right _ List.mem_cons_self)) rest
        · rw [if_neg hk, if_neg hk]

theorem distinct (h : Reorders n n') (hn : n.Distinct) : n'.Distinct := by
  induction h with
  | @here es es' h =>
    exact distinct_dir ((h.map (·.1)).nodup_iff.mp (hn [] es rfl))
      fun name c hc => hn.child (h.mem_iff.mpr hc)
  | @inside front back name n n' _ ih =>
    refine distinct_dir ?_ fun k c hc => ?_
    · have hnames := hn [] _ rfl
      rw [List.map_append, List.map_cons] at hnames ⊢
      exact hnames
    · rcases List.mem_append.mp hc with hc | hc
      · exact hn.child (List.mem_append_left _ hc)
      · rcases List.mem_cons.mp hc with heq | hc
        · obtain ⟨-, rfl⟩ := Prod.mk.inj heq
          exact ih (hn.child (List.mem_append_right _ List.mem_cons_self))
        · exact hn.child (List.mem_append_right _ (List.mem_cons_of_mem _ hc))

end Node.Reorders

namespace FileTree

/-- The trees differ in the order in which directories list their entries, if at all. -/
structure Relisted (t t' : FileTree) : Prop where
  root : Relation.ReflTransGen Node.Reorders t.root t'.root
  current : t'.current = t.current

/-- The trees hold the same at every place, up to what directories list, and have the same current
directory. -/
structure Alike (t t' : FileTree) : Prop where
  face : ∀ here, (t.nodeAt? here).map Node.face = (t'.nodeAt? here).map Node.face
  current : t'.current = t.current

variable {t t' : FileTree}

theorem Relisted.root_distinct_and_face (h : t.Relisted t') (ht : t.root.Distinct) :
    t'.root.Distinct ∧
      ∀ here, (t.nodeAt? here).map Node.face = (t'.nodeAt? here).map Node.face := by
  obtain ⟨hroot, -⟩ := h
  unfold nodeAt?
  generalize t'.root = n' at hroot
  induction hroot with
  | refl => exact ⟨ht, fun here => rfl⟩
  | tail _ hstep ih =>
    obtain ⟨hdistinct, hface⟩ := ih
    exact ⟨hstep.distinct hdistinct, fun here =>
      (hface here).trans (hstep.map_face_below? hdistinct here)⟩

/-- Trees that differ in the order of listing hold the same at every place. -/
theorem Relisted.alike (h : t.Relisted t') (ht : t.Proper) : t.Alike t' :=
  ⟨(h.root_distinct_and_face ht.distinct).2, h.current⟩

namespace Alike

variable (h : t.Alike t') {here : List String}

include h

theorem symm : t'.Alike t := ⟨fun here => (h.face here).symm, h.current.symm⟩

theorem node {n : Node} (hn : t.nodeAt? here = some n) :
    ∃ n', t'.nodeAt? here = some n' ∧ n'.face = n.face := by
  have hface := h.face here
  rw [hn] at hface
  cases hn' : t'.nodeAt? here with
  | none =>
    rw [hn'] at hface
    cases hface
  | some n' =>
    rw [hn'] at hface
    exact ⟨n', rfl, (Option.some.inj hface).symm⟩

theorem none (hn : t.nodeAt? here = none) : t'.nodeAt? here = none := by
  have hface := h.face here
  rw [hn] at hface
  exact Option.map_eq_none_iff.mp hface.symm

theorem dir {es : List (String × Node)} (hn : t.nodeAt? here = some (.dir es)) :
    ∃ es', t'.nodeAt? here = some (.dir es') := by
  obtain ⟨n', hn', hface⟩ := h.node hn
  obtain ⟨es', rfl⟩ := Node.face_dir hface
  exact ⟨es', hn'⟩

theorem link {target : String} (hn : t.nodeAt? here = some (.link target)) :
    t'.nodeAt? here = some (.link target) := by
  obtain ⟨n', hn', hface⟩ := h.node hn
  rw [hn', Node.face_link hface]

theorem entries {es : List (String × Node)} (hn : t.nodeAt? here = some (.dir es)) :
    ∃ es', t'.nodeAt? here = some (.dir es') ∧
      ∀ name, (es.lookup name).map Node.face = (es'.lookup name).map Node.face := by
  obtain ⟨es', hn'⟩ := h.dir hn
  refine ⟨es', hn', fun name => ?_⟩
  rw [← nodeAt?_concat hn, ← nodeAt?_concat hn']
  exact h.face (here ++ [name])

/-- A lookup comes to the same place in both. -/
theorem walk_eq (follow : Bool) (links : Nat) (here names : List String) :
    t'.walk follow links here names = t.walk follow links here names := by
  induction links, here, names using walk.induct t follow with
  | case1 links here => rw [walk_nil, walk_nil]
  | case2 links here rest es hes ih =>
    obtain ⟨es', hes', -⟩ := h.entries hes
    rw [walk_dot hes, walk_dot hes', ih]
  | case3 links here rest es hes _ ih =>
    obtain ⟨es', hes', -⟩ := h.entries hes
    rw [walk_up hes, walk_up hes', ih]
  | case4 links here name rest es hes hdot hup hlong =>
    obtain ⟨es', hes', -⟩ := h.entries hes
    rw [walk_tooLong hes hdot hup hlong, walk_tooLong hes' hdot hup hlong]
  | case5 links here name rest es hes hdot hup hshort hn =>
    obtain ⟨es', hes', hentry⟩ := h.entries hes
    have hlen := eq_false_of_ne_true hshort
    have hn' : es'.lookup name = Option.none := by
      rw [← Option.map_eq_none_iff, ← hentry, hn, Option.map_none]
    rw [walk_missing hes hdot hup hlen hn, walk_missing hes' hdot hup hlen hn']
  | case6 links here name rest es hes hdot hup hshort target hn hlast =>
    obtain ⟨es', hes', hentry⟩ := h.entries hes
    have hlen := eq_false_of_ne_true hshort
    have hn' := lookup_link_of_face (hentry name) hn
    rw [Bool.and_eq_true, List.isEmpty_iff, Bool.not_eq_true'] at hlast
    obtain ⟨rfl, rfl⟩ := hlast
    rw [walk_lastLink hes hdot hup hlen hn, walk_lastLink hes' hdot hup hlen hn']
  | case7 here name rest es hes hdot hup hshort target hn hfollow =>
    obtain ⟨es', hes', hentry⟩ := h.entries hes
    have hlen := eq_false_of_ne_true hshort
    have hn' := lookup_link_of_face (hentry name) hn
    rw [walk_linkRefused hes hdot hup hlen hn hfollow,
      walk_linkRefused hes' hdot hup hlen hn' hfollow]
  | case8 here name rest es hes hdot hup hshort target hn hfollow links ih =>
    obtain ⟨es', hes', hentry⟩ := h.entries hes
    have hlen := eq_false_of_ne_true hshort
    have hn' := lookup_link_of_face (hentry name) hn
    rw [walk_link hes hdot hup hlen hn hfollow, walk_link hes' hdot hup hlen hn' hfollow]
    exact ih
  | case9 links here name rest es hes hdot hup hshort n hlink hn ih =>
    obtain ⟨es', hes', hentry⟩ := h.entries hes
    have hlen := eq_false_of_ne_true hshort
    have hface := hentry name
    rw [hn] at hface
    obtain ⟨n', hn', hsame⟩ := Option.map_eq_some_iff.mp hface.symm
    have hlink' : ∀ target, n' ≠ .link target := by
      rintro target rfl
      exact hlink target (Node.face_link hsame.symm)
    rw [walk_down hes hdot hup hlen hn hlink, walk_down hes' hdot hup hlen hn' hlink', ih]
  | case10 links here name rest hno =>
    have hno' : ∀ es, t'.nodeAt? here ≠ some (.dir es) := by
      intro es hes
      obtain ⟨es', hes'⟩ := h.symm.dir hes
      exact hno es' hes'
    rw [walk_notDirectory fun es hes => hno es hes, walk_notDirectory hno']

theorem locate_eq (follow : Bool) (p : Path) : t'.locate follow p = t.locate follow p := by
  unfold locate
  rw [h.current, h.walk_eq]

/-- A path leads to nodes of a kind in both or in neither, if the kind can be told without what is
below. -/
theorem leadsTo_eq {kind : Node → Bool} (hkind : ∀ n, kind n.face = kind n) (p : Path) :
    t'.leadsTo kind p = t.leadsTo kind p := by
  have hplace := h.locate_eq true p
  unfold leadsTo
  cases hlocate : t.locate true p with
  | error e => rw [find_of_error hlocate, find_of_error (hplace.trans hlocate)]
  | ok here =>
    cases hn : t.nodeAt? here with
    | none => rw [find_of_none hlocate hn, find_of_none (hplace.trans hlocate) (h.none hn)]
    | some n =>
      obtain ⟨n', hn', hface⟩ := h.node hn
      rw [find_of_some hlocate hn, find_of_some (hplace.trans hlocate) hn']
      dsimp only
      rw [← hkind n, ← hkind n', hface]

theorem isDir_eq (p : Path) : t'.isDir p = t.isDir p :=
  h.leadsTo_eq (fun n => by cases n <;> rfl) p

theorem isFile_eq (p : Path) : t'.isFile p = t.isFile p :=
  h.leadsTo_eq (fun n => by cases n <;> rfl) p

/-! ### What names lead to -/

theorem spot_eq (trail : Trail) : t'.spot trail = t.spot trail := by
  unfold spot
  rw [h.current]

theorem spot_link_iff (trail : Trail) (target : String) :
    t'.nodeAt? (t'.spot trail) = some (.link target) ↔
      t.nodeAt? (t.spot trail) = some (.link target) := by
  rw [h.spot_eq]
  exact ⟨h.symm.link, h.link⟩

/-- Names end at the same trail in both. -/
theorem follows {n : Nat} {trail e : Trail} {names : List String} (hf : t.Follows n trail names e) :
    t'.Follows n trail names e := by
  induction hf with
  | nil trail => exact .nil trail
  | dot hname _ ih => exact .dot hname ih
  | up _ ih => exact .up ih
  | down hname hno _ ih =>
    exact .down hname (fun target hlink => hno target ((h.spot_link_iff _ target).mp hlink)) ih
  | link hname hlink _ ih => exact .link hname ((h.spot_link_iff _ _).mpr hlink) ih

theorem looks {trail q : Trail} {names : List String} (hl : t.Looks trail names q) :
    t'.Looks trail names q := by
  induction hl with
  | here hname => exact .here hname
  | dot hname _ ih => exact .dot hname ih
  | up _ ih => exact .up ih
  | down hname hno _ ih =>
    exact .down hname (fun target hlink => hno target ((h.spot_link_iff _ target).mp hlink)) ih
  | link hname hlink _ ih => exact .link hname ((h.spot_link_iff _ _).mpr hlink) ih

theorem fits {trail : Trail} {names : List String} (hfits : t.Fits trail names) :
    t'.Fits trail names :=
  fun q target hq hlink => hfits q target (h.symm.looks hq) ((h.spot_link_iff q target).mp hlink)

theorem noCycle (hcycle : t.NoCycle) : t'.NoCycle := by
  intro trail names
  obtain ⟨n, e, hf⟩ := hcycle trail names
  exact ⟨n, e, h.follows hf⟩

/-- A path resolves to the same in both. -/
theorem resolvesTo {p r : Path} (hr : t.ResolvesTo p r) : t'.ResolvesTo p r := by
  obtain ⟨n, e, hf, rfl⟩ := hr
  exact ⟨n, e, h.follows hf, by rw [h.spot_eq]⟩

end Alike

/-- In another order the tree is one that a file system can hold, too. -/
theorem Relisted.proper (h : t.Relisted t') (ht : t.Proper) : t'.Proper := by
  have halike := h.alike ht
  have hdistinct : t'.root.Distinct := (h.root_distinct_and_face ht.distinct).1
  refine ⟨hdistinct, fun here es hes entry hentry => ?_, fun here target htarget => ?_, ?_⟩
  · have hlookup := (Table.mem_iff_lookup entry.1 entry.2 (hdistinct here es hes)).mp hentry
    rw [← nodeAt?_concat hes] at hlookup
    obtain ⟨n, hn, -⟩ := halike.symm.node hlookup
    exact ht.isEntryName hn
  · exact ht.targets here target (halike.symm.link htarget)
  · obtain ⟨es, hes⟩ := ht.current
    rw [h.current]
    exact halike.dir hes

end FileTree

end BuildScript.Files
