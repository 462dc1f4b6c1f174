import BuildScript.Files.Tree
import Mathlib.Data.List.Induction

/-!
File trees as a file system has them (`FileTree.Proper`), and the lookup of paths in them, step by
step. Main statements: what is below a directory is reached through directories alone
(`FileTree.dir_of_nodeAt?_concat`), and a path is looked up by looking up what stands in front and
then the rest from there (`FileTree.walk_append`).
-/

namespace BuildScript.Files

namespace Node

theorem child?_dir (es : List (String × Node)) (name : String) :
    (dir es).child? name = es.lookup name := rfl

theorem below?_append (n : Node) (a b : List String) :
    n.below? (a ++ b) = (n.below? a).bind fun c => c.below? b := by
  induction a generalizing n with
  | nil => rfl
  | cons name a ih =>
    rw [List.cons_append, below?, below?]
    cases n.child? name with
    | none => rfl
    | some c => exact ih c

theorem below?_singleton (n : Node) (name : String) : n.below? [name] = n.child? name := by
  rw [below?]
  cases n.child? name <;> rfl

/-- What is reached by a name lies in a directory. -/
theorem dir_of_child? {n c : Node} {name : String} (h : n.child? name = some c) :
    ∃ es, n = dir es ∧ es.lookup name = some c := by
  cases n with
  | file text => cases h
  | link target => cases h
  | dir es => exact ⟨es, rfl, h⟩

end Node

/-- A name that an entry of a directory may have. -/
structure IsEntryName (name : String) : Prop where
  ne_empty : name ≠ ""
  ne_dot : name ≠ "."
  ne_up : name ≠ ".."
  no_slash : '/' ∉ name.toList
  no_nul : '\x00' ∉ name.toList
  short : FileTree.tooLong name = false

instance (name : String) : Decidable (IsEntryName name) :=
  decidable_of_iff (name ≠ "" ∧ name ≠ "." ∧ name ≠ ".." ∧ '/' ∉ name.toList ∧
      '\x00' ∉ name.toList ∧ FileTree.tooLong name = false)
    ⟨fun ⟨a, b, c, d, e, f⟩ => ⟨a, b, c, d, e, f⟩, fun ⟨a, b, c, d, e, f⟩ => ⟨a, b, c, d, e, f⟩⟩

mutual

/-- Whether every directory from the node down lists distinct names that entries may have, and no
target there holds the character that ends texts. -/
def Node.isSound : Node → Bool
  | .file _ => true
  | .link target => '\x00' ∉ target.toList
  | .dir es => decide (es.map (·.1)).Nodup && soundEntries es

/-- The same of entries, of their names too. -/
def soundEntries : List (String × Node) → Bool
  | [] => true
  | (name, n) :: rest => decide (IsEntryName name) && n.isSound && soundEntries rest

end

theorem soundEntries_iff {es : List (String × Node)} :
    soundEntries es = true ↔ ∀ e ∈ es, IsEntryName e.1 ∧ e.2.isSound = true := by
  induction es with
  | nil => exact iff_of_true rfl fun e he => absurd he List.not_mem_nil
  | cons e rest ih =>
    rw [soundEntries, Bool.and_eq_true, Bool.and_eq_true, decide_eq_true_iff, ih,
      List.forall_mem_cons]

theorem Node.isSound_below? {n c : Node} {rel : List String} (h : n.isSound = true)
    (hc : n.below? rel = some c) : c.isSound = true := by
  induction rel generalizing n with
  | nil => exact Option.some.inj hc ▸ h
  | cons name rest ih =>
    rw [below?, Option.bind_eq_some_iff] at hc
    obtain ⟨m, hm, hrest⟩ := hc
    obtain ⟨es, rfl, hlookup⟩ := dir_of_child? hm
    rw [isSound, Bool.and_eq_true] at h
    obtain ⟨l₁, l₂, rfl, -⟩ := List.lookup_eq_some_iff.mp hlookup
    have hmem : (name, m) ∈ l₁ ++ (name, m) :: l₂ := List.mem_append_right _ List.mem_cons_self
    exact ih (soundEntries_iff.mp h.2 (name, m) hmem).2 hrest

namespace FileTree

/-- The tree is one that a file system can hold: the entries of a directory have distinct names that
entries may have, no target holds the character that ends texts, and the current directory is
there. -/
structure Proper (t : FileTree) : Prop where
  distinct : ∀ here es, t.nodeAt? here = some (.dir es) → (es.map (·.1)).Nodup
  names : ∀ here es, t.nodeAt? here = some (.dir es) → ∀ e ∈ es, IsEntryName e.1
  targets : ∀ here target, t.nodeAt? here = some (.link target) → '\x00' ∉ target.toList
  current : ∃ es, t.nodeAt? t.current = some (.dir es)

variable {t : FileTree} {here : List String} {es : List (String × Node)} {name : String}

/-! ## Places -/

theorem nodeAt?_concat (h : t.nodeAt? here = some (.dir es)) (name : String) :
    t.nodeAt? (here ++ [name]) = es.lookup name := by
  unfold nodeAt? at h ⊢
  rw [Node.below?_append, h]
  exact Node.below?_singleton _ _

theorem dir_of_nodeAt?_concat {n : Node} (h : t.nodeAt? (here ++ [name]) = some n) :
    ∃ es, t.nodeAt? here = some (.dir es) ∧ es.lookup name = some n := by
  unfold nodeAt? at h ⊢
  rw [Node.below?_append, Option.bind_eq_some_iff] at h
  obtain ⟨m, hm, hn⟩ := h
  rw [Node.below?_singleton] at hn
  obtain ⟨es, rfl, hes⟩ := Node.dir_of_child? hn
  exact ⟨es, hm, hes⟩

theorem dir_of_nodeAt?_append {a b : List String} {n : Node} (h : t.nodeAt? (a ++ b) = some n)
    (hb : b ≠ []) : ∃ es, t.nodeAt? a = some (.dir es) := by
  cases b with
  | nil => exact absurd rfl hb
  | cons name rest =>
    unfold nodeAt? at h ⊢
    rw [Node.below?_append, Option.bind_eq_some_iff] at h
    obtain ⟨m, hm, hn⟩ := h
    rw [Node.below?, Option.bind_eq_some_iff] at hn
    obtain ⟨c, hc, -⟩ := hn
    obtain ⟨es, rfl, -⟩ := Node.dir_of_child? hc
    exact ⟨es, hm⟩

/-- Above a directory there are directories. -/
theorem dir_dropLast (h : t.nodeAt? here = some (.dir es)) :
    ∃ es', t.nodeAt? here.dropLast = some (.dir es') := by
  cases here using List.reverseRecOn with
  | nil => exact ⟨es, h⟩
  | append_singleton here name =>
    obtain ⟨es', hes', -⟩ := dir_of_nodeAt?_concat h
    rw [List.dropLast_concat]
    exact ⟨es', hes'⟩

/-- A tree is proper if it is found to be, and the current directory is there. -/
theorem proper_of_isSound (h : t.root.isSound = true)
    (hcurrent : ∃ es, t.nodeAt? t.current = some (.dir es)) : t.Proper where
  distinct here es hes := by
    have hsound := Node.isSound_below? h hes
    rw [Node.isSound, Bool.and_eq_true, decide_eq_true_iff] at hsound
    exact hsound.1
  names here es hes e he := by
    have hsound := Node.isSound_below? h hes
    rw [Node.isSound, Bool.and_eq_true] at hsound
    exact (soundEntries_iff.mp hsound.2 e he).1
  targets here target htarget := by
    have hsound := Node.isSound_below? h htarget
    rw [Node.isSound] at hsound
    exact of_decide_eq_true hsound
  current := hcurrent

theorem Proper.isEntryName (ht : t.Proper) {n : Node} (h : t.nodeAt? (here ++ [name]) = some n) :
    IsEntryName name := by
  obtain ⟨es, hes, hname⟩ := dir_of_nodeAt?_concat h
  obtain ⟨l₁, l₂, rfl, -⟩ := List.lookup_eq_some_iff.mp hname
  exact ht.names here _ hes (name, n) (List.mem_append_right _ List.mem_cons_self)

/-! ## One step of a lookup -/

section Step

variable {follow : Bool} {links : Nat} {rest : List String}

theorem walk_nil : t.walk follow links here [] = .ok here := by
  rw [walk]

theorem walk_dot (h : t.nodeAt? here = some (.dir es)) :
    t.walk follow links here ("." :: rest) = t.walk follow links here rest := by
  rw [walk, h]
  rfl

theorem walk_up (h : t.nodeAt? here = some (.dir es)) :
    t.walk follow links here (".." :: rest) = t.walk follow links here.dropLast rest := by
  rw [walk, h]
  rfl

theorem walk_down (h : t.nodeAt? here = some (.dir es)) (hdot : name ≠ ".") (hup : name ≠ "..")
    (hshort : tooLong name = false) {n : Node} (hn : es.lookup name = some n)
    (hlink : ∀ target, n ≠ .link target) :
    t.walk follow links here (name :: rest) = t.walk follow links (here ++ [name]) rest := by
  rw [walk, h]
  dsimp only
  rw [if_neg hdot, if_neg hup, hshort, if_neg Bool.false_ne_true, hn]
  cases n with
  | link target => exact absurd rfl (hlink target)
  | file text => rfl
  | dir es' => rfl

theorem walk_notDirectory (h : ∀ es, t.nodeAt? here ≠ some (.dir es)) :
    t.walk follow links here (name :: rest) = .error .notDirectory := by
  rw [walk]
  split
  · rename_i es hes
    exact absurd hes (h es)
  · rfl

theorem walk_tooLong (h : t.nodeAt? here = some (.dir es)) (hdot : name ≠ ".") (hup : name ≠ "..")
    (hlong : tooLong name = true) :
    t.walk follow links here (name :: rest) = .error .nameTooLong := by
  rw [walk, h]
  dsimp only
  rw [if_neg hdot, if_neg hup, if_pos hlong]

theorem walk_missing (h : t.nodeAt? here = some (.dir es)) (hdot : name ≠ ".") (hup : name ≠ "..")
    (hshort : tooLong name = false) (hn : es.lookup name = none) :
    t.walk follow links here (name :: rest) = .error .notFound := by
  rw [walk, h]
  dsimp only
  rw [if_neg hdot, if_neg hup, hshort, if_neg Bool.false_ne_true, hn]

/-- A link that is followed stands for the steps of its target. -/
theorem walk_link (h : t.nodeAt? here = some (.dir es)) (hdot : name ≠ ".") (hup : name ≠ "..")
    (hshort : tooLong name = false) {target : String} (hn : es.lookup name = some (.link target))
    (hfollow : ¬(rest.isEmpty && !follow) = true) :
    t.walk follow (links + 1) here (name :: rest) =
      t.walk follow links (if target.startsWith "/" then [] else here) (steps target ++ rest) := by
  rw [walk, h]
  dsimp only
  rw [if_neg hdot, if_neg hup, hshort, if_neg Bool.false_ne_true, hn]
  dsimp only
  rw [if_neg hfollow]

theorem walk_linkRefused (h : t.nodeAt? here = some (.dir es)) (hdot : name ≠ ".")
    (hup : name ≠ "..") (hshort : tooLong name = false) {target : String}
    (hn : es.lookup name = some (.link target)) (hfollow : ¬(rest.isEmpty && !follow) = true) :
    t.walk follow 0 here (name :: rest) = .error .tooManyLinks := by
  rw [walk, h]
  dsimp only
  rw [if_neg hdot, if_neg hup, hshort, if_neg Bool.false_ne_true, hn]
  dsimp only
  rw [if_neg hfollow]

/-- A link at the end is found itself if it is not followed. -/
theorem walk_lastLink (h : t.nodeAt? here = some (.dir es)) (hdot : name ≠ ".") (hup : name ≠ "..")
    (hshort : tooLong name = false) {target : String} (hn : es.lookup name = some (.link target)) :
    t.walk false links here [name] = .ok (here ++ [name]) := by
  rw [walk, h]
  dsimp only
  rw [if_neg hdot, if_neg hup, hshort, if_neg Bool.false_ne_true, hn]
  rfl

end Step

/-- Where the lookup of one name ends there is an entry of that name, and if that is no link the lookup
ends at it. -/
theorem exists_entry_of_walk {links : Nat} {there : List String}
    (h : t.nodeAt? here = some (.dir es)) (hdot : name ≠ ".") (hup : name ≠ "..")
    (hwalk : t.walk true links here [name] = .ok there) :
    ∃ n, es.lookup name = some n ∧
      ((∀ target, n ≠ .link target) → t.nodeAt? there = some n) := by
  cases hshort : tooLong name with
  | true =>
    rw [walk_tooLong h hdot hup hshort] at hwalk
    cases hwalk
  | false =>
    cases hlookup : es.lookup name with
    | none =>
      rw [walk_missing h hdot hup hshort hlookup] at hwalk
      cases hwalk
    | some n =>
      refine ⟨n, rfl, fun hlink => ?_⟩
      rw [walk_down h hdot hup hshort hlookup hlink, walk_nil, Except.ok.injEq] at hwalk
      rw [← hwalk, nodeAt?_concat h, hlookup]

/-- A path is looked up by looking up what stands in front and then the rest from there, with the
links that are left. -/
theorem walk_append {links : Nat} {a : List String} {mid : List String}
    (h : t.walk true links here a = .ok mid) :
    ∃ left, ∀ b, t.walk true links here (a ++ b) = t.walk true left mid b := by
  induction links, here, a using walk.induct t true with
  | case1 links here =>
    rw [walk_nil, Except.ok.injEq] at h
    exact ⟨links, fun b => by rw [h, List.nil_append]⟩
  | case2 links here rest es hes ih =>
    rw [walk_dot hes] at h
    obtain ⟨left, hb⟩ := ih h
    exact ⟨left, fun b => by rw [List.cons_append, walk_dot hes, hb]⟩
  | case3 links here rest es hes _ ih =>
    rw [walk_up hes] at h
    obtain ⟨left, hb⟩ := ih h
    exact ⟨left, fun b => by rw [List.cons_append, walk_up hes, hb]⟩
  | case4 links here name rest es hes hdot hup hlong =>
    rw [walk_tooLong hes hdot hup hlong] at h
    cases h
  | case5 links here name rest es hes hdot hup hshort hn =>
    rw [walk_missing hes hdot hup (eq_false_of_ne_true hshort) hn] at h
    cases h
  | case6 links here name rest es hes hdot hup hshort target hn hlast =>
    rw [Bool.not_true, Bool.and_false] at hlast
    cases hlast
  | case7 here name rest es hes hdot hup hshort target hn hfollow =>
    rw [walk_linkRefused hes hdot hup (eq_false_of_ne_true hshort) hn hfollow] at h
    cases h
  | case8 here name rest es hes hdot hup hshort target hn hfollow links ih =>
    have hlen := eq_false_of_ne_true hshort
    rw [walk_link hes hdot hup hlen hn hfollow] at h
    obtain ⟨left, hb⟩ := ih h
    refine ⟨left, fun b => ?_⟩
    have hfollow' : ¬((rest ++ b).isEmpty && !true) = true := by
      rw [Bool.not_true, Bool.and_false]
      exact Bool.false_ne_true
    rw [List.cons_append, walk_link hes hdot hup hlen hn hfollow', ← List.append_assoc]
    exact hb b
  | case9 links here name rest es hes hdot hup hshort n hlink hn ih =>
    have hlen := eq_false_of_ne_true hshort
    rw [walk_down hes hdot hup hlen hn hlink] at h
    obtain ⟨left, hb⟩ := ih h
    exact ⟨left, fun b => by rw [List.cons_append, walk_down hes hdot hup hlen hn hlink, hb]⟩
  | case10 links here name rest hno =>
    rw [walk_notDirectory fun es hes => hno es hes] at h
    cases h

/-! ## What a path leads to -/

/-- Where the lookup of a path starts. -/
def start (t : FileTree) (p : Path) : List String := if p.isAbsolute then [] else t.current

section Find

variable {p : Path}

theorem locate_of_short (h : p.text.utf8ByteSize < pathByteLimit) (follow : Bool) :
    t.locate follow p = t.walk follow maxLinks (t.start p) p.names := by
  unfold locate
  rw [if_neg (Nat.not_le.mpr h)]
  rfl

theorem locate_of_long (h : pathByteLimit ≤ p.text.utf8ByteSize) (follow : Bool) :
    t.locate follow p = .error .nameTooLong := by
  unfold locate
  rw [if_pos h]

theorem walk_of_locate (h : t.locate true p = .ok here) :
    t.walk true maxLinks (t.start p) p.names = .ok here := by
  unfold locate at h
  split at h
  · cases h
  · exact h

theorem find_of_error {e : LookupError} (h : t.locate true p = .error e) : t.find p = .error e := by
  unfold find
  rw [h]
  rfl

theorem find_of_none (h : t.locate true p = .ok here) (hn : t.nodeAt? here = none) :
    t.find p = .error .notFound := by
  unfold find
  rw [h]
  simp only [bind, Except.bind, hn]

theorem find_of_some (h : t.locate true p = .ok here) {n : Node} (hn : t.nodeAt? here = some n) :
    t.find p = .ok n := by
  unfold find
  rw [h]
  simp only [bind, Except.bind, hn]

theorem findLink_of_error {e : LookupError} (h : t.locate false p = .error e) :
    t.findLink p = .error e := by
  unfold findLink
  rw [h]
  rfl

theorem findLink_of_some (h : t.locate false p = .ok here) {n : Node}
    (hn : t.nodeAt? here = some n) : t.findLink p = .ok n := by
  unfold findLink
  rw [h]
  simp only [bind, Except.bind, hn]

theorem find_eq_ok_iff {n : Node} :
    t.find p = .ok n ↔ ∃ here, t.locate true p = .ok here ∧ t.nodeAt? here = some n := by
  constructor
  · intro h
    cases hplace : t.locate true p with
    | error e =>
      rw [find_of_error hplace] at h
      cases h
    | ok here =>
      cases hn : t.nodeAt? here with
      | none =>
        rw [find_of_none hplace hn] at h
        cases h
      | some m =>
        rw [find_of_some hplace hn, Except.ok.injEq] at h
        exact ⟨here, rfl, h ▸ hn⟩
  · rintro ⟨here, hplace, hn⟩
    exact find_of_some hplace hn

theorem leadsTo_of_find {kind : Node → Bool} (hnul : hasNul p = false) {n : Node}
    (h : t.find p = .ok n) : t.leadsTo kind p = .ok (kind n) := by
  unfold leadsTo
  rw [hnul, if_neg Bool.false_ne_true, h]

theorem leadsTo_of_notFound {kind : Node → Bool} (h : t.find p = .error .notFound) :
    t.leadsTo kind p = .ok false := by
  unfold leadsTo
  rw [h]
  split <;> rfl

/-- A path leads to a node of a kind if it holds nothing that ends texts and the node is found. -/
theorem leadsTo_eq_ok_true_iff {kind : Node → Bool} :
    t.leadsTo kind p = .ok true ↔ hasNul p = false ∧ ∃ n, t.find p = .ok n ∧ kind n = true := by
  unfold leadsTo
  cases hasNul p with
  | true => exact iff_of_false nofun nofun
  | false =>
    rw [if_neg Bool.false_ne_true]
    cases hfind : t.find p with
    | ok n =>
      simp only [Except.ok.injEq, exists_eq_left', true_and]
    | error e =>
      refine iff_of_false ?_ (by simp)
      cases e <;> nofun

end Find

end FileTree

end BuildScript.Files
