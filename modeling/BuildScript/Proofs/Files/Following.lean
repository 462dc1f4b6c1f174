import BuildScript.Files.Resolve
import BuildScript.Proofs.Files.Lookup

/-!
Following names through a tree, link by link. `FileTree.Follows` counts the steps that it takes to
follow names from a trail, each link by its target, however many links there are; the links of a tree
form no cycle if this always comes to an end (`FileTree.NoCycle`). Main statements: where it ends and
after how many steps is determined (`Follows.unique`), the number of steps by the place alone
(`Follows.of_spot_eq`), and names in a row are followed one part after the other
(`Follows.split`).
-/

namespace BuildScript.Files

namespace Path

theorem foldParents_concat (names : List String) {name : String} (h : name ≠ "..") :
    foldParents (names ++ [name]) = foldParents names ++ [name] := by
  unfold foldParents
  rw [List.foldl_append, List.foldl_cons, List.foldl_nil, if_neg h, List.reverse_cons]

theorem foldParents_concat_up (names : List String) :
    foldParents (names ++ [".."]) = (foldParents names).dropLast := by
  unfold foldParents
  rw [List.foldl_append, List.foldl_cons, List.foldl_nil, if_pos rfl, List.drop_one,
    List.dropLast_reverse]

theorem foldParents_eq_self {names : List String} (h : ".." ∉ names) :
    foldParents names = names := by
  induction names using List.reverseRecOn with
  | nil => rfl
  | append_singleton names name ih =>
    rw [List.mem_append, List.mem_singleton, not_or] at h
    rw [foldParents_concat names (Ne.symm h.2), ih h.1]

end Path

/-- A name that stands for more than where one is, or the directory above. -/
structure IsOwnName (name : String) : Prop where
  ne_empty : name ≠ ""
  ne_dot : name ≠ "."
  ne_up : name ≠ ".."

instance (name : String) : Decidable (IsOwnName name) :=
  decidable_of_iff (name ≠ "" ∧ name ≠ "." ∧ name ≠ "..")
    ⟨fun ⟨a, b, c⟩ => ⟨a, b, c⟩, fun ⟨a, b, c⟩ => ⟨a, b, c⟩⟩

theorem IsEntryName.isOwnName {name : String} (h : IsEntryName name) : IsOwnName name :=
  ⟨h.ne_empty, h.ne_dot, h.ne_up⟩

/-- Where the target of a link is followed from. -/
def Trail.ofLink (trail : Trail) (target : String) : Trail :=
  if target.startsWith "/" then ⟨true, []⟩ else trail

namespace FileTree

/-- The place at which a trail ends. -/
def spot (t : FileTree) (trail : Trail) : List String := trail.fold t.current

variable {t : FileTree} {trail : Trail} {name : String} {names rest : List String}

theorem spot_root (t : FileTree) : t.spot ⟨true, []⟩ = [] := rfl

theorem spot_down (t : FileTree) (trail : Trail) (h : name ≠ "..") :
    t.spot (trail.down name) = t.spot trail ++ [name] := by
  unfold spot Trail.fold Trail.down
  dsimp only
  split
  · exact Path.foldParents_concat _ h
  · rw [← List.append_assoc]
    exact Path.foldParents_concat _ h

theorem spot_up (t : FileTree) (trail : Trail) : t.spot trail.up = (t.spot trail).dropLast := by
  obtain ⟨absolute, names⟩ := trail
  cases names using List.reverseRecOn with
  | nil =>
    cases absolute with
    | true => rfl
    | false =>
      show Path.foldParents (t.current ++ [".."]) = (Path.foldParents (t.current ++ [])).dropLast
      rw [Path.foldParents_concat_up, List.append_nil]
  | append_singleton names name =>
    have hlast : (names ++ [name]).getLast? = some name := List.getLast?_concat
    by_cases hname : name = ".."
    · subst hname
      have hup : Trail.up ⟨absolute, names ++ [".."]⟩ = ⟨absolute, names ++ [".."] ++ [".."]⟩ := by
        unfold Trail.up
        rw [hlast]
        rfl
      rw [hup]
      cases absolute with
      | true => exact Path.foldParents_concat_up _
      | false =>
        show Path.foldParents (t.current ++ (names ++ [".."] ++ [".."])) = _
        rw [← List.append_assoc, Path.foldParents_concat_up]
        rfl
    · have hup : Trail.up ⟨absolute, names ++ [name]⟩ = ⟨absolute, names⟩ := by
        unfold Trail.up
        rw [hlast]
        split
        · rename_i h
          cases h
        · rename_i h
          exact absurd (Option.some.inj h) hname
        · rw [List.dropLast_concat]
      have hdown : (⟨absolute, names ++ [name]⟩ : Trail) = Trail.down ⟨absolute, names⟩ name := rfl
      rw [hup, hdown, spot_down t _ hname, List.dropLast_concat]

/-- Follows names from a trail, each link by its target, to the trail where they end. A name that is
not there is passed over as it stands. The number counts the steps. -/
inductive Follows (t : FileTree) : Nat → Trail → List String → Trail → Prop where
  | nil (trail : Trail) : Follows t 0 trail [] trail
  | dot {n : Nat} {trail e : Trail} {name : String} {rest : List String}
      (hname : name = "" ∨ name = ".") (h : Follows t n trail rest e) :
      Follows t (n + 1) trail (name :: rest) e
  | up {n : Nat} {trail e : Trail} {rest : List String} (h : Follows t n trail.up rest e) :
      Follows t (n + 1) trail (".." :: rest) e
  | down {n : Nat} {trail e : Trail} {name : String} {rest : List String} (hname : IsOwnName name)
      (hno : ∀ target, t.nodeAt? (t.spot (trail.down name)) ≠ some (.link target))
      (h : Follows t n (trail.down name) rest e) : Follows t (n + 1) trail (name :: rest) e
  | link {n : Nat} {trail e : Trail} {name target : String} {rest : List String}
      (hname : IsOwnName name)
      (hlink : t.nodeAt? (t.spot (trail.down name)) = some (.link target))
      (h : Follows t n (trail.ofLink target) (Path.pieces target ++ rest) e) :
      Follows t (n + 1) trail (name :: rest) e

/-- The links of the tree form no cycle: whatever names are followed, and wherever from, that comes
to an end. -/
def NoCycle (t : FileTree) : Prop := ∀ trail names, ∃ n e, t.Follows n trail names e

/-- The trails that are looked at when names are followed. -/
inductive Looks (t : FileTree) : Trail → List String → Trail → Prop where
  | here {trail : Trail} {name : String} {rest : List String} (hname : IsOwnName name) :
      Looks t trail (name :: rest) (trail.down name)
  | dot {trail q : Trail} {name : String} {rest : List String} (hname : name = "" ∨ name = ".")
      (h : Looks t trail rest q) : Looks t trail (name :: rest) q
  | up {trail q : Trail} {rest : List String} (h : Looks t trail.up rest q) :
      Looks t trail (".." :: rest) q
  | down {trail q : Trail} {name : String} {rest : List String} (hname : IsOwnName name)
      (hno : ∀ target, t.nodeAt? (t.spot (trail.down name)) ≠ some (.link target))
      (h : Looks t (trail.down name) rest q) : Looks t trail (name :: rest) q
  | link {trail q : Trail} {name target : String} {rest : List String} (hname : IsOwnName name)
      (hlink : t.nodeAt? (t.spot (trail.down name)) = some (.link target))
      (h : Looks t (trail.ofLink target) (Path.pieces target ++ rest) q) :
      Looks t trail (name :: rest) q

/-- There is no cycle where every link leads to a name next to it at which there is no link. -/
theorem noCycle_of_targets (h : ∀ (here : List String) (name target : String),
    t.nodeAt? (here ++ [name]) = some (.link target) → ∃ next, Path.pieces target = [next] ∧
      IsOwnName next ∧ target.startsWith "/" = false ∧
      ∀ target', t.nodeAt? (here ++ [next]) ≠ some (.link target')) : t.NoCycle := by
  intro trail names
  induction names generalizing trail with
  | nil => exact ⟨0, trail, .nil trail⟩
  | cons name rest ih =>
    by_cases hskip : name = "" ∨ name = "."
    · obtain ⟨n, e, hrest⟩ := ih trail
      exact ⟨n + 1, e, .dot hskip hrest⟩
    by_cases hup : name = ".."
    · subst hup
      obtain ⟨n, e, hrest⟩ := ih trail.up
      exact ⟨n + 1, e, .up hrest⟩
    have hname : IsOwnName name := ⟨fun h => hskip (.inl h), fun h => hskip (.inr h), hup⟩
    by_cases hlink : ∃ target, t.nodeAt? (t.spot (trail.down name)) = some (.link target)
    · obtain ⟨target, hlink⟩ := hlink
      rw [spot_down t _ hup] at hlink
      obtain ⟨next, hpieces, hnext, hrel, hno⟩ := h _ _ _ hlink
      rw [← spot_down t _ hnext.ne_up] at hno
      rw [← spot_down t _ hup] at hlink
      obtain ⟨n, e, hrest⟩ := ih (trail.down next)
      have hstart : trail.ofLink target = trail := by
        unfold Trail.ofLink
        rw [hrel, if_neg Bool.false_ne_true]
      refine ⟨n + 1 + 1, e, .link hname hlink ?_⟩
      rw [hstart, hpieces]
      exact .down hnext hno hrest
    · obtain ⟨n, e, hrest⟩ := ih (trail.down name)
      exact ⟨n + 1, e, .down hname (fun target htarget => hlink ⟨target, htarget⟩) hrest⟩

/-! ## Where it ends -/

namespace Follows

variable {n n' : Nat} {e e' : Trail}

/-- Where names end, and after how many steps, is determined. -/
theorem unique (h : t.Follows n trail names e) (h' : t.Follows n' trail names e') :
    n = n' ∧ e = e' := by
  induction h generalizing n' e' with
  | nil => cases h'; exact ⟨rfl, rfl⟩
  | dot hname _ ih =>
    cases h' with
    | dot _ h' =>
      obtain ⟨rfl, rfl⟩ := ih h'
      exact ⟨rfl, rfl⟩
    | up h' => exact absurd hname (by decide)
    | down hown => exact absurd hname (not_or.mpr ⟨hown.ne_empty, hown.ne_dot⟩)
    | link hown => exact absurd hname (not_or.mpr ⟨hown.ne_empty, hown.ne_dot⟩)
  | up _ ih =>
    cases h' with
    | dot hname => exact absurd hname (by decide)
    | up h' =>
      obtain ⟨rfl, rfl⟩ := ih h'
      exact ⟨rfl, rfl⟩
    | down hown => exact absurd rfl hown.ne_up
    | link hown => exact absurd rfl hown.ne_up
  | down hown hno _ ih =>
    cases h' with
    | dot hname => exact absurd hname (not_or.mpr ⟨hown.ne_empty, hown.ne_dot⟩)
    | up => exact absurd rfl hown.ne_up
    | down _ _ h' =>
      obtain ⟨rfl, rfl⟩ := ih h'
      exact ⟨rfl, rfl⟩
    | link _ hlink => exact absurd hlink (hno _)
  | link hown hlink _ ih =>
    cases h' with
    | dot hname => exact absurd hname (not_or.mpr ⟨hown.ne_empty, hown.ne_dot⟩)
    | up => exact absurd rfl hown.ne_up
    | down _ hno => exact absurd hlink (hno _)
    | link _ hlink' h' =>
      obtain rfl : _ = _ := Node.link.inj (Option.some.inj (hlink.symm.trans hlink'))
      obtain ⟨rfl, rfl⟩ := ih h'
      exact ⟨rfl, rfl⟩

/-- From another trail that ends at the same place, names end at the same place, after as many
steps. -/
theorem of_spot_eq (h : t.Follows n trail names e) {trail' : Trail}
    (hspot : t.spot trail' = t.spot trail) :
    ∃ e', t.Follows n trail' names e' ∧ t.spot e' = t.spot e := by
  induction h generalizing trail' with
  | nil trail => exact ⟨trail', .nil trail', hspot⟩
  | dot hname _ ih =>
    obtain ⟨e', he', hs⟩ := ih hspot
    exact ⟨e', .dot hname he', hs⟩
  | @up n trail e rest _ ih =>
    have hup : t.spot trail'.up = t.spot trail.up := by rw [spot_up, spot_up, hspot]
    obtain ⟨e', he', hs⟩ := ih hup
    exact ⟨e', .up he', hs⟩
  | @down n trail e name rest hown hno _ ih =>
    have hdown : t.spot (trail'.down name) = t.spot (trail.down name) := by
      rw [spot_down t _ hown.ne_up, spot_down t _ hown.ne_up, hspot]
    obtain ⟨e', he', hs⟩ := ih hdown
    exact ⟨e', .down hown (hdown ▸ hno) he', hs⟩
  | @link n trail e name target rest hown hlink _ ih =>
    have hdown : t.spot (trail'.down name) = t.spot (trail.down name) := by
      rw [spot_down t _ hown.ne_up, spot_down t _ hown.ne_up, hspot]
    have hstart : t.spot (trail'.ofLink target) = t.spot (trail.ofLink target) := by
      unfold Trail.ofLink
      split
      · rfl
      · exact hspot
    obtain ⟨e', he', hs⟩ := ih hstart
    exact ⟨e', .link hown (hdown ▸ hlink) he', hs⟩

/-- Names in a row are followed one part after the other. -/
theorem split {a b : List String} (h : t.Follows n trail (a ++ b) e) :
    ∃ n₁ n₂ mid, t.Follows n₁ trail a mid ∧ t.Follows n₂ mid b e ∧ n = n₁ + n₂ := by
  generalize hnames : a ++ b = names at h
  induction h generalizing a with
  | nil trail =>
    obtain ⟨rfl, rfl⟩ := List.append_eq_nil_iff.mp hnames
    exact ⟨0, 0, trail, .nil trail, .nil trail, rfl⟩
  | @dot n trail e name rest hname h ih =>
    rcases List.append_eq_cons_iff.mp hnames with ⟨rfl, rfl⟩ | ⟨a, rfl, rfl⟩
    · exact ⟨0, n + 1, trail, .nil trail, .dot hname h, (Nat.zero_add _).symm⟩
    · obtain ⟨n₁, n₂, mid, h₁, h₂, rfl⟩ := ih rfl
      exact ⟨n₁ + 1, n₂, mid, .dot hname h₁, h₂, Nat.add_right_comm ..⟩
  | @up n trail e rest h ih =>
    rcases List.append_eq_cons_iff.mp hnames with ⟨rfl, rfl⟩ | ⟨a, rfl, rfl⟩
    · exact ⟨0, n + 1, trail, .nil trail, .up h, (Nat.zero_add _).symm⟩
    · obtain ⟨n₁, n₂, mid, h₁, h₂, rfl⟩ := ih rfl
      exact ⟨n₁ + 1, n₂, mid, .up h₁, h₂, Nat.add_right_comm ..⟩
  | @down n trail e name rest hown hno h ih =>
    rcases List.append_eq_cons_iff.mp hnames with ⟨rfl, rfl⟩ | ⟨a, rfl, rfl⟩
    · exact ⟨0, n + 1, trail, .nil trail, .down hown hno h, (Nat.zero_add _).symm⟩
    · obtain ⟨n₁, n₂, mid, h₁, h₂, rfl⟩ := ih rfl
      exact ⟨n₁ + 1, n₂, mid, .down hown hno h₁, h₂, Nat.add_right_comm ..⟩
  | @link n trail e name target rest hown hlink h ih =>
    rcases List.append_eq_cons_iff.mp hnames with ⟨rfl, rfl⟩ | ⟨a, rfl, rfl⟩
    · exact ⟨0, n + 1, trail, .nil trail, .link hown hlink h, (Nat.zero_add _).symm⟩
    · obtain ⟨n₁, n₂, mid, h₁, h₂, rfl⟩ := ih (List.append_assoc ..)
      exact ⟨n₁ + 1, n₂, mid, .link hown hlink h₁, h₂, Nat.add_right_comm ..⟩

end Follows

/-! ## What is looked at on the way -/

namespace Looks

variable {q : Trail}

/-- What is looked at for the names in front is looked at. -/
theorem append {a : List String} (h : t.Looks trail a q) (b : List String) :
    t.Looks trail (a ++ b) q := by
  induction h with
  | here hown => exact .here hown
  | dot hname _ ih => exact .dot hname ih
  | up _ ih => exact .up ih
  | down hown hno _ ih => exact .down hown hno ih
  | link hown hlink _ ih =>
    rw [List.append_assoc] at ih
    exact .link hown hlink ih

/-- What is looked at for the names behind is looked at, from where the names in front end. -/
theorem after {n : Nat} {a b : List String} {mid : Trail} (ha : t.Follows n trail a mid)
    (h : t.Looks mid b q) : t.Looks trail (a ++ b) q := by
  induction ha with
  | nil => exact h
  | dot hname _ ih => exact .dot hname (ih h)
  | up _ ih => exact .up (ih h)
  | down hown hno _ ih => exact .down hown hno (ih h)
  | link hown hlink _ ih =>
    have hrest := ih h
    rw [List.append_assoc] at hrest
    exact .link hown hlink hrest

end Looks

end FileTree

end BuildScript.Files
