import BuildScript.Files.Probe
import BuildScript.Proofs.Files.Lookup
import BuildScript.Table
import Mathlib.Data.List.Lex
import Mathlib.Data.String.Basic
import Mathlib.Order.Bounds.Basic

/-!
The first directory below a node in which something holds. Directories are ordered by the names that
lead to them, from the left: a directory comes before those below it, and of two siblings the one
with the lesser name comes first. Main statement: `Node.firstDir_eq_some_iff`, that the search comes
to the least directory in this order, in whatever order the entries stand.
-/

namespace BuildScript.Files

/-- What is least in a set of places below `here`, if there is anything in the set. -/
inductive Least (here : List String) (S : Set (List String)) : Option (List String) → Prop where
  | none (h : S = ∅) : Least here S none
  | some {rel : List String} (h : IsLeast S rel) : Least here S (some (here ++ rel))

/-- The same where the first name of the places is told as well. -/
inductive LeastAmong (here : List String) (S : Set (List String)) :
    Option (String × List String) → Prop where
  | none (h : S = ∅) : LeastAmong here S none
  | some {name : String} {rel : List String} (h : IsLeast S (name :: rel)) :
      LeastAmong here S (some (name, here ++ name :: rel))

/-- In every directory from the node down the entries have distinct names. -/
def Node.Distinct (n : Node) : Prop :=
  ∀ rel es, n.below? rel = some (.dir es) → (es.map (·.1)).Nodup

variable (holds : List String → Node → Bool) (here : List String)

/-- The directories from a node at `here` down in which something holds. -/
def Node.dirsWith (n : Node) : Set (List String) :=
  {rel | ∃ es, n.below? rel = some (.dir es) ∧ holds (here ++ rel) (.dir es) = true}

/-- The directories from the entries of a directory down in which something holds. -/
def dirsAmong (es : List (String × Node)) : Set (List String) :=
  {rel | ∃ name c rest, (name, c) ∈ es ∧ rel = name :: rest ∧
    rest ∈ c.dirsWith holds (here ++ [name])}

theorem Node.Distinct.child {es : List (String × Node)} (h : (Node.dir es).Distinct) {name : String}
    {c : Node} (hc : (name, c) ∈ es) : c.Distinct := by
  intro rel es' hrel
  have hlookup : es.lookup name = some c := (Table.mem_iff_lookup name c (h [] es rfl)).mp hc
  refine h (name :: rel) es' ?_
  rw [Node.below?, Node.child?_dir, hlookup]
  exact hrel

theorem Node.distinct_dir {es : List (String × Node)} (hes : (es.map (·.1)).Nodup)
    (h : ∀ name c, (name, c) ∈ es → c.Distinct) : (Node.dir es).Distinct := by
  intro rel es' hrel
  cases rel with
  | nil =>
    obtain rfl : es = es' := Node.dir.inj (Option.some.inj hrel)
    exact hes
  | cons name rest =>
    rw [Node.below?, Node.child?_dir, Option.bind_eq_some_iff] at hrel
    obtain ⟨c, hc, hrest⟩ := hrel
    exact h name c ((Table.mem_iff_lookup name c hes).mpr hc) rest es' hrest

theorem FileTree.Proper.distinct_of_nodeAt? {t : FileTree} (ht : t.Proper) {here : List String}
    {n : Node} (hn : t.nodeAt? here = some n) : n.Distinct := by
  intro rel es hes
  refine ht.distinct (here ++ rel) es ?_
  unfold FileTree.nodeAt? at hn ⊢
  rw [Node.below?_append, hn]
  exact hes

variable {holds here}

/-- What is no directory has none below it. -/
theorem dirsWith_of_not_dir {n : Node} (h : ∀ es, n ≠ .dir es) : n.dirsWith holds here = ∅ := by
  refine Set.eq_empty_of_forall_notMem fun rel hrel => ?_
  obtain ⟨es, hes, -⟩ := hrel
  cases rel with
  | nil => exact h es (Option.some.inj hes)
  | cons name rel =>
    rw [Node.below?, Option.bind_eq_some_iff] at hes
    obtain ⟨c, hc, -⟩ := hes
    obtain ⟨es', rfl, -⟩ := Node.dir_of_child? hc
    exact h es' rfl

theorem mem_dirsWith_nil {es : List (String × Node)} :
    [] ∈ (Node.dir es).dirsWith holds here ↔ holds here (.dir es) = true := by
  constructor
  · rintro ⟨es', hes', hholds⟩
    obtain rfl : es = es' := Node.dir.inj (Option.some.inj hes')
    rwa [List.append_nil] at hholds
  · intro h
    exact ⟨es, rfl, by rwa [List.append_nil]⟩

theorem mem_dirsWith_cons {es : List (String × Node)} (hes : (es.map (·.1)).Nodup) {name : String}
    {rel : List String} :
    name :: rel ∈ (Node.dir es).dirsWith holds here ↔ name :: rel ∈ dirsAmong holds here es := by
  constructor
  · rintro ⟨es', hes', hholds⟩
    rw [Node.below?, Node.child?_dir, Option.bind_eq_some_iff] at hes'
    obtain ⟨c, hc, hrel⟩ := hes'
    refine ⟨name, c, rel, (Table.mem_iff_lookup name c hes).mpr hc, rfl, es', hrel, ?_⟩
    rwa [List.append_assoc, List.singleton_append]
  · rintro ⟨name', c, rest, hc, heq, es', hes', hholds⟩
    obtain ⟨rfl, rfl⟩ := List.cons.inj heq
    have hlookup := (Table.mem_iff_lookup name c hes).mp hc
    refine ⟨es', ?_, ?_⟩
    · rw [Node.below?, Node.child?_dir, hlookup]
      exact hes'
    · rwa [List.append_assoc, List.singleton_append] at hholds

theorem nil_not_mem_dirsAmong (es : List (String × Node)) : [] ∉ dirsAmong holds here es := by
  rintro ⟨name, c, rest, -, heq, -⟩
  cases heq

theorem mem_dirsAmong_cons {name : String} {c : Node} {es : List (String × Node)}
    {rel : List String} :
    rel ∈ dirsAmong holds here ((name, c) :: es) ↔
      (∃ rest, rel = name :: rest ∧ rest ∈ c.dirsWith holds (here ++ [name])) ∨
        rel ∈ dirsAmong holds here es := by
  constructor
  · rintro ⟨name', c', rest, hmem, rfl, hrest⟩
    rcases List.mem_cons.mp hmem with heq | hmem
    · obtain ⟨rfl, rfl⟩ := Prod.mk.inj heq
      exact .inl ⟨rest, rfl, hrest⟩
    · exact .inr ⟨name', c', rest, hmem, rfl, hrest⟩
  · rintro (⟨rest, rfl, hrest⟩ | ⟨name', c', rest, hmem, rfl, hrest⟩)
    · exact ⟨name, c, rest, List.mem_cons_self, rfl, hrest⟩
    · exact ⟨name', c', rest, List.mem_cons_of_mem _ hmem, rfl, hrest⟩

theorem head_mem_of_mem_dirsAmong {es : List (String × Node)} {name : String} {rel : List String}
    (h : name :: rel ∈ dirsAmong holds here es) : name ∈ es.map (·.1) := by
  obtain ⟨name', c, rest, hmem, heq, -⟩ := h
  obtain ⟨rfl, rfl⟩ := List.cons.inj heq
  exact List.mem_map.mpr ⟨(name, c), hmem, rfl⟩

/-! ## The search -/

/-- Of a directory: its own place, if something holds there, comes before what is below. -/
theorem least_dir {es : List (String × Node)} (hes : (es.map (·.1)).Nodup)
    (h : LeastAmong here (dirsAmong holds here es) (firstAmong holds here es)) :
    Least here ((Node.dir es).dirsWith holds here) ((Node.dir es).firstDir holds here) := by
  rw [Node.firstDir]
  by_cases hholds : holds here (.dir es) = true
  · rw [if_pos hholds]
    have hleast : IsLeast ((Node.dir es).dirsWith holds here) [] :=
      ⟨mem_dirsWith_nil.mpr hholds, fun rel _ => not_lt.mp (List.not_lt_nil rel)⟩
    have hsome : Least here _ (some (here ++ [])) := .some hleast
    rwa [List.append_nil] at hsome
  · rw [if_neg hholds]
    have hsame : (Node.dir es).dirsWith holds here = dirsAmong holds here es := by
      ext rel
      cases rel with
      | nil => exact iff_of_false (fun h => hholds (mem_dirsWith_nil.mp h)) (nil_not_mem_dirsAmong es)
      | cons name rel => exact mem_dirsWith_cons hes
    rw [hsame]
    generalize firstAmong holds here es = found at h
    cases h with
    | none h => exact .none h
    | some h => exact .some h

/-- Of entries: the one with the least name below which something holds. -/
theorem leastAmong_cons {name : String} {c : Node} {es : List (String × Node)}
    (hname : name ∉ es.map (·.1))
    (hc : Least (here ++ [name]) (c.dirsWith holds (here ++ [name]))
      (c.firstDir holds (here ++ [name])))
    (hes : LeastAmong here (dirsAmong holds here es) (firstAmong holds here es)) :
    LeastAmong here (dirsAmong holds here ((name, c) :: es))
      (firstAmong holds here ((name, c) :: es)) := by
  rw [firstAmong]
  generalize firstAmong holds here es = others at hes
  generalize c.firstDir holds (here ++ [name]) = found at hc
  cases hc with
  | none hnone =>
    have hsame : dirsAmong holds here ((name, c) :: es) = dirsAmong holds here es := by
      ext rel
      rw [mem_dirsAmong_cons, hnone]
      simp
    rw [hsame]
    exact hes
  | @some rel hrel =>
    have hplace : here ++ [name] ++ rel = here ++ name :: rel := by
      rw [List.append_assoc, List.singleton_append]
    have hmem : name :: rel ∈ dirsAmong holds here ((name, c) :: es) :=
      mem_dirsAmong_cons.mpr (.inl ⟨rel, rfl, hrel.1⟩)
    cases hes with
    | none hnone =>
      rw [hplace]
      refine .some ⟨hmem, fun rel' hrel' => ?_⟩
      rcases mem_dirsAmong_cons.mp hrel' with ⟨rest, rfl, hrest⟩ | hother
      · exact List.cons_le_cons name (hrel.2 hrest)
      · rw [hnone] at hother
        exact absurd hother (Set.notMem_empty rel')
    | @some other orel hother =>
      have hne : name ≠ other := fun heq => hname (heq ▸ head_mem_of_mem_dirsAmong hother.1)
      dsimp only
      by_cases hlt : other < name
      · rw [if_pos hlt]
        refine .some ⟨mem_dirsAmong_cons.mpr (.inr hother.1), fun rel' hrel' => ?_⟩
        rcases mem_dirsAmong_cons.mp hrel' with ⟨rest, rfl, -⟩ | hrel'
        · exact le_of_lt (List.cons_lt_cons_iff.mpr (.inl hlt))
        · exact hother.2 hrel'
      · rw [if_neg hlt, hplace]
        have hfirst : name < other := lt_of_le_of_ne (not_lt.mp hlt) hne
        refine .some ⟨hmem, fun rel' hrel' => ?_⟩
        rcases mem_dirsAmong_cons.mp hrel' with ⟨rest, rfl, hrest⟩ | hrel'
        · exact List.cons_le_cons name (hrel.2 hrest)
        · exact le_trans (le_of_lt (List.cons_lt_cons_iff.mpr (.inl hfirst))) (hother.2 hrel')

mutual

/-- The search comes to the least directory in which something holds. -/
theorem least_firstDir (holds : List String → Node → Bool) (here : List String) :
    (n : Node) → n.Distinct → Least here (n.dirsWith holds here) (n.firstDir holds here)
  | .file _, _ => by
    rw [Node.firstDir.eq_def]
    exact .none (dirsWith_of_not_dir nofun)
  | .link _, _ => by
    rw [Node.firstDir.eq_def]
    exact .none (dirsWith_of_not_dir nofun)
  | .dir es, hn => least_dir (hn [] es rfl) (leastAmong_firstAmong holds here es (hn [] es rfl)
      fun name c hc => hn.child hc)

theorem leastAmong_firstAmong (holds : List String → Node → Bool) (here : List String) :
    (es : List (String × Node)) → (es.map (·.1)).Nodup → (∀ name c, (name, c) ∈ es → c.Distinct) →
      LeastAmong here (dirsAmong holds here es) (firstAmong holds here es)
  | [], _, _ => by
    rw [firstAmong]
    exact .none (Set.eq_empty_of_forall_notMem fun _ ⟨_, _, _, hmem, _⟩ => List.not_mem_nil hmem)
  | (name, c) :: es, hes, hdistinct =>
    leastAmong_cons (List.nodup_cons.mp hes).1
      (least_firstDir holds (here ++ [name]) c (hdistinct name c List.mem_cons_self))
      (leastAmong_firstAmong holds here es (List.nodup_cons.mp hes).2
        fun name' c' hc' => hdistinct name' c' (List.mem_cons_of_mem _ hc'))

end

variable {n : Node}

/-- Nothing is found if something holds in no directory. -/
theorem Node.firstDir_eq_none_iff (hn : n.Distinct) :
    n.firstDir holds here = none ↔ n.dirsWith holds here = ∅ := by
  have h := least_firstDir holds here n hn
  generalize n.firstDir holds here = found at h
  cases h with
  | none hempty => exact iff_of_true rfl hempty
  | @some rel hrel =>
    refine iff_of_false nofun fun hempty => ?_
    rw [hempty] at hrel
    exact Set.notMem_empty rel hrel.1

/-- What is found is the least directory in which something holds. -/
theorem Node.firstDir_eq_some_iff (hn : n.Distinct) {place : List String} :
    n.firstDir holds here = some place ↔
      ∃ rel, IsLeast (n.dirsWith holds here) rel ∧ place = here ++ rel := by
  have h := least_firstDir holds here n hn
  generalize n.firstDir holds here = found at h
  cases h with
  | none hempty =>
    refine iff_of_false nofun ?_
    rintro ⟨rel, hrel, -⟩
    rw [hempty] at hrel
    exact Set.notMem_empty rel hrel.1
  | @some rel hrel =>
    rw [Option.some.injEq]
    constructor
    · rintro rfl
      exact ⟨rel, hrel, rfl⟩
    · rintro ⟨rel', hrel', rfl⟩
      rw [hrel.unique hrel']

end BuildScript.Files
