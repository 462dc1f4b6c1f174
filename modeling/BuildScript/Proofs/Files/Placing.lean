import BuildScript.Files.Writing
import BuildScript.Proofs.Files.Lookup
import BuildScript.Table

/-!
Files that are placed in a tree, and text that is added to them. The file stands at its place
(`FileTree.nodeAt?_place`, `FileTree.addText_found`), nothing changes its kind
(`FileTree.extends_place`), and other files keep their text (`FileTree.nodeAt?_place_of_ne`,
`FileTree.nodeAt?_addText_of_ne`).
-/

namespace BuildScript.Files

namespace Node

/-- Both are files, both are directories, or both are links with one target. -/
def SameKind : Node → Node → Prop
  | .file _, .file _ => True
  | .dir _, .dir _ => True
  | .link target, .link target' => target = target'
  | _, _ => False

theorem SameKind.refl (n : Node) : n.SameKind n := by
  cases n <;> simp [SameKind]

theorem SameKind.trans {n n' n'' : Node} (h : n.SameKind n') (h' : n'.SameKind n'') :
    n.SameKind n'' := by
  cases n <;> cases n' <;> cases n'' <;> simp_all [SameKind]

theorem SameKind.dir {es : List (String × Node)} {n : Node} (h : (Node.dir es).SameKind n) :
    ∃ es', n = .dir es' := by
  cases n <;> simp_all [SameKind]

theorem SameKind.link {target : String} {n : Node} (h : (Node.link target).SameKind n) :
    n = .link target := by
  cases n <;> simp_all [SameKind]

theorem SameKind.not_link {n n' : Node} (h : n.SameKind n') (hn : ∀ target, n ≠ .link target)
    (target : String) : n' ≠ .link target := by
  rintro rfl
  cases n with
  | link target' => exact hn target' rfl
  | file text => exact h
  | dir es => exact h

theorem setEntry_eq_putIn (name : String) (n : Node) (es : List (String × Node)) :
    setEntry name n es = Table.putIn name n es := by
  induction es with
  | nil => rfl
  | cons e rest ih =>
    obtain ⟨k, old⟩ := e
    rw [setEntry, Table.putIn, ih]
    split
    · rename_i h
      rw [h]
    · rfl

theorem lookup_setEntry (name k : String) (n : Node) (es : List (String × Node)) :
    (setEntry name n es).lookup k = if k = name then some n else es.lookup k := by
  rw [setEntry_eq_putIn, Table.lookup_putIn]

theorem place_singleton (new : Node) (name : String) (es : List (String × Node)) :
    (dir es).place new [name] = dir (setEntry name new es) := rfl

theorem place_cons (new : Node) {name : String} {rest : List String} {es : List (String × Node)}
    {c : Node} (hrest : rest ≠ []) (hc : es.lookup name = some c) :
    (dir es).place new (name :: rest) = dir (setEntry name (c.place new rest) es) := by
  cases rest with
  | nil => exact absurd rfl hrest
  | cons k rest =>
    rw [place]
    · simp only [hc]
    · simp

/-- What is placed in a directory stands there. -/
theorem below?_place {n : Node} {dir : List String} {es : List (String × Node)}
    (h : n.below? dir = some (.dir es)) (name : String) (new : Node) :
    (n.place new (dir ++ [name])).below? (dir ++ [name]) = some new := by
  induction dir generalizing n with
  | nil =>
    obtain rfl := Option.some.inj h
    rw [List.nil_append, place_singleton, below?_singleton, child?_dir, lookup_setEntry, if_pos rfl]
  | cons k dir ih =>
    rw [below?, Option.bind_eq_some_iff] at h
    obtain ⟨c, hc, hbelow⟩ := h
    obtain ⟨es', rfl, hlookup⟩ := dir_of_child? hc
    rw [List.cons_append, place_cons new (List.append_ne_nil_of_right_ne_nil _ (List.cons_ne_nil _ _))
      hlookup, below?, child?_dir, lookup_setEntry, if_pos rfl, Option.bind_some]
    exact ih hbelow

/-- At a place that is not where something is placed, nor below it, there is what there was, but for
what directories hold. -/
theorem below?_place_of_ne {n : Node} {dir : List String} {es : List (String × Node)}
    (h : n.below? dir = some (.dir es)) (name : String) (new : Node) {here : List String} {m : Node}
    (hm : n.below? here = some m) (hne : ∀ rel, here ≠ dir ++ name :: rel) :
    ∃ m', (n.place new (dir ++ [name])).below? here = some m' ∧ m.SameKind m' ∧
      ((∀ es, m ≠ .dir es) → m' = m) := by
  induction dir generalizing n here with
  | nil =>
    obtain rfl := Option.some.inj h
    rw [List.nil_append, place_singleton]
    cases here with
    | nil =>
      obtain rfl := Option.some.inj hm
      exact ⟨_, rfl, trivial, fun hno => absurd rfl (hno es)⟩
    | cons k rest =>
      have hk : k ≠ name := fun hk => hne rest (by rw [hk, List.nil_append])
      rw [below?, child?_dir] at hm ⊢
      rw [lookup_setEntry, if_neg hk]
      exact ⟨m, hm, .refl m, fun _ => rfl⟩
  | cons x dir ih =>
    rw [below?, Option.bind_eq_some_iff] at h
    obtain ⟨c, hc, hbelow⟩ := h
    obtain ⟨es', rfl, hlookup⟩ := dir_of_child? hc
    rw [List.cons_append, place_cons new (List.append_ne_nil_of_right_ne_nil _ (List.cons_ne_nil _ _))
      hlookup]
    cases here with
    | nil =>
      obtain rfl := Option.some.inj hm
      exact ⟨_, rfl, trivial, fun hno => absurd rfl (hno es')⟩
    | cons k rest =>
      rw [below?, child?_dir] at hm ⊢
      rw [lookup_setEntry]
      by_cases hk : k = x
      · subst hk
        rw [if_pos rfl, Option.bind_some]
        rw [hlookup, Option.bind_some] at hm
        exact ih hbelow hm fun rel hrel => hne rel (by rw [hrel, List.cons_append])
      · rw [if_neg hk]
        exact ⟨m, hm, .refl m, fun _ => rfl⟩

end Node

namespace FileTree

/-- The tree `t'` holds a node of the same kind wherever `t` holds one, and has the same current
directory. -/
structure Extends (t t' : FileTree) : Prop where
  node : ∀ here n, t.nodeAt? here = some n → ∃ n', t'.nodeAt? here = some n' ∧ n.SameKind n'
  current : t'.current = t.current

variable {t t' : FileTree} {here there : List String} {es : List (String × Node)} {name : String}

theorem Extends.refl (t : FileTree) : t.Extends t := ⟨fun _ n hn => ⟨n, hn, .refl n⟩, rfl⟩

theorem Extends.trans {t'' : FileTree} (h : t.Extends t') (h' : t'.Extends t'') : t.Extends t'' where
  node here n hn := by
    obtain ⟨n', hn', hkind⟩ := h.node here n hn
    obtain ⟨n'', hn'', hkind'⟩ := h'.node here n' hn'
    exact ⟨n'', hn'', hkind.trans hkind'⟩
  current := h'.current.trans h.current

theorem Extends.dir (h : t.Extends t') (hes : t.nodeAt? here = some (.dir es)) :
    ∃ es', t'.nodeAt? here = some (.dir es') ∧
      ∀ name n, es.lookup name = some n → ∃ n', es'.lookup name = some n' ∧ n.SameKind n' := by
  obtain ⟨n', hn', hkind⟩ := h.node here _ hes
  obtain ⟨es', rfl⟩ := hkind.dir
  refine ⟨es', hn', fun name n hn => ?_⟩
  rw [← nodeAt?_concat hes] at hn
  rw [← nodeAt?_concat hn']
  exact h.node _ _ hn

/-! ## Placing a file -/

theorem nodeAt?_place (hes : t.nodeAt? here = some (.dir es)) (name : String) (n : Node) :
    (t.place (here ++ [name]) n).nodeAt? (here ++ [name]) = some n :=
  Node.below?_place hes name n

/-- Placing a file changes the kind of nothing, if there was a file before or nothing. -/
theorem extends_place (hes : t.nodeAt? here = some (.dir es)) {text : String}
    (hold : ∀ n, es.lookup name = some n → ∃ old, n = .file old) :
    t.Extends (t.place (here ++ [name]) (.file text)) where
  node there n hn := by
    by_cases hbelow : ∃ rel, there = here ++ name :: rel
    · obtain ⟨rel, rfl⟩ := hbelow
      rw [List.append_cons] at hn ⊢
      have hfile : ∃ old, t.nodeAt? (here ++ [name]) = some (.file old) := by
        unfold nodeAt? at hn
        rw [Node.below?_append, Option.bind_eq_some_iff] at hn
        obtain ⟨c, hc, -⟩ := hn
        obtain ⟨old, rfl⟩ := hold c ((nodeAt?_concat hes name).symm.trans hc)
        exact ⟨old, hc⟩
      obtain ⟨old, hold⟩ := hfile
      cases rel with
      | nil =>
        rw [List.append_nil] at hn ⊢
        obtain rfl := Option.some.inj (hold.symm.trans hn)
        exact ⟨_, nodeAt?_place hes name _, trivial⟩
      | cons k rel =>
        obtain ⟨es', hdir⟩ := dir_of_nodeAt?_append hn (List.cons_ne_nil k rel)
        cases hold.symm.trans hdir
    · obtain ⟨n', hn', hkind, -⟩ :=
        Node.below?_place_of_ne hes name (.file text) hn fun rel hrel => hbelow ⟨rel, hrel⟩
      exact ⟨n', hn', hkind⟩
  current := rfl

/-- A file keeps its text if a file is placed elsewhere. -/
theorem nodeAt?_place_of_ne {old text : String}
    (hfile : t.nodeAt? there = some (.file old)) (hes : t.nodeAt? here = some (.dir es))
    (hold : ∀ n, es.lookup name = some n → ∃ old, n = .file old) (hne : there ≠ here ++ [name]) :
    (t.place (here ++ [name]) (.file text)).nodeAt? there = some (.file old) := by
  have hbelow : ∀ rel, there ≠ here ++ name :: rel := by
    rintro rel rfl
    rw [List.append_cons] at hfile hne
    cases rel with
    | nil => exact hne (List.append_nil _)
    | cons k rel =>
      obtain ⟨es', hdir⟩ := dir_of_nodeAt?_append hfile (List.cons_ne_nil k rel)
      obtain ⟨old', hold'⟩ := hold _ ((nodeAt?_concat hes name).symm.trans hdir)
      cases hold'
  obtain ⟨n', hn', -, hsame⟩ := Node.below?_place_of_ne hes name (.file text) hfile hbelow
  have hno : ∀ es, Node.file old ≠ .dir es := fun es h => Node.noConfusion h
  rw [hsame hno] at hn'
  exact hn'

/-! ## Adding text -/

/-- Text that is added stands at the end of the file, and nothing changes its kind. -/
theorem addText_found {old : String} (h : t.nodeAt? there = some (.file old)) (text : String) :
    t.Extends (t.addText there text) ∧
      (t.addText there text).nodeAt? there = some (.file (old ++ text)) := by
  unfold addText
  simp only [h]
  cases there using List.reverseRecOn with
  | nil =>
    have hroot : t.root = .file old := Option.some.inj h
    refine ⟨⟨fun here n hn => ?_, rfl⟩, rfl⟩
    cases here with
    | nil =>
      obtain rfl := Option.some.inj (h.symm.trans hn)
      exact ⟨_, rfl, trivial⟩
    | cons k rest =>
      obtain ⟨es, hes⟩ := dir_of_nodeAt?_append (a := []) hn (List.cons_ne_nil k rest)
      cases h.symm.trans hes
  | append_singleton dir name =>
    obtain ⟨es, hes, hname⟩ := dir_of_nodeAt?_concat h
    refine ⟨extends_place hes fun n hn => ?_, nodeAt?_place hes name _⟩
    exact ⟨old, Option.some.inj (hn.symm.trans hname)⟩

theorem extends_addText (place : List String) (text : String) :
    t.Extends (t.addText place text) := by
  by_cases hfile : ∃ old, t.nodeAt? place = some (.file old)
  · obtain ⟨old, hold⟩ := hfile
    exact (addText_found hold text).1
  · have hsame : t.addText place text = t := by
      unfold addText
      split
      · rename_i old hold
        exact absurd ⟨old, hold⟩ hfile
      · rfl
    rw [hsame]
    exact .refl t

/-- Text that is added elsewhere changes no file. -/
theorem nodeAt?_addText_of_ne {place : List String} {old : String}
    (h : t.nodeAt? there = some (.file old)) (hne : there ≠ place) (text : String) :
    (t.addText place text).nodeAt? there = some (.file old) := by
  unfold addText
  split
  · rename_i other hother
    cases place using List.reverseRecOn with
    | nil =>
      cases there with
      | nil => exact absurd rfl hne
      | cons k rest =>
        obtain ⟨es, hes⟩ := dir_of_nodeAt?_append (a := []) h (List.cons_ne_nil k rest)
        cases hother.symm.trans hes
    | append_singleton dir name =>
      obtain ⟨es, hes, hname⟩ := dir_of_nodeAt?_concat hother
      refine nodeAt?_place_of_ne h hes (fun n hn => ?_) hne
      exact ⟨other, Option.some.inj (hn.symm.trans hname)⟩
  · exact h

end FileTree

end BuildScript.Files
