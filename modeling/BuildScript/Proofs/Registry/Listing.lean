import BuildScript.Registry
import Mathlib.Data.Prod.Lex
import Mathlib.Data.String.Basic

/-!
The order in which a registry lists its functions. Keys are compared part by part, which is the
lexicographic order of their parts (`less_iff_parts_lt`), so the keys of a listing strictly increase
(`listed_increasing`) and no function is listed twice. What is listed is what the table of functions
holds (`mem_listed`).
-/

namespace BuildScript

namespace FunctionKey

/-- The parts of a key, the one that counts most in front. -/
def parts (k : FunctionKey) : String ×ₗ String ×ₗ Nat := toLex (k.space, toLex (k.name, k.arity))

theorem parts_injective : Function.Injective parts := by
  intro a b h
  have h1 : (a.space, toLex (a.name, a.arity)) = (b.space, toLex (b.name, b.arity)) :=
    toLex.injective h
  rw [Prod.mk.injEq] at h1
  have h2 : (a.name, a.arity) = (b.name, b.arity) := toLex.injective h1.2
  rw [Prod.mk.injEq] at h2
  cases a
  cases b
  simp only [FunctionKey.mk.injEq]
  exact ⟨h1.1, h2⟩

theorem less_iff_parts_lt (a b : FunctionKey) : a.less b = true ↔ a.parts < b.parts := by
  unfold less parts
  rw [Prod.Lex.toLex_lt_toLex, Prod.Lex.toLex_lt_toLex]
  simp

end FunctionKey

/-- Entries with different keys strictly increase once they are sorted by a comparison of the keys. -/
theorem pairwise_mergeSort_keys {κ α β : Type} [LinearOrder β] {f : κ → β} (hf : Function.Injective f)
    {less : κ → κ → Bool} (hless : ∀ a b, less a b = true ↔ f a < f b) {es : List (κ × α)}
    (hes : (es.map (·.1)).Nodup) :
    (es.mergeSort fun a b => !less b.1 a.1).Pairwise fun a b => f a.1 < f b.1 := by
  have hle : ∀ a b : κ × α, (!less b.1 a.1) = true ↔ f a.1 ≤ f b.1 := by
    intro a b
    rw [Bool.not_eq_true', ← Bool.not_eq_true, hless, not_lt]
  have hsorted : (es.mergeSort fun a b => !less b.1 a.1).Pairwise fun a b => (!less b.1 a.1) = true := by
    refine List.pairwise_mergeSort ?_ ?_ es
    · intro a b c hab hbc
      rw [hle] at hab hbc ⊢
      exact le_trans hab hbc
    · intro a b
      rw [Bool.or_eq_true, hle, hle]
      exact le_total _ _
  have hdistinct : ((es.mergeSort fun a b => !less b.1 a.1).map (·.1)).Nodup :=
    ((List.mergeSort_perm es _).map _).nodup_iff.mpr hes
  refine (hsorted.and (List.pairwise_map.mp hdistinct)).imp ?_
  intro a b h
  exact lt_of_le_of_ne ((hle a b).mp h.1) fun heq => h.2 (hf heq)

namespace Registry

/-- The entries that a listing is made of, in order. -/
theorem listed_eq_map (r : Registry) (space : Option String) :
    ∃ es : List (FunctionKey × Descriptor), r.listed space = es.map (·.2) ∧
      (es.Pairwise fun a b => a.1.less b.1 = true) ∧
      ∀ k d, (k, d) ∈ es ↔ r.functions.get? k = some d ∧ (space = none ∨ space = some k.space) := by
  let wanted := r.functions.entries.filter fun e => space.isNone || space = some e.1.space
  refine ⟨wanted.mergeSort fun a b => !b.1.less a.1, rfl, ?_, ?_⟩
  · have hwanted : (wanted.map (·.1)).Nodup :=
      r.functions.nodup.sublist (List.filter_sublist.map _)
    have hless := FunctionKey.less_iff_parts_lt
    exact (pairwise_mergeSort_keys FunctionKey.parts_injective hless hwanted).imp (hless _ _).mpr
  · intro k d
    rw [List.mem_mergeSort, List.mem_filter, Table.mem_entries_iff]
    simp

theorem mem_listed (r : Registry) (space : Option String) (d : Descriptor) :
    d ∈ r.listed space ↔
      ∃ k, r.functions.get? k = some d ∧ (space = none ∨ space = some k.space) := by
  obtain ⟨es, hlist, -, hmem⟩ := r.listed_eq_map space
  rw [hlist, List.mem_map]
  constructor
  · rintro ⟨⟨k, d'⟩, he, rfl⟩
    exact ⟨k, (hmem k d').mp he⟩
  · intro h
    obtain ⟨k, h⟩ := h
    exact ⟨(k, d), (hmem k d).mpr h, rfl⟩

/-- If every key leads to the function it is the key of, the keys of a listing strictly increase. -/
theorem listed_increasing {r : Registry} (h : ∀ k d, r.functions.get? k = some d → d.key = k)
    (space : Option String) :
    (r.listed space).Pairwise fun a b => a.key.parts < b.key.parts := by
  obtain ⟨es, hlist, hless, hmem⟩ := r.listed_eq_map space
  rw [hlist, List.pairwise_map]
  refine hless.imp_of_mem ?_
  intro a b ha hb hab
  rw [h a.1 a.2 ((hmem _ _).mp ha).1, h b.1 b.2 ((hmem _ _).mp hb).1]
  exact (FunctionKey.less_iff_parts_lt _ _).mp hab

end Registry

end BuildScript
