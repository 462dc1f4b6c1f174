import Mathlib.Data.List.Basic

/-!
Texts joined by a separator, and cut again. A text is cut at the first of a mark in one way only (`append_cons_inj`), so
pieces without commas can be told from the text that commas join them to (`intercalate_inj`).
-/

namespace BuildScript

/-- A text is cut at the first of a mark in one way only. -/
theorem append_cons_inj {c : Char} {a b a' b' : List Char} (ha : c ∉ a) (ha' : c ∉ a')
    (h : a ++ c :: b = a' ++ c :: b') : a = a' ∧ b = b' := by
  induction a generalizing a' with
  | nil =>
    cases a' with
    | nil => exact ⟨rfl, (List.cons.inj h).2⟩
    | cons x a' =>
      have hx : c = x := (List.cons.inj h).1
      exact absurd (hx ▸ List.mem_cons_self) ha'
  | cons x a ih =>
    cases a' with
    | nil =>
      have hx : x = c := (List.cons.inj h).1
      exact absurd (hx ▸ List.mem_cons_self) ha
    | cons y a' =>
      obtain ⟨hxy, hrest⟩ := List.cons.inj h
      obtain ⟨hfront, hback⟩ := ih (fun hc => ha (List.mem_cons_of_mem x hc))
        (fun hc => ha' (List.mem_cons_of_mem y hc)) hrest
      exact ⟨by rw [hxy, hfront], hback⟩

theorem not_mem_intercalate {c : Char} {sep : List Char} {xs : List (List Char)} (hsep : c ∉ sep)
    (h : ∀ x ∈ xs, c ∉ x) : c ∉ sep.intercalate xs := by
  induction xs with
  | nil => exact List.not_mem_nil
  | cons x xs ih =>
    obtain ⟨hx, hxs⟩ := List.forall_mem_cons.mp h
    cases xs with
    | nil => rwa [List.intercalate_singleton]
    | cons y xs =>
      rw [List.intercalate_cons_cons, List.mem_append, List.mem_append]
      rintro ((h | h) | h)
      · exact hx h
      · exact hsep h
      · exact ih hxs h

/-- What is joined by commas: texts that are not empty and hold no comma. -/
def Listable (xs : List (List Char)) : Prop := ∀ x ∈ xs, x ≠ [] ∧ ',' ∉ x

/-- Such texts can be told from what they are joined to. -/
theorem intercalate_inj {xs ys : List (List Char)} (hxs : Listable xs) (hys : Listable ys)
    (h : [',', ' '].intercalate xs = [',', ' '].intercalate ys) : xs = ys := by
  have hcons : ∀ (x y : List Char) (rest : List (List Char)),
      [',', ' '].intercalate (x :: y :: rest) = x ++ ',' :: ' ' :: [',', ' '].intercalate (y :: rest) := by
    intro x y rest
    rw [List.intercalate_cons_cons, List.append_assoc]
    rfl
  have hne : ∀ (x : List Char) (rest : List (List Char)), x ≠ [] → [',', ' '].intercalate (x :: rest) ≠ [] := by
    intro x rest hx
    cases rest with
    | nil => rwa [List.intercalate_singleton]
    | cons y rest =>
      rw [hcons]
      exact List.append_ne_nil_of_left_ne_nil hx _
  induction xs generalizing ys with
  | nil =>
    cases ys with
    | nil => rfl
    | cons y ys => exact absurd h.symm (hne y ys (hys y List.mem_cons_self).1)
  | cons x xs ih =>
    obtain ⟨hx, hxcomma⟩ := hxs x List.mem_cons_self
    cases ys with
    | nil => exact absurd h (hne x xs hx)
    | cons y ys =>
      have hycomma := (hys y List.mem_cons_self).2
      cases xs with
      | nil =>
        cases ys with
        | nil => rw [List.intercalate_singleton, List.intercalate_singleton] at h; rw [h]
        | cons y' ys =>
          rw [List.intercalate_singleton, hcons] at h
          exact absurd (h ▸ List.mem_append_right y List.mem_cons_self) hxcomma
      | cons x' xs =>
        cases ys with
        | nil =>
          rw [List.intercalate_singleton, hcons] at h
          exact absurd (h ▸ List.mem_append_right x List.mem_cons_self) hycomma
        | cons y' ys =>
          rw [hcons, hcons] at h
          obtain ⟨hhead, hrest⟩ := append_cons_inj hxcomma hycomma h
          have htail := ih (fun z hz => hxs z (List.mem_cons_of_mem x hz))
            (fun z hz => hys z (List.mem_cons_of_mem y hz)) (List.cons.inj hrest).2
          rw [hhead, htail]

end BuildScript
