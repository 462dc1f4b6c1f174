import Mathlib.Data.List.Forall2

/-!
Traversals of a list by steps that may fail. A traversal succeeds exactly if each of its steps does
(`mapM_eq_ok_iff`, `mapM_eq_some_iff`), and stops at the first that fails (`mapM_eq_error_iff`).
-/

namespace BuildScript

/-- Two steps succeed exactly if the first does, and the second does with what has come of it. -/
theorem bind_eq_ok_iff {α β ε : Type} {x : Except ε α} {g : α → Except ε β} {b : β} :
    x >>= g = .ok b ↔ ∃ a, x = .ok a ∧ g a = .ok b := by
  cases x <;> simp [bind, Except.bind]

theorem map_eq_ok_iff {α β ε : Type} {x : Except ε α} {f : α → β} {b : β} :
    x.map f = .ok b ↔ ∃ a, x = .ok a ∧ f a = b := by
  cases x <;> simp [Except.map]

theorem mapError_eq_ok_iff {α ε ε' : Type} {x : Except ε α} {f : ε → ε'} {a : α} :
    x.mapError f = .ok a ↔ x = .ok a := by
  cases x <;> simp [Except.mapError]

/-- Behind a step that succeeds, what follows it goes on. -/
theorem run_step_of_ok {σ ε α β : Type} {x : StateT σ (Except ε) α} {f : α → StateT σ (Except ε) β}
    {s s' : σ} {a : α} (h : x.run s = .ok (a, s')) : (x >>= f).run s = (f a).run s' := by
  rw [StateT.run_bind, h]
  rfl

/-- A traversal succeeds exactly if each of its steps does. -/
theorem mapM_eq_ok_iff {α β ε : Type} (f : α → Except ε β) (xs : List α) (ys : List β) :
    xs.mapM f = .ok ys ↔ List.Forall₂ (fun x y => f x = .ok y) xs ys := by
  induction xs generalizing ys with
  | nil => cases ys <;> simp [pure, Except.pure]
  | cons x xs ih =>
    rw [List.mapM_cons]
    cases hx : f x with
    | error e =>
      simp only [bind, Except.bind, reduceCtorEq, false_iff]
      intro hall
      cases hall with
      | cons hy _ => rw [hx] at hy; cases hy
    | ok y =>
      cases hxs : xs.mapM f with
      | error e =>
        simp only [bind, Except.bind, reduceCtorEq, false_iff]
        intro hall
        cases hall with
        | cons _ hys => rw [(ih _).mpr hys] at hxs; cases hxs
      | ok zs =>
        simp only [bind, Except.bind, pure, Except.pure, Except.ok.injEq]
        constructor
        · rintro rfl
          exact .cons hx ((ih zs).mp hxs)
        · intro hall
          cases hall with
          | cons hy hys =>
            rw [hx, Except.ok.injEq] at hy
            rw [(ih _).mpr hys, Except.ok.injEq] at hxs
            rw [hy, hxs]

/-- A traversal stops at the first step that fails. -/
theorem mapM_eq_error_iff {α β ε : Type} (f : α → Except ε β) (xs : List α) (err : ε) :
    xs.mapM f = .error err ↔
      ∃ before x after, xs = before ++ x :: after ∧ (∀ b ∈ before, ∃ y, f b = .ok y) ∧
        f x = .error err := by
  induction xs with
  | nil => simp [pure, Except.pure]
  | cons a xs ih =>
    rw [List.mapM_cons]
    cases ha : f a with
    | error e =>
      change (Except.error e : Except ε (List β)) = .error err ↔ _
      rw [Except.error.injEq]
      constructor
      · rintro rfl
        exact ⟨[], a, xs, rfl, nofun, ha⟩
      · rintro ⟨before, x, after, heq, hbefore, hx⟩
        cases before with
        | nil =>
          rw [← (List.cons.inj heq).1, ha] at hx
          exact Except.error.inj hx
        | cons b before =>
          obtain ⟨y, hy⟩ := hbefore a ((List.cons.inj heq).1 ▸ List.mem_cons_self)
          rw [ha] at hy
          cases hy
    | ok y =>
      have hrest : (do let ys ← xs.mapM f; pure (y :: ys) : Except ε (List β)) = .error err ↔
          xs.mapM f = .error err := by
        cases xs.mapM f with
        | error e => rfl
        | ok ys => exact iff_of_false nofun nofun
      refine hrest.trans (ih.trans ?_)
      constructor
      · rintro ⟨before, x, after, rfl, hbefore, hx⟩
        exact ⟨a :: before, x, after, rfl, List.forall_mem_cons.mpr ⟨⟨y, ha⟩, hbefore⟩, hx⟩
      · rintro ⟨before, x, after, heq, hbefore, hx⟩
        cases before with
        | nil =>
          rw [← (List.cons.inj heq).1, ha] at hx
          cases hx
        | cons b before =>
          exact ⟨before, x, after, (List.cons.inj heq).2, (List.forall_mem_cons.mp hbefore).2, hx⟩

/-- A traversal by steps that may give nothing succeeds exactly if each of them gives something. -/
theorem mapM_eq_some_iff {α β : Type} (f : α → Option β) (xs : List α) (ys : List β) :
    xs.mapM f = some ys ↔ List.Forall₂ (fun x y => f x = some y) xs ys := by
  induction xs generalizing ys with
  | nil => simp [eq_comm]
  | cons x xs ih =>
    rw [List.mapM_cons, List.forall₂_cons_left_iff]
    simp only [Option.bind_eq_bind, Option.bind_eq_some_iff, ih]
    constructor
    · rintro ⟨y, hy, rest, hrest, ⟨⟩⟩
      exact ⟨y, rest, hy, hrest, rfl⟩
    · rintro ⟨y, rest, hy, hrest, rfl⟩
      exact ⟨y, hy, rest, hrest, rfl⟩

/-- Where each item has something that stands to it in a relation, so has the list. -/
theorem exists_forall₂ {α β : Type} {R : α → β → Prop} {xs : List α} (h : ∀ x ∈ xs, ∃ y, R x y) :
    ∃ ys, List.Forall₂ R xs ys := by
  induction xs with
  | nil => exact ⟨[], .nil⟩
  | cons x xs ih =>
    obtain ⟨y, hy⟩ := h x List.mem_cons_self
    obtain ⟨ys, hys⟩ := ih fun x' hx' => h x' (List.mem_cons_of_mem x hx')
    exact ⟨y :: ys, .cons hy hys⟩

/-- Where two lists stand in a relation, each item of the first stands in it to one of the second. -/
theorem exists_mem_of_forall₂ {α β : Type} {R : α → β → Prop} {xs : List α} {ys : List β}
    (h : List.Forall₂ R xs ys) {x : α} (hx : x ∈ xs) : ∃ y ∈ ys, R x y := by
  induction h with
  | nil => cases hx
  | cons hR _ ih =>
    rcases List.mem_cons.mp hx with rfl | hx
    · exact ⟨_, List.mem_cons_self, hR⟩
    · obtain ⟨y, hy, hR⟩ := ih hx
      exact ⟨y, List.mem_cons_of_mem _ hy, hR⟩

end BuildScript
