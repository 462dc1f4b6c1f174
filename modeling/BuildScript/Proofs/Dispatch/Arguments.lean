import BuildScript.Dispatch
import Mathlib.Data.List.Forall2

/-!
Arguments and the types of parameters. Main statements: arguments are coerced exactly if each of
them is (`coerceArgs_eq_ok_iff`), and else the leftmost that is not decides what becomes of the
call (`coerceArgs_eq_error_iff`).
-/

namespace BuildScript

/-- The leftmost argument that is not coerced stands at this index. -/
structure FirstRefused (args : List Value) (types : List TypeName) (i : Nat) (a : Value)
    (t : TypeName) (e : CoercionError) : Prop where
  arg : args[i]? = some a
  type : types[i]? = some t
  refused : coerce a (.type t) = .error e
  before : ∀ j < i, ∀ b u, args[j]? = some b → types[j]? = some u → ∃ v, coerce b (.type u) = .ok v

/-- Every argument is coerced, to these values in order. -/
def Coerced (args : List Value) (types : List TypeName) (vs : List Value) : Prop :=
  List.Forall₂ (fun p v => coerce p.1 (.type p.2) = .ok v) (args.zip types) vs

namespace FirstRefused

variable {a b : Value} {t u : TypeName} {args : List Value} {types : List TypeName} {i : Nat}
  {e : CoercionError}

theorem head (h : coerce a (.type t) = .error e) : FirstRefused (a :: args) (t :: types) 0 a t e :=
  ⟨rfl, rfl, h, fun _ hj => absurd hj (Nat.not_lt_zero _)⟩

theorem tail {v : Value} (hb : coerce b (.type u) = .ok v) (h : FirstRefused args types i a t e) :
    FirstRefused (b :: args) (u :: types) (i + 1) a t e where
  arg := h.arg
  type := h.type
  refused := h.refused
  before j hj c w hc hw := by
    cases j with
    | zero =>
      rw [List.getElem?_cons_zero, Option.some.injEq] at hc hw
      subst hc hw
      exact ⟨v, hb⟩
    | succ j =>
      rw [List.getElem?_cons_succ] at hc hw
      exact h.before j (by omega) c w hc hw

theorem of_head (hb : coerce b (.type u) = .error e) {e' : CoercionError}
    (h : FirstRefused (b :: args) (u :: types) i a t e') : i = 0 ∧ a = b ∧ t = u ∧ e' = e := by
  cases i with
  | zero =>
    have ha : b = a := Option.some.inj h.arg
    have ht : u = t := Option.some.inj h.type
    subst ha ht
    exact ⟨rfl, rfl, rfl, Except.error.inj (h.refused.symm.trans hb)⟩
  | succ i =>
    obtain ⟨v, hv⟩ := h.before 0 (by omega) b u rfl rfl
    rw [hb] at hv
    cases hv

theorem of_tail {v : Value} (hb : coerce b (.type u) = .ok v)
    (h : FirstRefused (b :: args) (u :: types) i a t e) :
    ∃ j, i = j + 1 ∧ FirstRefused args types j a t e := by
  cases i with
  | zero =>
    have ha : b = a := Option.some.inj h.arg
    have ht : u = t := Option.some.inj h.type
    subst ha ht
    rw [h.refused] at hb
    cases hb
  | succ j =>
    refine ⟨j, rfl, h.arg, h.type, h.refused, fun k hk c w hc hw => ?_⟩
    exact h.before (k + 1) (by omega) c w hc hw

end FirstRefused

theorem coerceArgs_eq_ok_iff (n : Nat) (args : List Value) (types : List TypeName)
    (vs : List Value) : coerceArgs n args types = .ok vs ↔ Coerced args types vs := by
  unfold Coerced
  induction args generalizing n types vs with
  | nil => simp [coerceArgs, eq_comm]
  | cons a args ih =>
    cases types with
    | nil => simp [coerceArgs, eq_comm]
    | cons t types =>
      rw [coerceArgs, List.zip_cons_cons]
      cases ha : coerce a (.type t) with
      | error e =>
        constructor
        · intro h
          cases h
        · intro h
          cases h with
          | cons hv _ => rw [ha] at hv; cases hv
      | ok v =>
        cases hrest : coerceArgs (n + 1) args types with
        | error x =>
          constructor
          · intro h
            cases h
          · intro h
            cases h with
            | cons _ hvs => rw [(ih (n + 1) types _).mpr hvs] at hrest; cases hrest
        | ok ws =>
          have hws := (ih (n + 1) types ws).mp hrest
          simp only [Except.map, Except.ok.injEq]
          constructor
          · rintro rfl
            exact .cons ha hws
          · intro h
            cases h with
            | cons hv hvs =>
              rw [ha, Except.ok.injEq] at hv
              rw [(ih (n + 1) types _).mpr hvs, Except.ok.injEq] at hrest
              rw [hv, hrest]

/-- The leftmost argument that is not coerced decides; those behind it are not looked at. -/
theorem coerceArgs_eq_error_iff (n : Nat) (args : List Value) (types : List TypeName)
    (x : Escape ⊕ Fault) :
    coerceArgs n args types = .error x ↔
      ∃ i a t e, FirstRefused args types i a t e ∧ x = notCoerced (n + i) a e := by
  induction args generalizing n types with
  | nil =>
    refine ⟨fun h => (by cases h), ?_⟩
    rintro ⟨i, a, t, e, h, -⟩
    exact absurd h.arg (by simp)
  | cons b args ih =>
    cases types with
    | nil =>
      refine ⟨fun h => (by cases h), ?_⟩
      rintro ⟨i, a, t, e, h, -⟩
      exact absurd h.type (by simp)
    | cons u types =>
      rw [coerceArgs]
      cases hb : coerce b (.type u) with
      | error e =>
        constructor
        · intro h
          exact ⟨0, b, u, e, .head hb, (Except.error.inj h).symm⟩
        · rintro ⟨i, a, t, e', h, rfl⟩
          obtain ⟨rfl, rfl, rfl, rfl⟩ := h.of_head hb
          rfl
      | ok v =>
        have hmap : (coerceArgs (n + 1) args types).map (v :: ·) = .error x ↔
            coerceArgs (n + 1) args types = .error x := by
          cases coerceArgs (n + 1) args types <;> simp [Except.map]
        refine hmap.trans ((ih (n + 1) types).trans ?_)
        constructor
        · rintro ⟨i, a, t, e, h, rfl⟩
          exact ⟨i + 1, a, t, e, h.tail hb, by rw [Nat.add_right_comm, Nat.add_assoc]⟩
        · rintro ⟨i, a, t, e, h, rfl⟩
          obtain ⟨j, rfl, hj⟩ := h.of_tail hb
          exact ⟨j, a, t, e, hj, by rw [Nat.add_right_comm, Nat.add_assoc]⟩

/-! ## Why a value is not coerced -/

/-- A value is not coerced because it is of a wrong type, or because it is an integer, or an instance of
the host that is one, too large for the floating-point number that is asked for. -/
theorem coerce_error_cases {v : Value} {t : TypeName} {e : CoercionError}
    (h : coerce v (.type t) = .error e) :
    (∃ m, e = .mismatch m ∧ m.obstacle? = v.obstacle?) ∨
      (e = .overflow ∧ t = .float ∧ ∃ i, v.bare = .int i ∧ Number.Binary64.ofInt? i = none) := by
  cases t with
  | text =>
    change v.toText = .error e at h
    unfold Value.toText at h
    split at h <;> cases h
    exact .inl ⟨_, rfl, rfl⟩
  | bool =>
    change v.toFlag = .error e at h
    unfold Value.toFlag at h
    split at h
    · cases h
    · split at h
      · cases h
      · split at h <;> cases h
        exact .inl ⟨_, rfl, rfl⟩
    · cases h
      exact .inl ⟨_, rfl, rfl⟩
  | int =>
    change v.toInteger = .error e at h
    unfold Value.toInteger at h
    split at h
    · rename_i b hbare
      cases h
      rw [Value.bare_eq_bool hbare]
      exact .inl ⟨_, rfl, rfl⟩
    · cases h
    · split at h <;> cases h
      exact .inl ⟨_, rfl, rfl⟩
    · cases h
      exact .inl ⟨_, rfl, rfl⟩
  | float =>
    change v.toNumber = .error e at h
    unfold Value.toNumber at h
    split at h
    · rename_i b hbare
      cases h
      rw [Value.bare_eq_bool hbare]
      exact .inl ⟨_, rfl, rfl⟩
    · rename_i i hbare
      cases hi : Number.Binary64.ofInt? i with
      | some x => rw [hi] at h; cases h
      | none =>
        rw [hi] at h
        cases h
        exact .inr ⟨rfl, rfl, i, hbare, hi⟩
    · cases h
    · split at h <;> cases h
      exact .inl ⟨_, rfl, rfl⟩
    · cases h
      exact .inl ⟨_, rfl, rfl⟩
  | _ =>
    simp only [coerce] at h
    split at h <;> cases h
    exact .inl ⟨_, rfl, rfl⟩

theorem coerce_eq_overflow_iff (v : Value) (t : TypeName) :
    coerce v (.type t) = .error .overflow ↔
      t = .float ∧ ∃ i, v.bare = .int i ∧ Number.Binary64.ofInt? i = none := by
  constructor
  · intro h
    rcases coerce_error_cases h with ⟨m, hm, -⟩ | ⟨-, ht, hv⟩
    · cases hm
    · exact ⟨ht, hv⟩
  · rintro ⟨rfl, i, hbare, hi⟩
    rw [coerce, Value.toNumber, hbare]
    dsimp only
    rw [hi]

end BuildScript
