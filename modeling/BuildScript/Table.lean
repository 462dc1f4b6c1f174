/-!
Tables from keys to things, in the order in which the keys came. A key that is put again keeps its
place; a key that was erased and is put again comes last. Main statements: what a key leads to after
`put` and `erase`, and which keys there are then.
-/

namespace BuildScript

/-- A table: entries with distinct keys, in order. -/
structure Table (κ α : Type) where
  entries : List (κ × α)
  nodup : (entries.map (·.1)).Nodup

namespace Table

variable {κ α : Type} [DecidableEq κ]

/-- Replaces what the key leads to, or adds the key at the end. -/
def putIn (k : κ) (a : α) : List (κ × α) → List (κ × α)
  | [] => [(k, a)]
  | (k', a') :: rest => if k' = k then (k, a) :: rest else (k', a') :: putIn k a rest

theorem keys_putIn (k : κ) (a : α) (es : List (κ × α)) :
    (putIn k a es).map (·.1)
      = if k ∈ es.map (·.1) then es.map (·.1) else es.map (·.1) ++ [k] := by
  induction es with
  | nil => simp [putIn]
  | cons e rest ih =>
    obtain ⟨k', a'⟩ := e
    simp only [putIn]
    by_cases h : k' = k
    · subst h; simp
    · have h' : ¬ k = k' := fun e => h e.symm
      by_cases hm : k ∈ rest.map (·.1)
      · rw [if_neg h, List.map_cons, ih, if_pos hm, List.map_cons,
          if_pos (List.mem_cons_of_mem _ hm)]
      · rw [if_neg h, List.map_cons, ih, if_neg hm, if_neg]
        · rfl
        · simp only [List.map_cons, List.mem_cons, not_or]
          exact ⟨h', hm⟩

theorem putIn_of_not_mem (k : κ) (a : α) {es : List (κ × α)} (h : k ∉ es.map (·.1)) :
    putIn k a es = es ++ [(k, a)] := by
  induction es with
  | nil => rfl
  | cons e rest ih =>
    obtain ⟨k', a'⟩ := e
    rw [List.map_cons, List.mem_cons, not_or] at h
    rw [putIn, if_neg fun e => h.1 e.symm, ih h.2, List.cons_append]

/-- The table without entries. -/
def empty : Table κ α := ⟨[], List.nodup_nil⟩

instance : Inhabited (Table κ α) := ⟨empty⟩

/-- The keys, in order. -/
def keys (t : Table κ α) : List κ := t.entries.map (·.1)

/-- What the keys lead to, in order. -/
def values (t : Table κ α) : List α := t.entries.map (·.2)

/-- What a key leads to. -/
def get? (t : Table κ α) (k : κ) : Option α := t.entries.lookup k

/-- Whether the key is there. -/
def contains (t : Table κ α) (k : κ) : Bool := (t.get? k).isSome

/-- The number of keys. -/
def size (t : Table κ α) : Nat := t.entries.length

/-- Makes the key lead to `a`. -/
def put (t : Table κ α) (k : κ) (a : α) : Table κ α :=
  ⟨putIn k a t.entries, by
    have h := t.nodup
    rw [keys_putIn]
    split
    · exact h
    · rename_i hk
      rw [List.nodup_append]
      exact ⟨h, by simp, by
        intro x hx y hy hxy
        rw [List.mem_singleton] at hy
        exact hk (hy ▸ hxy ▸ hx)⟩⟩

/-- Takes out the keys that do not satisfy `keep`. -/
def filter (t : Table κ α) (keep : κ → Bool) : Table κ α :=
  ⟨t.entries.filter fun e => keep e.1, t.nodup.sublist ((List.filter_sublist).map _)⟩

/-- Takes the key out. -/
def erase (t : Table κ α) (k : κ) : Table κ α := t.filter fun k' => k' ≠ k

theorem entries_erase (t : Table κ α) (k : κ) :
    (t.erase k).entries = t.entries.filter fun e => e.1 ≠ k := rfl

@[simp]
theorem get?_empty (k : κ) : (empty : Table κ α).get? k = none := rfl

theorem lookup_cons (k k' : κ) (a : α) (es : List (κ × α)) :
    ((k, a) :: es).lookup k' = if k' = k then some a else es.lookup k' := by
  rw [List.lookup_cons]
  by_cases h : k' = k
  · simp [h]
  · rw [beq_eq_false_iff_ne.mpr h, if_neg h]

theorem lookup_putIn (k k' : κ) (a : α) (es : List (κ × α)) :
    (putIn k a es).lookup k' = if k' = k then some a else es.lookup k' := by
  induction es with
  | nil => simp only [putIn, lookup_cons]
  | cons e rest ih =>
    obtain ⟨x, b⟩ := e
    simp only [putIn]
    by_cases h : x = k
    · subst h
      simp only [if_true, lookup_cons]
      split <;> rfl
    · simp only [if_neg h, lookup_cons, ih]
      by_cases h' : k' = x
      · simp [h', h]
      · simp [h']

theorem lookup_filter (keep : κ → Bool) (k : κ) (es : List (κ × α)) :
    (es.filter fun e => keep e.1).lookup k = if keep k then es.lookup k else none := by
  induction es with
  | nil => simp
  | cons e rest ih =>
    obtain ⟨x, b⟩ := e
    by_cases hx : keep x = true
    · rw [List.filter_cons_of_pos (by exact hx), lookup_cons, lookup_cons, ih]
      by_cases h : k = x
      · subst h; simp [hx]
      · simp [h]
    · rw [List.filter_cons_of_neg (by exact hx), ih, lookup_cons]
      by_cases h : k = x
      · subst h; simp [hx]
      · simp [h]

theorem isSome_lookup_iff (k : κ) (es : List (κ × α)) :
    (es.lookup k).isSome = true ↔ k ∈ es.map (·.1) := by
  induction es with
  | nil => simp
  | cons e rest ih =>
    obtain ⟨x, b⟩ := e
    rw [lookup_cons, List.map_cons, List.mem_cons, ← ih]
    by_cases h : k = x <;> simp [h]

@[simp]
theorem get?_put (t : Table κ α) (k k' : κ) (a : α) :
    (t.put k a).get? k' = if k' = k then some a else t.get? k' :=
  lookup_putIn k k' a t.entries

@[simp]
theorem get?_filter (t : Table κ α) (keep : κ → Bool) (k : κ) :
    (t.filter keep).get? k = if keep k then t.get? k else none :=
  lookup_filter keep k t.entries

@[simp]
theorem get?_erase (t : Table κ α) (k k' : κ) :
    (t.erase k).get? k' = if k' = k then none else t.get? k' := by
  rw [erase, get?_filter]
  by_cases h : k' = k <;> simp [h]

omit [DecidableEq κ] in
theorem eq_of_entries {t u : Table κ α} (h : t.entries = u.entries) : t = u := by
  cases t
  cases u
  simpa using h

theorem filter_putIn {keep : κ → Bool} {k : κ} (hk : keep k = false) (a : α) (es : List (κ × α)) :
    ((putIn k a es).filter fun e => keep e.1) = es.filter fun e => keep e.1 := by
  induction es with
  | nil => simp [putIn, hk]
  | cons e rest ih =>
    obtain ⟨x, b⟩ := e
    simp only [putIn]
    by_cases h : x = k
    · subst h
      simp [hk]
    · simp [h, List.filter_cons, ih]

/-- What is put under a key that is taken out again leaves nothing behind. -/
theorem filter_put {keep : κ → Bool} {k : κ} (hk : keep k = false) (t : Table κ α) (a : α) :
    (t.put k a).filter keep = t.filter keep :=
  eq_of_entries (filter_putIn hk a t.entries)

omit [DecidableEq κ] in
theorem filter_eq_self {keep : κ → Bool} {t : Table κ α} (h : ∀ k ∈ t.keys, keep k = true) :
    t.filter keep = t := by
  refine eq_of_entries (List.filter_eq_self.mpr ?_)
  intro e he
  exact h e.1 (List.mem_map_of_mem he)

/-- The key is there exactly if it is among the keys. -/
theorem contains_iff_mem_keys (t : Table κ α) (k : κ) : t.contains k = true ↔ k ∈ t.keys :=
  isSome_lookup_iff k t.entries

/-- A key that is not there comes last. -/
theorem entries_put_of_not_mem (t : Table κ α) (k : κ) (a : α) (h : k ∉ t.keys) :
    (t.put k a).entries = t.entries ++ [(k, a)] :=
  putIn_of_not_mem k a h

theorem mem_iff_lookup (k : κ) (a : α) {es : List (κ × α)} (h : (es.map (·.1)).Nodup) :
    (k, a) ∈ es ↔ es.lookup k = some a := by
  induction es with
  | nil => simp
  | cons e rest ih =>
    obtain ⟨x, b⟩ := e
    rw [List.map_cons, List.nodup_cons] at h
    rw [lookup_cons, List.mem_cons, ih h.2, Prod.mk.injEq]
    by_cases hk : k = x
    · subst hk
      have hno : rest.lookup k ≠ some a := by
        intro hl
        exact h.1 ((isSome_lookup_iff k rest).mp (by rw [hl]; rfl))
      simp [hno, eq_comm]
    · simp [hk]

/-- The entries are the keys with what they lead to. -/
theorem mem_entries_iff (t : Table κ α) (k : κ) (a : α) :
    (k, a) ∈ t.entries ↔ t.get? k = some a :=
  mem_iff_lookup k a t.nodup

end Table

end BuildScript
