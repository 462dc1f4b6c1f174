/-!
Sorting by insertion. The items that are in order at the front, or in falling order, which is turned
round, are the start; each further one is put behind the items that a search by halves finds not above it.
Which order comes out is fixed even where the comparison is not that of an order. Main statement: the
items stay the same.
-/

namespace BuildScript.Insertion

variable {α : Type}

/-- The items that go on in rising order behind `a`, and the others. -/
def rising (less : α → α → Bool) (a : α) : List α → List α × List α
  | [] => ([], [])
  | b :: rest =>
    if less b a then ([], b :: rest)
    else
      let (run, left) := rising less b rest
      (b :: run, left)

/-- The items that go on in falling order behind `a`, put in front of `done`, and the others. -/
def falling (less : α → α → Bool) (a : α) (done : List α) : List α → List α × List α
  | [] => (done, [])
  | b :: rest => if less b a then falling less b (b :: done) rest else (done, b :: rest)

/-- The items at the front that are in order, or that are when they are turned round, and the others. -/
def firstRun (less : α → α → Bool) : List α → List α × List α
  | a :: b :: rest =>
    if less b a then falling less b [b, a] rest
    else
      let (run, left) := rising less b rest
      (a :: b :: run, left)
  | xs => (xs, [])

/-- The place of `a` between two places, by halves. -/
def place (less : α → α → Bool) (xs : List α) (a : α) : Nat → Nat → Nat → Nat
  | 0, low, _ => low
  | fuel + 1, low, high =>
    if low < high then
      let middle := low + (high - low) / 2
      if xs[middle]?.any (less a) then place less xs a fuel low middle
      else place less xs a fuel (middle + 1) high
    else low

/-- Puts an item into its place. -/
def insert (less : α → α → Bool) (xs : List α) (a : α) : List α :=
  let p := place less xs a xs.length 0 xs.length
  xs.take p ++ a :: xs.drop p

/-- The items, sorted. -/
def sort (less : α → α → Bool) (xs : List α) : List α :=
  let (run, rest) := firstRun less xs
  rest.foldl (insert less) run

theorem rising_append (less : α → α → Bool) (a : α) (xs : List α) :
    (rising less a xs).1 ++ (rising less a xs).2 = xs := by
  induction xs generalizing a with
  | nil => rfl
  | cons b rest ih =>
    rw [rising]
    split
    · rfl
    · simpa using ih b

theorem falling_perm (less : α → α → Bool) (a : α) (done xs : List α) :
    ((falling less a done xs).1 ++ (falling less a done xs).2).Perm (done ++ xs) := by
  induction xs generalizing a done with
  | nil => simp [falling]
  | cons b rest ih =>
    rw [falling]
    split
    · exact (ih b (b :: done)).trans List.perm_middle.symm
    · exact .refl _

theorem firstRun_perm (less : α → α → Bool) (xs : List α) :
    ((firstRun less xs).1 ++ (firstRun less xs).2).Perm xs := by
  match xs with
  | [] => simp [firstRun]
  | [a] => simp [firstRun]
  | a :: b :: rest =>
    rw [firstRun]
    split
    · exact (falling_perm less b [b, a] rest).trans (List.Perm.swap a b rest)
    · simp [rising_append]

theorem insert_perm (less : α → α → Bool) (xs : List α) (a : α) :
    (insert less xs a).Perm (a :: xs) := by
  simp only [insert]
  exact List.perm_middle.trans (by rw [List.take_append_drop])

theorem foldl_insert_perm (less : α → α → Bool) (xs ys : List α) :
    (ys.foldl (insert less) xs).Perm (xs ++ ys) := by
  induction ys generalizing xs with
  | nil => simp
  | cons y ys ih =>
    exact (ih _).trans (((insert_perm less xs y).append_right ys).trans List.perm_middle.symm)

theorem sort_perm (less : α → α → Bool) (xs : List α) : (sort less xs).Perm xs :=
  (foldl_insert_perm less _ _).trans (firstRun_perm less xs)

end BuildScript.Insertion
