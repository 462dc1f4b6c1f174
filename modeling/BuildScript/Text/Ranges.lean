/-!
Character classes as ranges of code points. A table lists its ranges in increasing order; each class
of the library is such a table and the membership test below.
-/

namespace BuildScript.Text

/-- Ranges of code points, both ends included. -/
abbrev Ranges := List (Nat × Nat)

/-- Whether the code point of `c` lies in the range. -/
def inRange (c : Char) (r : Nat × Nat) : Bool := decide (r.1 ≤ c.toNat) && decide (c.toNat ≤ r.2)

/-- Whether the code point of `c` lies in one of the ranges. -/
def Ranges.contains (rs : Ranges) (c : Char) : Bool := rs.any (inRange c)

/-- The first range that holds the code point of `c`. -/
def Ranges.find? (rs : Ranges) (c : Char) : Option (Nat × Nat) := List.find? (inRange c) rs

theorem inRange_iff {c : Char} {r : Nat × Nat} :
    inRange c r = true ↔ r.1 ≤ c.toNat ∧ c.toNat ≤ r.2 := by
  simp [inRange]

theorem Ranges.contains_iff {rs : Ranges} {c : Char} :
    rs.contains c = true ↔ ∃ r ∈ rs, r.1 ≤ c.toNat ∧ c.toNat ≤ r.2 := by
  simp [Ranges.contains, inRange_iff]

end BuildScript.Text
