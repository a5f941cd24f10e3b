/-!
Sets of characters written as lists of closed intervals of code points.
-/

namespace VaultQuery.Text

/-- Whether a code point lies in one of the closed intervals. -/
def inIntervals (table : List (Nat × Nat)) (n : Nat) : Bool :=
  table.any fun r => r.1 ≤ n && n ≤ r.2

theorem inIntervals_iff {table : List (Nat × Nat)} {n : Nat} :
    inIntervals table n = true ↔ ∃ r ∈ table, r.1 ≤ n ∧ n ≤ r.2 := by
  simp [inIntervals]

end VaultQuery.Text
