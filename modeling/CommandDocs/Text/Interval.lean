/-!
# Tables of code-point intervals
-/

namespace CommandDocs.Text

/-- Whether a character lies in one of the closed intervals of a table. -/
def inIntervals (table : List (Nat × Nat)) (c : Char) : Bool :=
  table.any fun (first, last) => first ≤ c.toNat && c.toNat ≤ last

theorem inIntervals_iff {table : List (Nat × Nat)} {c : Char} :
    inIntervals table c = true ↔
      ∃ interval ∈ table, interval.1 ≤ c.toNat ∧ c.toNat ≤ interval.2 := by
  simp [inIntervals]

end CommandDocs.Text
