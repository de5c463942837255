/-!
Sets of code points given by tables. A plain table lists closed ranges in
ascending order. A strided table also covers the alternation of upper and lower
case letters, where only every second code point of a range belongs to the set.
All tables of this library start above the ASCII range, whose classes are
decided by direct comparison.
-/
namespace TextTemplate.Unicode

/-- The code point lies in one of the closed ranges. -/
def inRanges (table : List (Nat × Nat)) (code : Nat) : Bool :=
  table.any fun range => decide (range.1 ≤ code) && decide (code ≤ range.2)

/-- The code point is reached from the start of a range in whole strides. -/
def inStrides (table : List (Nat × Nat × Nat)) (code : Nat) : Bool :=
  table.any fun (first, last, stride) =>
    decide (first ≤ code) && decide (code ≤ last) && decide ((code - first) % stride = 0)

theorem inRanges_eq_true_iff {table : List (Nat × Nat)} {code : Nat} :
    inRanges table code = true ↔ ∃ range ∈ table, range.1 ≤ code ∧ code ≤ range.2 := by
  simp [inRanges]

end TextTemplate.Unicode
