/-!
# Character ranges

A property of characters is given by a table of closed ranges of code points. Membership is
decided by looking for a range that holds the character.

## Main definitions

- `InRanges` — the character lies in one of the ranges
- `inRanges` — the decision procedure for it, and `inRanges_iff`, which ties the two
-/

namespace ModuleGraph.Text

/-- A table of closed ranges of code points, lowest first. -/
abbrev Ranges := List (Nat × Nat)

/-- The character lies in one of the ranges of the table. -/
def InRanges (table : Ranges) (c : Char) : Prop :=
  ∃ range ∈ table, range.1 ≤ c.toNat ∧ c.toNat ≤ range.2

/-- Whether the character lies in one of the ranges of the table. -/
def inRanges (table : Ranges) (c : Char) : Bool :=
  table.any fun range => range.1 ≤ c.toNat && c.toNat ≤ range.2

theorem inRanges_iff {table : Ranges} {c : Char} :
    inRanges table c = true ↔ InRanges table c := by
  simp [inRanges, InRanges]

end ModuleGraph.Text
