/-!
# Ranges of characters

A property of characters is given by the ranges of code points that have it, as the tables of the
Unicode standard give it.

* `CodeRanges.contains_iff`: membership is membership in one of the ranges.
-/

namespace Nullness

namespace Unicode

/-- Ranges of code points by their first and their last one, in ascending order. -/
abbrev CodeRanges : Type := List (Nat × Nat)

namespace CodeRanges

/-- Whether a character lies in one of the ranges. -/
def contains (r : CodeRanges) (c : Char) : Bool :=
  r.any fun ends => ends.1 ≤ c.toNat && c.toNat ≤ ends.2

/-- A character has the property when it lies in one of the ranges. -/
theorem contains_iff {r : CodeRanges} {c : Char} :
    r.contains c = true ↔ ∃ ends ∈ r, ends.1 ≤ c.toNat ∧ c.toNat ≤ ends.2 := by
  simp [contains]

end CodeRanges

end Unicode

end Nullness
