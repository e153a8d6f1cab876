import Nullness.Error

/-!
# Machine words

The library counts in natural numbers. A count that is made of numbers read from a program may be no
machine word, and a size may be one that no object can have; the run ends there. Memory itself is
taken to be unbounded.

* `word`: a count that has to be a machine word;
* `allocate`: room for a number of cells.
-/

namespace Nullness

/-- How many machine words there are. -/
def wordSize : Nat := Nat.pow 2 64

/-- The size of the largest object, in bytes. -/
def maxBytes : Nat := Nat.pow 2 63 - 1

/-- A count, provided that it is a machine word. -/
def word (n : Nat) : Except Error Nat := if n < wordSize then .ok n else .error .overflow

theorem word_of_lt {n : Nat} (h : n < wordSize) : word n = .ok n := if_pos h

theorem word_of_not_lt {n : Nat} (h : ¬ n < wordSize) : word n = .error .overflow := if_neg h

theorem word_eq_ok_iff {n k : Nat} : word n = .ok k ↔ n < wordSize ∧ n = k := by
  by_cases h : n < wordSize
  · rw [word_of_lt h, Except.ok.injEq, and_iff_right h]
  · exact iff_of_false (by rw [word_of_not_lt h]; exact nofun) fun hn => h hn.1

/-- Makes room for cells that take some bytes each. -/
def allocate (cells bytes : Nat) : Except Error Unit :=
  if cells * bytes ≤ maxBytes then .ok () else .error .overflow

theorem allocate_of_le {cells bytes : Nat} (h : cells * bytes ≤ maxBytes) :
    allocate cells bytes = .ok () := if_pos h

theorem allocate_of_not_le {cells bytes : Nat} (h : ¬ cells * bytes ≤ maxBytes) :
    allocate cells bytes = .error .overflow := if_neg h

end Nullness
