import Nullness.ValueNumber.Frame

/-!
# Origins of values

Where a congruence class of values was first met. The analysis labels slots by origins, so two slots
with one label hold what one event put there.
-/

namespace Nullness

/-- The event that brought a class of values into being. -/
inductive ValueOrigin
  /-- The content of a local on entry to the method. -/
  | entry (slot : Nat)
  /-- A result of the instruction at a position of a block. -/
  | produced (block index output : Nat)
  /-- Different values met in a slot at the start of a block. -/
  | merge (block slot : Nat)
  /-- The exception that a handler receives. -/
  | handler (block : Nat)
deriving DecidableEq, Inhabited

namespace ValueOrigin

/-- The kind of event and its parts, by which origins are ordered. -/
def parts : ValueOrigin → List Nat
  | .entry slot => [0, slot]
  | .produced block index output => [1, block, index, output]
  | .merge block slot => [2, block, slot]
  | .handler block => [3, block]

theorem parts_injective {a b : ValueOrigin} (h : a.parts = b.parts) : a = b := by
  cases a <;> cases b <;> simp_all [parts]

instance : Ord ValueOrigin := ⟨compareOn parts⟩

instance : Std.TransOrd ValueOrigin := inferInstanceAs (Std.TransCmp (compareOn parts))

instance : Std.LawfulEqOrd ValueOrigin where
  eq_of_compare h := parts_injective (Std.LawfulEqOrd.eq_of_compare h)

end ValueOrigin

end Nullness
