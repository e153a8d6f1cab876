import Nullness.SortedMap

/-!
# Options of the analysis
-/

namespace Nullness

/-- What the analysis takes into account. -/
structure Config where
  /-- Null values are taken to be gone after a call that asserts something. -/
  suppressAssertionNulls : Bool
  /-- Congruence classes are used for known values, required arguments and loads. -/
  trackValueNumbers : Bool
  /-- Returned references follow the annotations of the called methods. -/
  modelReturnValues : Bool
  /-- A value that was dereferenced without an exception is not null afterwards. -/
  modelDereferences : Bool
  /-- The result of a call is trusted where the call was compared against null before. -/
  trackCheckedCalls : Bool
  /-- Further assertion methods, as `owner.name`. -/
  assertionMethods : SortedSet String
deriving DecidableEq

/-- Everything is taken into account. -/
def Config.default : Config := ⟨true, true, true, true, true, .empty⟩

end Nullness
