/-!
# Method identifiers

A method is named by its class, its own name and its descriptor. Identifiers are ordered by these
three parts in turn, each by its code points; reports list methods in this order.
-/

namespace Nullness

/-- The name of a method in a program. -/
structure MethodId where
  className : String
  name : String
  descriptor : String
deriving DecidableEq, Inhabited

namespace MethodId

/-- The parts in the order in which identifiers are compared. -/
def parts (id : MethodId) : List String := [id.className, id.name, id.descriptor]

theorem parts_injective {a b : MethodId} (h : a.parts = b.parts) : a = b := by
  cases a; cases b; simp_all [parts]

instance : Ord MethodId := ⟨compareOn parts⟩

instance : Std.TransOrd MethodId := inferInstanceAs (Std.TransCmp (compareOn parts))

instance : Std.LawfulEqOrd MethodId where
  eq_of_compare h := parts_injective (Std.LawfulEqOrd.eq_of_compare h)

/-- How an identifier is written in messages. -/
protected def toString (id : MethodId) : String := id.className ++ "." ++ id.name ++ id.descriptor

instance : ToString MethodId := ⟨MethodId.toString⟩

end MethodId

end Nullness
