import Nullness.Frame

/-!
# The nullness of a value

The lattice of what is known about one reference. From more to less precise it is
`top < nonNullProven < nonNullGuarded < nonNullSilent < nullOnSimplePath < nullOnSomePath`, and
`definitelyNull` lies between `top` and `nullOnSomePath` alone.

* `Nullity.join_comm`, `Nullity.join_assoc`: the join is a semilattice operation, with `top` as its
  identity.
-/

namespace Nullness

/-- What is known about whether a reference is null. -/
inductive Nullity
  /-- Nothing yet. -/
  | top
  | definitelyNull
  /-- Null on one path into the point, and not null on another. -/
  | nullOnSomePath
  /-- From a source that is annotated as nullable and was not checked. -/
  | nullOnSimplePath
  /-- Allocated, constant, or from a source that is annotated as not null. -/
  | nonNullProven
  /-- Taken to be not null without evidence. -/
  | nonNullSilent
  /-- The method would have thrown before if the value were null. -/
  | nonNullGuarded
deriving DecidableEq, Inhabited

namespace Nullity

/-- Nothing is known of the value. -/
def isTop (v : Nullity) : Bool := v = .top

/-- The value is null. -/
def isDefinitelyNull (v : Nullity) : Bool := v = .definitelyNull

/-- The value is null on one path and not on another. -/
def isNullOnSomePath (v : Nullity) : Bool := v = .nullOnSomePath

/-- There is evidence that the value is not null; taking it for granted does not count. -/
def isDefinitelyNotNull : Nullity → Bool
  | .nonNullProven | .nonNullGuarded => true
  | _ => false

/-- There is a hint that the value may be null. -/
def mayBeNull : Nullity → Bool
  | .definitelyNull | .nullOnSomePath | .nullOnSimplePath => true
  | _ => false

/-- The value is neither decided nor unknown. -/
def isUndecided (v : Nullity) : Bool := !v.isTop && !v.isDefinitelyNull && !v.isDefinitelyNotNull

/-- The position of a value on the chain of the non-null values and their bound. -/
def rank : Nullity → Nat
  | .nonNullProven => 1
  | .nonNullGuarded => 2
  | .nonNullSilent => 3
  | .nullOnSimplePath => 4
  | .top | .definitelyNull | .nullOnSomePath => 0

/-- The least value above both. -/
protected def join (a b : Nullity) : Nullity :=
  match a, b with
  | .top, v => v
  | v, .top => v
  | .definitelyNull, .definitelyNull => .definitelyNull
  | .definitelyNull, _ | .nullOnSomePath, _ => .nullOnSomePath
  | _, .definitelyNull | _, .nullOnSomePath => .nullOnSomePath
  | left, right => if right.rank ≤ left.rank then left else right

/-- The number of steps of the longest strictly ascending chain. -/
def height : Nat := 5

/-- The size of a value, in bytes. -/
def bytes : Nat := 1

/-- All values. -/
def all : List Nullity :=
  [.top, .definitelyNull, .nullOnSomePath, .nullOnSimplePath, .nonNullProven, .nonNullSilent,
    .nonNullGuarded]

theorem mem_all (v : Nullity) : v ∈ all := by cases v <;> decide

instance : CellValue Nullity := ⟨.top, Nullity.join⟩

protected theorem join_comm (a b : Nullity) : a.join b = b.join a := by
  cases a <;> cases b <;> rfl

protected theorem join_assoc (a b c : Nullity) : (a.join b).join c = a.join (b.join c) := by
  cases a <;> cases b <;> cases c <;> rfl

instance : LawfulCellValue Nullity where
  join_comm := Nullity.join_comm
  join_assoc := Nullity.join_assoc
  join_self a := by cases a <;> rfl
  top_join a := by cases a <;> rfl

/-- The name of a value in reports. -/
def name : Nullity → String
  | .top => "top"
  | .definitelyNull => "definitely_null"
  | .nullOnSomePath => "null_on_some_path"
  | .nullOnSimplePath => "null_on_simple_path"
  | .nonNullProven => "non_null_proven"
  | .nonNullSilent => "non_null_silent"
  | .nonNullGuarded => "non_null_guarded"

/-- The value of a name. -/
def ofName? (name : String) : Option Nullity := all.find? fun v => v.name = name

end Nullity

/-- A frame of nullness values. -/
abbrev NullFrame : Type := Frame Nullity

end Nullness
