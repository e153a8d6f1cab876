import Nullness.Program
import Nullness.Frame
import Nullness.ValueNumber.Table

/-!
# Branch decisions

A comparison at the end of a block tells something about the compared value on each of the two
sides. A decision names the congruence class of that value and what the value is on either side; a
side without a value cannot be taken.

* `BranchDecision.apply`: the frame that an edge carries;
* `replaceClass`: writing a value into all cells of a class.
-/

namespace Nullness

/-- What a branch tells about the class of the value that it tests. -/
structure BranchDecision (V : Type) where
  tested : Nat
  /-- The value where the branch is taken. -/
  taken : Option V
  /-- The value where control falls through. -/
  fallThrough : Option V
deriving DecidableEq

variable {V : Type}

/-- Whether a slot of the target belongs to the class of a slot that held the tested number before
the branch, of the slots that are live in the frame. -/
def holdsTested (tested : Nat) (before target : NumberedFrame) (live i : Nat) : Bool :=
  (List.range (min live before.numSlots)).any fun slot =>
    before.slot? slot = some tested && (target.slot? slot).isSome &&
      target.slot? i = target.slot? slot

/-- Writes a value into every cell of the tested class along an edge. A redundant load of the tested
value gets the value as well. Nothing is written when the frames do not fit. -/
def replaceClass (f : Frame V) (tested : Nat) (before target : Option NumberedFrame) (v : V) :
    Frame V :=
  match before, target with
  | some before, some target =>
    if f.valid && f.numSlots = target.numSlots then
      let f := match (before.loadOf? tested).bind target.available? with
        | none => f
        | some number => f.setKnown number v
      f.mapSlots fun i old => if holdsTested tested before target f.numSlots i then v else old
    else f
  | _, _ => f

namespace BranchDecision

/-- A decision, unless neither side can be taken. -/
def ofSides? (tested : Nat) (taken fallThrough : Option V) : Option (BranchDecision V) :=
  if taken.isNone && fallThrough.isNone then none else some ⟨tested, taken, fallThrough⟩

/-- The frame that an edge carries, from the frame at the end of its source, the numbers before the
branch and the numbers at the target. Exceptions are not decided by the branch. -/
def apply [CellValue V] (d : BranchDecision V) (kind : EdgeKind)
    (before target : Option NumberedFrame) (f : Frame V) : Frame V :=
  let side (v : Option V) : Frame V :=
    match v with
    | none => f.setTop
    | some v => replaceClass f d.tested before target v
  match kind with
  | .branch => side d.taken
  | .fallThrough => side d.fallThrough
  | .handledException | .unhandledException => f

end BranchDecision

end Nullness
