import Nullness.Error
import Nullness.SortedMap

/-!
# Abstract frames

A frame describes the local variables and the operand stack at one program point by a cell each,
and the values known of congruence classes besides. It is valid, or it is *top*: no control has
been seen to reach the point. Slots number the live cells, locals first and then the stack from the
bottom.

The stack is kept with its top first. A cell above the stack is not kept at all, so two frames are
equal exactly when their live contents are.

* `Frame.push_eq_ok_iff`, `Frame.pop_eq_ok_iff`: when a push or a pop succeeds, and with what;
* `Frame.length_slots`: the live slots are the locals and the stack;
* `Frame.slots_mapSlots`: what changing every cell does to the slots;
* `Frame.mergeWith_top_right`, `Frame.mergeWith_top_left`: a top frame adds nothing to a join.
-/

namespace Nullness

/-- The values of a cell: a join, and the value that says nothing yet. -/
class CellValue (V : Type) where
  top : V
  join : V → V → V

export CellValue (join)

/-- A join that orders the values, with `top` at the bottom. -/
class LawfulCellValue (V : Type) [CellValue V] : Prop where
  join_comm : ∀ a b : V, join a b = join b a
  join_assoc : ∀ a b c : V, join (join a b) c = join a (join b c)
  join_self : ∀ a : V, join a a = a
  top_join : ∀ a : V, join CellValue.top a = a

/-- The abstract state of one activation. -/
structure Frame (V : Type) where
  locals : List V
  /-- The operand stack, top first. -/
  stack : List V
  maxStack : Nat
  valid : Bool
  /-- Values of congruence classes, by value number. -/
  known : SortedMap Nat V
deriving DecidableEq

namespace Frame

variable {V : Type}

/-! ### Shape and contents -/

/-- The number of local variables. -/
def numLocals (f : Frame V) : Nat := f.locals.length

/-- The number of cells on the stack. -/
def depth (f : Frame V) : Nat := f.stack.length

/-- The number of live slots. -/
def numSlots (f : Frame V) : Nat := f.numLocals + f.depth

/-- The live cells, locals first and then the stack from the bottom. -/
def slots (f : Frame V) : List V := f.locals ++ f.stack.reverse

/-- The live slots are the locals and the stack. -/
@[simp] theorem length_slots (f : Frame V) : f.slots.length = f.numSlots := by
  simp [slots, numSlots, numLocals, depth]

/-- The value of a live slot. -/
def value (f : Frame V) (slot : Nat) : Except Error V :=
  match f.slots[slot]? with
  | some v => .ok v
  | none => .error (.frame (.slotOutOfRange slot f.numSlots))

/-- The value of a local variable. -/
def localValue (f : Frame V) (index : Nat) : Except Error V :=
  match f.locals[index]? with
  | some v => .ok v
  | none => .error (.frame (.localOutOfRange index f.numLocals))

/-- The value of the cell that lies `fromTop` cells below the top of the stack. -/
def stackValue (f : Frame V) (fromTop : Nat) : Except Error V :=
  match f.stack[fromTop]? with
  | some v => .ok v
  | none => .error (.frame (.tooDeep fromTop f.depth))

/-- The value on top of the stack. -/
def topValue (f : Frame V) : Except Error V := f.stackValue 0

/-! ### Changing cells -/

/-- Writes a live slot. -/
def setValue (f : Frame V) (slot : Nat) (v : V) : Except Error (Frame V) :=
  if slot < f.numLocals then .ok { f with locals := f.locals.set slot v }
  else if slot < f.numSlots then
    .ok { f with stack := f.stack.set (f.numSlots - 1 - slot) v }
  else .error (.frame (.slotOutOfRange slot f.numSlots))

/-- Writes a local variable. -/
def setLocal (f : Frame V) (index : Nat) (v : V) : Except Error (Frame V) :=
  if index < f.numLocals then .ok { f with locals := f.locals.set index v }
  else .error (.frame (.localOutOfRange index f.numLocals))

/-- Puts a value on the stack, which has room for `maxStack`. -/
def push (f : Frame V) (v : V) : Except Error (Frame V) :=
  if f.depth < f.maxStack then .ok { f with stack := v :: f.stack }
  else .error (.frame (.stackOverflow f.maxStack))

/-- Takes the value on top of the stack. -/
def pop (f : Frame V) : Except Error (V × Frame V) :=
  match f.stack with
  | v :: rest => .ok (v, { f with stack := rest })
  | [] => .error (.frame .stackUnderflow)

/-- The frame without its topmost cells, as far as it has them. -/
def dropCells (f : Frame V) (count : Nat) : Frame V := { f with stack := f.stack.drop count }

/-- Takes a number of values off the stack. -/
def popN (f : Frame V) (count : Nat) : Except Error (Frame V) :=
  if count ≤ f.depth then .ok (f.dropCells count) else .error (.frame .stackUnderflow)

/-- The frame with an empty stack. -/
def clearStack (f : Frame V) : Frame V := { f with stack := [] }

/-- Leaves one value on the stack, as on entry to an exception handler. -/
def resetStackTo (f : Frame V) (v : V) : Except Error (Frame V) := f.clearStack.push v

/-- Pushes a value a number of times. -/
def pushN (f : Frame V) (v : V) : Nat → Except Error (Frame V)
  | 0 => .ok f
  | count + 1 => do (← f.push v).pushN v count

/-- Changes every live cell, given its slot and its value. -/
def mapSlots (f : Frame V) (g : Nat → V → V) : Frame V :=
  { f with
    locals := f.locals.mapIdx g
    stack := (f.stack.reverse.mapIdx fun i v => g (f.numLocals + i) v).reverse }

/-- Changing every cell changes the live slots by position. -/
theorem slots_mapSlots (f : Frame V) (g : Nat → V → V) :
    (f.mapSlots g).slots = f.slots.mapIdx g := by
  simp [slots, mapSlots, List.mapIdx_append, numLocals, Nat.add_comm]

/-! ### Known values -/

/-- The value known of a congruence class. -/
def knownValue? (f : Frame V) (number : Nat) : Option V := f.known.get? number

/-- Keeps a value as the known value of a congruence class. -/
def setKnown (f : Frame V) (number : Nat) (v : V) : Frame V :=
  { f with known := f.known.insert number v }

/-- Changes every known value. -/
def mapKnown (f : Frame V) (g : V → V) : Frame V := { f with known := f.known.mapValues g }

/-- Forgets all known values. -/
def clearKnown (f : Frame V) : Frame V := { f with known := .empty }

/-! ### Validity -/

section

variable [CellValue V]

/-- The top frame of a shape: nothing is known and the stack is empty. -/
def fresh (numLocals maxStack : Nat) : Frame V :=
  ⟨List.replicate numLocals CellValue.top, [], maxStack, false, .empty⟩

/-- Forgets all contents and makes the frame top. -/
def setTop (f : Frame V) : Frame V := fresh f.numLocals f.maxStack

/-- Forgets all contents and makes the frame valid. -/
def setValid (f : Frame V) : Frame V := { f.setTop with valid := true }

/-! ### Joining -/

/-- Joins two valid frames of one shape and depth cell by cell. Of the known values those stay that
both frames have. -/
def joinCells (f other : Frame V) : Frame V :=
  { f with
    locals := List.zipWith join f.locals other.locals
    stack := List.zipWith join f.stack other.stack
    known := f.known.interWith join other.known }

/-- Joins another frame into a frame, and tells whether the frame changed. A top frame adds nothing,
and a top frame becomes whatever is joined into it. -/
def mergeWith [DecidableEq V] (f other : Frame V) : Except Error (Frame V × Bool) :=
  if !other.valid then .ok (f, false)
  else if !f.valid then .ok (other, true)
  else if f.numLocals ≠ other.numLocals ∨ f.maxStack ≠ other.maxStack then
    .error (.frame .shapesDiffer)
  else if f.depth ≠ other.depth then .error (.frame (.depthsDiffer f.depth other.depth))
  else
    let merged := f.joinCells other
    .ok (merged, merged ≠ f)

/-- The join of two frames. -/
def merge [DecidableEq V] (f other : Frame V) : Except Error (Frame V) :=
  (f.mergeWith other).map (·.1)

end

/-! ### First facts -/

/-- A push succeeds when the stack has room. -/
theorem push_eq_ok_iff {f f' : Frame V} {v : V} :
    f.push v = .ok f' ↔ f.depth < f.maxStack ∧ f' = { f with stack := v :: f.stack } := by
  unfold push
  split
  · rename_i h
    simp [h, eq_comm]
  · rename_i h
    simp [h]

/-- A pop succeeds when the stack has a cell. -/
theorem pop_eq_ok_iff {f f' : Frame V} {v : V} :
    f.pop = .ok (v, f') ↔ ∃ rest, f.stack = v :: rest ∧ f' = { f with stack := rest } := by
  unfold pop
  split
  · rename_i w rest h
    simp only [h, Except.ok.injEq, Prod.mk.injEq, List.cons.injEq]
    constructor
    · rintro ⟨rfl, rfl⟩
      exact ⟨rest, ⟨rfl, rfl⟩, rfl⟩
    · rintro ⟨_, ⟨rfl, rfl⟩, rfl⟩
      exact ⟨rfl, rfl⟩
  · rename_i h
    simp [h]

/-- Several pops succeed when the stack is deep enough. -/
theorem popN_eq_ok_iff {f f' : Frame V} {count : Nat} :
    f.popN count = .ok f' ↔ count ≤ f.depth ∧ f' = f.dropCells count := by
  unfold popN
  split
  · rename_i h
    simp [h, eq_comm]
  · rename_i h
    simp [h]

/-- A top frame adds nothing. -/
theorem mergeWith_top_right [CellValue V] [DecidableEq V] (f : Frame V) {other : Frame V}
    (h : other.valid = false) : f.mergeWith other = .ok (f, false) := by
  simp [mergeWith, h]

/-- A top frame becomes what is joined into it. -/
theorem mergeWith_top_left [CellValue V] [DecidableEq V] {f : Frame V} (other : Frame V)
    (hf : f.valid = false) (ho : other.valid = true) : f.mergeWith other = .ok (other, true) := by
  simp [mergeWith, hf, ho]

end Frame

end Nullness
