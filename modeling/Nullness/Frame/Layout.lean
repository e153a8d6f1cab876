import Nullness.Frame.Operation

/-!
# Frames laid out in cells

A frame in memory is a row of cells whose length is that of the local variables and of a full stack.
The variables come first, then the stack from the bottom, then the cells that are not in use. Changes
are made in place, cell by cell, so that a refused operation leaves what it has done before.

* `Layout.Operation.run`: the operations on a layout, and what each of them leaves and answers;
* `Layout.toFrame`: the frame that is laid out.
-/

namespace Nullness

namespace Frame

/-- A frame in a row of cells. -/
structure Layout (V : Type) where
  /-- The local variables, then the stack from the bottom, then cells that are not in use. -/
  cells : List V
  numLocals : Nat
  /-- The number of cells on the stack. -/
  depth : Nat
  valid : Bool
  /-- Values of congruence classes, by value number. -/
  known : SortedMap Nat V
deriving DecidableEq

namespace Layout

variable {V : Type}

/-! ### Shape and contents -/

/-- The number of cells that the stack has room for. -/
def maxStack (l : Layout V) : Nat := l.cells.length - l.numLocals

/-- The number of live slots. -/
def numSlots (l : Layout V) : Nat := l.numLocals + l.depth

/-- The local variables. -/
def locals (l : Layout V) : List V := l.cells.take l.numLocals

/-- The operand stack, bottom first. -/
def stack (l : Layout V) : List V := (l.cells.take l.numSlots).drop l.numLocals

/-- The frame that is laid out. -/
def toFrame (l : Layout V) : Frame V :=
  ⟨l.locals, l.stack.reverse, l.maxStack, l.valid, l.known⟩

/-! ### Changes in place -/

/-- Writes a live slot. -/
def setValue (l : Layout V) (slot : Nat) (v : V) : Layout V × Except Error Unit :=
  if l.numSlots ≤ slot then (l, .error (.frame (.slotOutOfRange slot l.numSlots)))
  else ({ l with cells := l.cells.set slot v }, .ok ())

/-- Writes a local variable. -/
def setLocal (l : Layout V) (index : Nat) (v : V) : Layout V × Except Error Unit :=
  if l.numLocals ≤ index then (l, .error (.frame (.localOutOfRange index l.numLocals)))
  else ({ l with cells := l.cells.set index v }, .ok ())

/-- Puts a value into the first cell above the stack. -/
def push (l : Layout V) (v : V) : Layout V × Except Error Unit :=
  if l.cells.length ≤ l.numSlots then (l, .error (.frame (.stackOverflow l.maxStack)))
  else ({ l with cells := l.cells.set l.numSlots v, depth := l.depth + 1 }, .ok ())

/-- Keeps a value as the known value of a congruence class. -/
def setKnown (l : Layout V) (number : Nat) (v : V) : Layout V :=
  { l with known := l.known.insert number v }

/-- Forgets all known values. -/
def clearKnown (l : Layout V) : Layout V := { l with known := .empty }

section

variable [CellValue V]

/-- A top layout of a shape. -/
def new (numLocals maxStack : Nat) : Layout V :=
  ⟨List.replicate (numLocals + maxStack) CellValue.top, numLocals, 0, false, .empty⟩

/-- The layout without contents. -/
def clear (l : Layout V) : Layout V :=
  { l with cells := List.replicate l.cells.length CellValue.top, depth := 0, known := .empty }

/-- Forgets all contents and makes the layout valid. -/
def setValid (l : Layout V) : Layout V := { l.clear with valid := true }

/-- Forgets all contents and makes the layout top. -/
def setTop (l : Layout V) : Layout V := { l.clear with valid := false }

/-- Takes the value on top of the stack, and leaves nothing in its cell. -/
def pop (l : Layout V) : Layout V × Except Error V :=
  if l.depth = 0 then (l, .error (.frame .stackUnderflow))
  else
    let slot := l.numSlots - 1
    ({ l with cells := l.cells.set slot CellValue.top, depth := l.depth - 1 },
      .ok (l.cells.getD slot CellValue.top))

/-- Takes values off the stack one by one, until one is missing. -/
def popN (l : Layout V) : Nat → Layout V × Except Error Unit
  | 0 => (l, .ok ())
  | count + 1 =>
    match l.pop with
    | (l', .ok _) => l'.popN count
    | (l', .error e) => (l', .error e)

/-- Leaves nothing in the cells of the stack. -/
def clearStack (l : Layout V) : Layout V :=
  { l with
    cells := l.locals ++ List.replicate (l.cells.length - l.numLocals) CellValue.top
    depth := 0 }

/-- Leaves one value on the stack, as on entry to an exception handler. -/
def resetStackTo (l : Layout V) (v : V) : Layout V × Except Error Unit := l.clearStack.push v

/-- Joins the live cells with those of another layout, and the values known of one class. -/
def joinCells (l other : Layout V) : Layout V :=
  { l with
    cells := List.zipWith join (l.cells.take l.numSlots) (other.cells.take l.numSlots) ++
      l.cells.drop l.numSlots
    known := l.known.interWith join other.known }

/-- Joins another layout into a layout, and tells whether the layout changed. -/
def mergeWith [DecidableEq V] (l other : Layout V) : Layout V × Except Error Bool :=
  if !other.valid then (l, .ok false)
  else if !l.valid then (other, .ok true)
  else if l.cells.length ≠ other.cells.length ∨ l.numLocals ≠ other.numLocals then
    (l, .error (.frame .shapesDiffer))
  else if l.depth ≠ other.depth then (l, .error (.frame (.depthsDiffer l.depth other.depth)))
  else
    let merged := l.joinCells other
    (merged, .ok (merged ≠ l))

end

/-! ### Operations -/

/-- An operation that may change a layout. -/
inductive Operation (V : Type)
  | setValid
  | setTop
  | push (v : V)
  | pop
  | popN (count : Nat)
  | setLocal (index : Nat) (v : V)
  | setValue (slot : Nat) (v : V)
  | clearStack
  | resetStackTo (v : V)
  | setKnown (number : Nat) (v : V)
  | clearKnown
  | mergeWith (other : Layout V)

/-- What is left, with what is made of the answer. -/
def answer {α : Type} (reply : α → Reply V) (out : Layout V × Except Error α) :
    Layout V × Except Error (Reply V) :=
  (out.1, out.2.map reply)

namespace Operation

/-- Runs an operation: the layout afterwards, and the answer or the cause of the refusal. -/
def run [CellValue V] [DecidableEq V] (l : Layout V) :
    Operation V → Layout V × Except Error (Reply V)
  | .setValid => (l.setValid, .ok .done)
  | .setTop => (l.setTop, .ok .done)
  | .push v => answer (fun _ => .done) (l.push v)
  | .pop => answer .value l.pop
  | .popN count => answer (fun _ => .done) (l.popN count)
  | .setLocal index v => answer (fun _ => .done) (l.setLocal index v)
  | .setValue slot v => answer (fun _ => .done) (l.setValue slot v)
  | .clearStack => (l.clearStack, .ok .done)
  | .resetStackTo v => answer (fun _ => .done) (l.resetStackTo v)
  | .setKnown number v => (l.setKnown number v, .ok .done)
  | .clearKnown => (l.clearKnown, .ok .done)
  | .mergeWith other => answer .changed (l.mergeWith other)

/-- The same operation on frames. -/
def toFrame : Operation V → Frame.Operation V
  | .setValid => .setValid
  | .setTop => .setTop
  | .push v => .push v
  | .pop => .pop
  | .popN count => .popN count
  | .setLocal index v => .setLocal index v
  | .setValue slot v => .setValue slot v
  | .clearStack => .clearStack
  | .resetStackTo v => .resetStackTo v
  | .setKnown number v => .setKnown number v
  | .clearKnown => .clearKnown
  | .mergeWith other => .mergeWith other.toFrame

end Operation

end Layout

end Frame

end Nullness
