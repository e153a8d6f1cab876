import Nullness.Instruction
import Nullness.SortedMap

/-!
# Value frames

A value frame labels every live slot of a program point so that slots with equal labels hold equal
values. Beside the slots it keeps the heap reads whose result is still available under some label.

The labels are a parameter: the analysis works with the origins of values (`ValueOrigin`), and its
outcome is numbered.
-/

namespace Nullness

/-- A heap read, with its operands given by their labels. -/
inductive Load (α : Type)
  /-- A field of an object, or a static field when there is no reference. -/
  | field (reference : Option α) (field : FieldRef)
  | element (array index : α)
deriving DecidableEq

namespace Load

variable {α : Type}

/-- Fields come before elements. -/
def rank : Load α → Nat
  | .field .. => 0
  | .element .. => 1

/-- The label of the object or array that is read. -/
def base : Load α → Option α
  | .field reference _ => reference
  | .element array _ => some array

/-- The parts of the field's name. -/
def fieldParts : Load α → List String
  | .field _ f => [f.owner, f.name, f.descriptor]
  | .element .. => []

/-- The label of the index. -/
def index? : Load α → Option α
  | .field .. => none
  | .element _ index => some index

/-- The labels of the operands. -/
def labels (l : Load α) : List α := l.base.toList ++ l.index?.toList

/-- Renames the labels of the operands. -/
def map {β : Type} (f : α → β) : Load α → Load β
  | .field reference fld => .field (reference.map f) fld
  | .element array index => .element (f array) (f index)

variable [Ord α]

/-- Loads are ordered by kind, then by the object or array, static fields first, then by the
field's name or by the index. -/
def order : Load α → Load α → Ordering :=
  compareLex (compareOn rank) <|
    compareLex (compareOn base) <| compareLex (compareOn fieldParts) (compareOn index?)

instance : Ord (Load α) := ⟨order⟩

instance [Std.TransOrd α] : Std.TransOrd (Load α) :=
  inferInstanceAs (Std.TransCmp (compareLex (compareOn rank) <|
    compareLex (compareOn base) <| compareLex (compareOn fieldParts) (compareOn index?)))

instance [Std.ReflOrd α] : Std.ReflOrd (Load α) :=
  inferInstanceAs (Std.ReflCmp (compareLex (compareOn rank) <|
    compareLex (compareOn base) <| compareLex (compareOn fieldParts) (compareOn index?)))

instance [Std.LawfulEqOrd α] : Std.LawfulEqOrd (Load α) where
  eq_of_compare {a b} h := by
    have h' : order a b = .eq := h
    simp only [order, compareLex, compareOn, Ordering.then_eq_eq, Std.LawfulEqOrd.compare_eq_iff_eq]
      at h'
    obtain ⟨hrank, hbase, hfield, hindex⟩ := h'
    cases a <;> cases b <;> simp_all [rank, base, fieldParts, index?]
    rename_i f _ f'
    cases f; cases f'; simp_all

end Load

/-- The labels of the live slots and the available loads at one program point. -/
structure ValueFrame (α : Type) [Ord α] where
  locals : List α
  /-- The operand stack, top first. -/
  stack : List α
  loads : SortedMap (Load α) α
deriving DecidableEq

namespace ValueFrame

variable {α : Type} [Ord α]

/-- The number of local variables. -/
def numLocals (f : ValueFrame α) : Nat := f.locals.length

/-- The number of cells on the stack. -/
def depth (f : ValueFrame α) : Nat := f.stack.length

/-- The labels of the live slots, locals first and then the stack from the bottom. -/
def slots (f : ValueFrame α) : List α := f.locals ++ f.stack.reverse

/-- The number of live slots. -/
def numSlots (f : ValueFrame α) : Nat := f.numLocals + f.depth

@[simp] theorem length_slots (f : ValueFrame α) : f.slots.length = f.numSlots := by
  simp [slots, numSlots, numLocals, depth]

/-- The frame with given slots, of which the first `numLocals` are locals. -/
def ofSlots (numLocals : Nat) (slots : List α) (loads : SortedMap (Load α) α) : ValueFrame α :=
  ⟨slots.take numLocals, (slots.drop numLocals).reverse, loads⟩

/-- The label of a live slot. -/
def slot? (f : ValueFrame α) (i : Nat) : Option α := f.slots[i]?

/-- The label of the cell that lies `fromTop` cells below the top of the stack. -/
def stackValue? (f : ValueFrame α) (fromTop : Nat) : Option α := f.stack[fromTop]?

/-- The label on top of the stack. -/
def topValue? (f : ValueFrame α) : Option α := f.stackValue? 0

/-- The label under which the result of a load is available. -/
def available? (f : ValueFrame α) (l : Load α) : Option α := f.loads.get? l

/-- The first load whose result is available under a label. -/
def loadOf? [DecidableEq α] (f : ValueFrame α) (label : α) : Option (Load α) :=
  (f.loads.entries.find? fun e => e.2 = label).map (·.1)

/-- All labels that the frame mentions, those of the slots first. -/
def labels (f : ValueFrame α) : List α :=
  f.slots ++ f.loads.entries.flatMap fun e => e.1.labels ++ [e.2]

/-- Renames the labels. -/
def map {β : Type} [Ord β] [Std.TransOrd β] (g : α → β) (f : ValueFrame α) : ValueFrame β :=
  ⟨f.locals.map g, f.stack.map g, .ofList (f.loads.entries.map fun e => (e.1.map g, g e.2))⟩

/-! ### Instructions -/

/-- Puts a label on the stack. -/
def push (f : ValueFrame α) (label : α) : ValueFrame α := { f with stack := label :: f.stack }

/-- Takes the label on top of the stack. -/
def pop (f : ValueFrame α) : Except Error (α × ValueFrame α) :=
  match f.stack with
  | label :: rest => .ok (label, { f with stack := rest })
  | [] => .error (.numbering .stackUnderflow)

/-- Takes a number of labels off the stack. -/
def popN (f : ValueFrame α) (count : Nat) : Except Error (ValueFrame α) :=
  if count ≤ f.depth then .ok { f with stack := f.stack.drop count }
  else .error (.numbering .stackUnderflow)

/-- Pushes `count` fresh results, of which `output` gives the labels. -/
def pushOutputs (f : ValueFrame α) (output : Nat → α) (count : Nat) : ValueFrame α :=
  { f with stack := ((List.range count).map output).reverse ++ f.stack }

variable [Std.TransOrd α] [DecidableEq α]

/-- Pushes the result of a load: the label under which it is available, or else `fresh`, under which
it is available from then on. -/
def readHeap (f : ValueFrame α) (fresh : α) (l : Load α) : ValueFrame α :=
  match f.available? l with
  | some label => f.push label
  | none => { f with loads := f.loads.insert l fresh }.push fresh

/-- A store to a field changes that field of any object. -/
def killField (f : ValueFrame α) (field : FieldRef) : ValueFrame α :=
  { f with loads := f.loads.filter fun l _ =>
      match l with
      | .field _ loaded => loaded ≠ field
      | .element .. => true }

/-- A store to an array changes elements of any array. -/
def killElements (f : ValueFrame α) : ValueFrame α :=
  { f with loads := f.loads.filter fun l _ =>
      match l with
      | .field .. => true
      | .element .. => false }

/-- Makes a stored value the available result of a load. -/
def writeHeap (f : ValueFrame α) (l : Load α) (stored : α) : ValueFrame α :=
  { f with loads := f.loads.insert l stored }

/-- Follows an instruction whose fresh results have the labels `output 0`, `output 1`, ….
Copies keep their label. A call may change any field and any element. -/
def step [DescriptorReader] (f : ValueFrame α) (output : Nat → α) (op : Opcode) :
    Except Error (ValueFrame α) :=
  match op with
  | .nop | .goto | .return | .checkCast => .ok f
  | .load slot =>
    match f.locals[slot]? with
    | some label => .ok (f.push label)
    | none => .error (.numbering (.loadOfUnknownLocal slot))
  | .store slot =>
    if slot < f.numLocals then do
      let (label, f) ← f.pop
      return { f with locals := f.locals.set slot label }
    else .error (.numbering (.storeToUnknownLocal slot))
  | .pop => do
    let (_, f) ← f.pop
    return f
  | .dup => do
    let (label, f) ← f.pop
    return (f.push label).push label
  | .dupX1 => do
    let (first, f) ← f.pop
    let (second, f) ← f.pop
    return ((f.push first).push second).push first
  | .swap => do
    let (first, f) ← f.pop
    let (second, f) ← f.pop
    return (f.push first).push second
  | .getField field => do
    let (reference, f) ← f.pop
    return f.readHeap (output 0) (.field (some reference) field)
  | .getStatic field => .ok (f.readHeap (output 0) (.field none field))
  | .arrayLoad => do
    let (index, f) ← f.pop
    let (array, f) ← f.pop
    return f.readHeap (output 0) (.element array index)
  | .arrayStore => do
    let (stored, f) ← f.pop
    let (index, f) ← f.pop
    let (array, f) ← f.pop
    return f.killElements.writeHeap (.element array index) stored
  | .putField field => do
    let (stored, f) ← f.pop
    let (reference, f) ← f.pop
    return (f.killField field).writeHeap (.field (some reference) field) stored
  | .putStatic field => do
    let (stored, f) ← f.pop
    return (f.killField field).writeHeap (.field none field) stored
  | .invoke _ => do
    let effect ← op.effect
    let f ← f.popN effect.pops
    return { f with loads := .empty }.pushOutputs output effect.pushes
  | _ => do
    let effect ← op.effect
    let f ← f.popN effect.pops
    return f.pushOutputs output effect.pushes

end ValueFrame

end Nullness
