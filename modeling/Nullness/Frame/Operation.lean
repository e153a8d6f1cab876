import Nullness.Frame

/-!
# Operations on frames

The operations that change a frame, as values, and what each leaves behind and answers. An
operation that is refused leaves the frame as it was, with two exceptions: popping more cells than
there are empties the stack, and a reset of the stack has cleared it before it pushes.
-/

namespace Nullness

namespace Frame

/-- An operation that may change a frame. -/
inductive Operation (V : Type)
  | setValid
  | setTop
  | push (v : V)
  | pop
  | popN (count : Nat)
  | setLocal (index : Nat) (v : V)
  | setValue (slot : Nat) (v : V)
  | clearStack
  | resetStackTo (v : V)
  | setKnown (number : Nat) (v : V)
  | clearKnown
  | mergeWith (other : Frame V)

/-- What a successful operation answers. -/
inductive Reply (V : Type)
  | done
  | value (v : V)
  | changed (b : Bool)

variable {V : Type}

/-- The outcome of an operation that may be refused, with the frame that a refusal leaves. -/
def settle (left : Frame V) : Except Error (Frame V) → Frame V × Except Error (Reply V)
  | .ok f => (f, .ok .done)
  | .error e => (left, .error e)

/-- Runs an operation: the frame afterwards, and the answer or the cause of the refusal. -/
def Operation.run [CellValue V] [DecidableEq V] (f : Frame V) :
    Operation V → Frame V × Except Error (Reply V)
  | .setValid => (f.setValid, .ok .done)
  | .setTop => (f.setTop, .ok .done)
  | .push v => settle f (f.push v)
  | .pop =>
    match f.pop with
    | .ok (v, f') => (f', .ok (.value v))
    | .error e => (f, .error e)
  | .popN count => settle (f.dropCells count) (f.popN count)
  | .setLocal index v => settle f (f.setLocal index v)
  | .setValue slot v => settle f (f.setValue slot v)
  | .clearStack => (f.clearStack, .ok .done)
  | .resetStackTo v => settle f.clearStack (f.resetStackTo v)
  | .setKnown number v => (f.setKnown number v, .ok .done)
  | .clearKnown => (f.clearKnown, .ok .done)
  | .mergeWith other =>
    match f.mergeWith other with
    | .ok (f', b) => (f', .ok (.changed b))
    | .error e => (f, .error e)

end Frame

end Nullness
