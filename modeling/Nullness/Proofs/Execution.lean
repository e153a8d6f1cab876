import Mathlib.Tactic
import Nullness.Analysis
import Nullness.Proofs.Dataflow
import Nullness.Proofs.Machine

/-!
# Executions with null values

Runs of the machine over values that may be null. An instruction completes only if its receiver is
not null, a test picks the edge by the tested values, and what a nullness model has been told of
parameters, fields and calls holds of the run.

* `Machine.Completes`: an instruction runs to its end;
* `Machine.Execution`: the points that an activation comes to, each with its state there and the
  outcome of a test that has just been made;
* `Machine.Execution.loaded_arguments`: the loads that are found in front of a call have loaded what
  the call takes.
-/

namespace Nullness

/-- What a local variable or a stack cell can hold. -/
inductive Value
  | null
  | reference (address : Nat)
  | primitive (n : Int)
deriving DecidableEq

/-- A cell of the machine. A local variable has no value before something is stored in it. -/
abbrev Cell : Type := Option Value

/-- The only edge into the block falls through. -/
lemma FlowGraph.fallThroughPredecessor?_eq_some_iff {g : FlowGraph} {b p : g.Node} :
    g.fallThroughPredecessor? b = some p ↔
      ∃ e, g.incoming b = [e] ∧ e.kind = .fallThrough ∧ e.source = p := by
  unfold fallThroughPredecessor?
  split
  · rename_i e hincoming
    simp [hincoming]
  · rename_i hmany
    constructor
    · rintro ⟨⟩
    · rintro ⟨e, hincoming, -⟩
      exact absurd hincoming (hmany e)

/-- All opcodes of a block. -/
lemma FlowGraph.take_ops (g : FlowGraph) (b : g.Node) :
    (g.ops b).take (g.instructions b).length = g.ops b :=
  List.take_of_length_le (List.length_map _).le

namespace Machine

variable [DescriptorReader] {g : FlowGraph}

/-! ### Instructions that complete -/

/-- The reference that an instruction dereferences. -/
def receiver? : Opcode → List Cell → Option Cell
  | .getField _, object :: _ => some object
  | .putField _, _ :: object :: _ => some object
  | .arrayLoad, _ :: array :: _ => some array
  | .arrayStore, _ :: _ :: array :: _ => some array
  | .arrayLength, array :: _ => some array
  | .monitorEnter, object :: _ | .monitorExit, object :: _ => some object
  | .throw, exception :: _ => some exception
  | .invoke call, stack =>
    if call.kind = .static then none else call.parameterCount.toOption.bind (stack[·]?)
  | _, _ => none

/-- What an instruction leaves on the stack, as far as it matters whether that is null. Null is an
instance of no class. -/
def Makes : Opcode → (before after : List Cell) → Prop
  | .constNull, _, after => after.head? = some (some .null)
  | .constReference, _, after | .new _, _, after | .newArray, _, after
  | .multiNewArray _, _, after => ∃ address, after.head? = some (some (.reference address))
  | .instanceOf, before, after =>
    before.head? = some (some .null) → after.head? = some (some (.primitive 0))
  | _, _, _ => True

/-- A field is told not to hold null. -/
def ToldNonNull (m : NullModel g) : Opcode → Prop
  | .getField field =>
    isReferenceField field.descriptor = true ∧ m.hierarchy.fieldMark field = .nonNull
  | .getStatic field => isReferenceField field.descriptor = true ∧
    ("class$".toList.isPrefixOf field.name.toList = true ∨
      m.hierarchy.fieldMark field = .nonNull)
  | _ => False

/-- What a model has been told of a call holds when the call completes: the arguments that all
targets need are not null, a method that throws under a condition has not found it, and a result
that is told not to be null is not. -/
structure Trusted (m : NullModel g) (b : g.Node) (call : CallSite) (s s' : State Cell) : Prop where
  required : ∀ count, call.parameterCount = .ok count → ∀ i < count,
    SortedSet.mem (m.hierarchy.requiredParameters call (m.hierarchy.targets call)) i = true →
    s.stack[count - 1 - i]? ≠ some (some .null)
  returns : call.kind = .static →
    m.summaries.get ((m.hierarchy.targets call).head?.getD call.declared) ≠ .alwaysThrows
  checked : call.kind = .static → ∀ parameters,
    m.summaries.get ((m.hierarchy.targets call).head?.getD call.declared)
      = .conditional parameters →
    ∀ count, call.consumed = .ok count → ∀ i < count, SortedSet.mem parameters i = true →
    s.stack[count - 1 - i]? ≠ some (some .null)
  result : call.returnKind = .ok .reference →
    m.returnValue b call (m.hierarchy.targets call) = .nonNullProven →
    s'.stack.head? ≠ some (some .null)

/-- An instruction of a block runs to its end. The operand stack has `maxStack` cells, and all that
are in use hold values. -/
structure Completes (m : NullModel g) (maxStack : Nat) (b : g.Node) (op : Opcode)
    (s s' : State Cell) : Prop where
  exec : Exec op s s'
  room : s'.stack.length ≤ maxStack
  assigned : none ∉ s'.stack
  receiver : receiver? op s.stack ≠ some (some .null)
  makes : Makes op s.stack s'.stack
  told : ToldNonNull m op → s'.stack.head? ≠ some (some .null)
  trusted : ∀ call, op = .invoke call → Trusted m b call s s'

/-! ### Runs -/

/-- The kind of edge that a test picks by the values it finds on the stack, given the instruction in
front of it. The comparison of an integer counts where the integer comes from `instanceof`. -/
def picked? (before : Option Opcode) (op : Opcode) (stack : List Cell) : Option EdgeKind :=
  let side (taken : Bool) := some (if taken then EdgeKind.branch else .fallThrough)
  match op, stack with
  | .ifNull, v :: _ => side (v = some .null)
  | .ifNonNull, v :: _ => side (v ≠ some .null)
  | .ifRefEq, v :: w :: _ => side (v = w)
  | .ifRefNe, v :: w :: _ => side (v ≠ w)
  | .ifEq, v :: _ => if before = some .instanceOf then side (v = some (.primitive 0)) else none
  | .ifNe, v :: _ => if before = some .instanceOf then side (v ≠ some (.primitive 0)) else none
  | _, _ => none

/-- The opcode in front of a position in a block. -/
def opBefore? (g : FlowGraph) (b : g.Node) (index : Nat) : Option Opcode :=
  if index = 0 then none else (g.ops b)[index - 1]?

/-- The points that an activation comes to from a first state, each with the edge that the
instruction in front of it has picked, if it is a test, and with the state. No exception is raised on
the way. -/
inductive Execution (m : NullModel g) (maxStack : Nat) (first : State Cell) :
    g.Node → Nat → Option EdgeKind → State Cell → Prop
  | entry : Execution m maxStack first g.entry 0 none first
  | step {b : g.Node} {index : Nat} {pick : Option EdgeKind} {i : Instruction}
      {s s' : State Cell} : Execution m maxStack first b index pick s →
      (g.instructions b)[index]? = some i → Completes m maxStack b i.op s s' →
      Execution m maxStack first b (index + 1) (picked? (opBefore? g b index) i.op s.stack) s'
  | jump {e : g.Arc} {pick : Option EdgeKind} {s : State Cell} :
      Execution m maxStack first e.source (g.instructions e.source).length pick s →
      e ∈ g.edges → e.kind.isException = false → (∀ kind, pick = some kind → e.kind = kind) →
      Execution m maxStack first e.target 0 none s

/-- A state on entry to a method: a receiver is not null, nor is a parameter that is told not to
be. -/
structure Enters (h : Hierarchy) (id : MethodId) (method : Method) (first : State Cell) : Prop where
  locals : first.locals.length = method.maxLocals
  stack : first.stack = []
  receiver : method.isStatic = false → first.locals[0]? ≠ some (some .null)
  parameters : ∀ d, MethodDescriptor.parse method.descriptor = .ok d → ∀ i t slot,
    d.parameters[i]? = some t → (d.parameterSlots method.isStatic)[i]? = some slot →
    t.isReference = true → h.parameterMark id i = .nonNull →
    first.locals[slot]? ≠ some (some .null)

/-- The local variables beside the receiver and the parameters hold no value yet. -/
def ParametersOnly (method : Method) (first : State Cell) : Prop :=
  ∀ d, MethodDescriptor.parse method.descriptor = .ok d → ∀ slot < first.locals.length,
    (method.isStatic = false → slot ≠ 0) → slot ∉ d.parameterSlots method.isStatic →
    first.locals[slot]? = some none

variable {m : NullModel g} {maxStack : Nat} {first s : State Cell} {b : g.Node} {index : Nat}
  {pick : Option EdgeKind}

/-- All cells of the stack that are in use hold values. -/
lemma Execution.assigned (hstack : first.stack = [])
    (h : Execution m maxStack first b index pick s) : none ∉ s.stack := by
  induction h with
  | entry => simp [hstack]
  | step _ _ hcomp _ => exact hcomp.assigned
  | jump _ _ _ _ ih => exact ih

/-! ### Loaded arguments -/

section

omit [DescriptorReader]

open NullModel

lemma loadsBackwards_zero (blocks : Nat) (b : g.Node) (ops : List Opcode) :
    loadsBackwards blocks b 0 ops = some [] := by
  cases blocks <;> simp [loadsBackwards, takeLoads]

/-- A load is taken, and the search goes on in front of it. -/
lemma loadsBackwards_load (blocks : Nat) (b : g.Node) (count slot : Nat) (ops : List Opcode) :
    loadsBackwards blocks b (count + 1) (.load slot :: ops)
      = (loadsBackwards blocks b count ops).map (slot :: ·) := by
  unfold loadsBackwards
  rw [takeLoads]
  cases takeLoads count ops with
  | none => rfl
  | some taken =>
      obtain ⟨slots, missing⟩ := taken
      cases missing with
      | zero => rfl
      | succ missing =>
          cases blocks with
          | zero => rfl
          | succ blocks =>
              simp only [Option.map_some, Option.map_bind, Option.map_map, Function.comp_def,
                List.cons_append]

/-- Any other instruction ends the search. -/
lemma loadsBackwards_other {op : Opcode} (hop : ∀ slot, op ≠ .load slot) (blocks : Nat) (b : g.Node)
    (count : Nat) (ops : List Opcode) : loadsBackwards blocks b (count + 1) (op :: ops) = none := by
  have hnone : takeLoads (count + 1) (op :: ops) = none := by
    cases op <;> first | rfl | exact absurd rfl (hop _)
  unfold loadsBackwards
  rw [hnone]

/-- At the start of a block the search goes on in the only predecessor. -/
lemma loadsBackwards_nil (blocks : Nat) (b : g.Node) (count : Nat) :
    loadsBackwards (blocks + 1) b (count + 1) [] = (g.fallThroughPredecessor? b).bind fun p =>
      loadsBackwards blocks p (count + 1) (opsBackwards p) := by
  rw [loadsBackwards]
  simp [takeLoads]

lemma loadsBackwards_nil_zero (b : g.Node) (count : Nat) :
    loadsBackwards 0 b (count + 1) [] = none := by
  rw [loadsBackwards]
  simp [takeLoads]

end

/-- **The loads that are found in front of a call have loaded what the call takes.** The nearest load
has loaded the top of the stack. -/
theorem Execution.loaded_arguments (hstack : first.stack = [])
    (h : Execution m maxStack first b index pick s) {blocks count : Nat} {slots : List Nat}
    (hslots : NullModel.loadsBackwards blocks b count ((g.ops b).take index).reverse = some slots)
    (hcount : count ≤ s.stack.length) :
    slots.map (s.locals[·]?) = (s.stack.take count).map some := by
  induction h generalizing blocks count slots with
  | entry =>
      -- nothing is on the stack yet
      obtain rfl : count = 0 := by simpa [hstack] using hcount
      obtain rfl : [] = slots := by simpa [loadsBackwards_zero] using hslots
      simp
  | @step b index pick i s s' _ hi hcomp ih =>
      have hop : (g.ops b)[index]? = some i.op := by simp [FlowGraph.ops, hi]
      cases count with
      | zero =>
          obtain rfl : [] = slots := by simpa [loadsBackwards_zero] using hslots
          simp
      | succ count =>
          rw [List.take_add_one, hop, Option.toList_some, List.reverse_append, List.reverse_singleton,
            List.singleton_append] at hslots
          obtain ⟨slot, heq⟩ : ∃ slot, i.op = .load slot := by
            by_contra hop
            push Not at hop
            rw [loadsBackwards_other hop] at hslots
            cases hslots
          rw [heq, loadsBackwards_load] at hslots
          obtain ⟨slots', hfound, rfl⟩ := Option.map_eq_some_iff.1 hslots
          obtain ⟨v, hv, rfl⟩ : ∃ v, s.locals[slot]? = some v ∧ s' = s.withStack (v :: s.stack) := by
            have hexec := hcomp.exec
            rwa [heq] at hexec
          have hrest := ih hfound (by simpa [State.withStack] using hcount)
          simp only [State.withStack, List.map_cons, List.take_succ_cons, hv, hrest]
  | @jump e pick s _ he hkind _ ih =>
      cases count with
      | zero =>
          obtain rfl : [] = slots := by simpa [loadsBackwards_zero] using hslots
          simp
      | succ count =>
          cases blocks with
          | zero =>
              rw [List.take_zero, List.reverse_nil, loadsBackwards_nil_zero] at hslots
              cases hslots
          | succ blocks =>
              rw [List.take_zero, List.reverse_nil, loadsBackwards_nil] at hslots
              obtain ⟨p, hp, hslots⟩ := Option.bind_eq_some_iff.1 hslots
              obtain ⟨e', hincoming, -, rfl⟩ := FlowGraph.fallThroughPredecessor?_eq_some_iff.1 hp
              obtain rfl : e = e' := by
                have hmem := FlowGraph.mem_incoming.2 ⟨he, rfl⟩
                rwa [hincoming, List.mem_singleton] at hmem
              exact ih (by rw [g.take_ops]; exact hslots) hcount

end Machine

end Nullness
