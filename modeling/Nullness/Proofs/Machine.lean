import Mathlib.Tactic
import Nullness.FlowGraph
import Nullness.ValueNumber.Frame

/-!
# A machine for method bodies

What the instructions do to actual values: the ground truth against which the facts of an analysis
are read. The values are a parameter, since it matters only which of them are equal. The heap is a
function of the loads that read it, so two names of one cell are one key.

* `Machine.Exec`: what an instruction may do to a state;
* `Machine.Run`: the points that an activation comes to along normal edges, with its states there.
-/

namespace Nullness

namespace Opcode

/-- The local variable that an instruction names. -/
def slot? : Opcode → Option Nat
  | .load slot | .store slot => some slot
  | _ => none

/-- An instruction neither moves labels nor uses the heap: its operands go, and fresh results come. -/
def isPlain : Opcode → Bool
  | .load _ | .store _ | .pop | .dup | .dupX1 | .swap | .getField _ | .getStatic _ | .arrayLoad
  | .putField _ | .putStatic _ | .arrayStore | .invoke _ => false
  | _ => true

lemma slot?_of_isPlain {op : Opcode} (hplain : op.isPlain = true) : op.slot? = none := by
  cases op with
  | load | store => cases hplain
  | _ => rfl

/-- An instruction has an effect, and it finds the operands and the local variable that it needs
among so many locals and stack cells. -/
structure Fits [DescriptorReader] (op : Opcode) (numLocals depth : Nat) (effect : StackEffect) :
    Prop where
  effect_eq : op.effect = .ok effect
  pops_le : effect.pops ≤ depth
  slot_lt : ∀ slot, op.slot? = some slot → slot < numLocals

end Opcode

namespace Machine

/-- An activation of a method, with the heap. -/
structure State (V : Type) where
  locals : List V
  /-- The operand stack, top first. -/
  stack : List V
  heap : Load V → V

namespace State

variable {V : Type} (s : State V)

/-- The live slots, locals first and then the stack from the bottom. -/
def slots : List V := s.locals ++ s.stack.reverse

/-- The state with another stack. -/
def withStack (stack : List V) : State V := { s with stack }

/-- The state with a cell of the heap written. -/
def write [DecidableEq V] (l : Load V) (v : V) : State V :=
  { s with heap := Function.update s.heap l v }

end State

variable [DescriptorReader] {V : Type} [DecidableEq V]

/-- What an instruction may do to a state. Copies move values, and heap accesses read and write the
cell that their operands name. A call may change the whole heap. Every other value that is pushed is
arbitrary. -/
def Exec (op : Opcode) (s s' : State V) : Prop :=
  match op with
  | .nop | .goto | .return | .checkCast => s' = s
  | .load slot => ∃ v, s.locals[slot]? = some v ∧ s' = s.withStack (v :: s.stack)
  | .store slot => ∃ v rest, s.stack = v :: rest ∧ slot < s.locals.length ∧
      s' = { s with locals := s.locals.set slot v, stack := rest }
  | .pop => ∃ v rest, s.stack = v :: rest ∧ s' = s.withStack rest
  | .dup => ∃ v rest, s.stack = v :: rest ∧ s' = s.withStack (v :: v :: rest)
  | .dupX1 => ∃ v w rest, s.stack = v :: w :: rest ∧ s' = s.withStack (v :: w :: v :: rest)
  | .swap => ∃ v w rest, s.stack = v :: w :: rest ∧ s' = s.withStack (w :: v :: rest)
  | .getField field => ∃ object rest, s.stack = object :: rest ∧
      s' = s.withStack (s.heap (.field (some object) field) :: rest)
  | .getStatic field => s' = s.withStack (s.heap (.field none field) :: s.stack)
  | .arrayLoad => ∃ index array rest, s.stack = index :: array :: rest ∧
      s' = s.withStack (s.heap (.element array index) :: rest)
  | .putField field => ∃ v object rest, s.stack = v :: object :: rest ∧
      s' = (s.withStack rest).write (.field (some object) field) v
  | .putStatic field => ∃ v rest, s.stack = v :: rest ∧
      s' = (s.withStack rest).write (.field none field) v
  | .arrayStore => ∃ v index array rest, s.stack = v :: index :: array :: rest ∧
      s' = (s.withStack rest).write (.element array index) v
  | .invoke _ => ∃ effect pushed heap, op.effect = .ok effect ∧ effect.pops ≤ s.stack.length ∧
      pushed.length = effect.pushes ∧ s' = ⟨s.locals, pushed ++ s.stack.drop effect.pops, heap⟩
  | _ => ∃ effect pushed, op.effect = .ok effect ∧ effect.pops ≤ s.stack.length ∧
      pushed.length = effect.pushes ∧ s' = s.withStack (pushed ++ s.stack.drop effect.pops)

/-- The points that an activation comes to from a first state, each with its state there: `index`
instructions into a block. No exception is raised on the way. -/
inductive Run (g : FlowGraph) (first : State V) : g.Node → Nat → State V → Prop
  | entry : Run g first g.entry 0 first
  | step {b : g.Node} {index : Nat} {i : Instruction} {s s' : State V} :
      Run g first b index s → (g.instructions b)[index]? = some i → Exec i.op s s' →
      Run g first b (index + 1) s'
  | jump {e : g.Arc} {s : State V} :
      Run g first e.source (g.instructions e.source).length s → e ∈ g.edges →
      e.kind.isException = false → Run g first e.target 0 s

/-- A plain instruction takes its operands and leaves its results. -/
lemma Exec.of_isPlain {op : Opcode} {s s' : State V} (hplain : op.isPlain = true)
    (h : Exec op s s') : ∃ effect pushed, op.effect = .ok effect ∧ effect.pops ≤ s.stack.length ∧
      pushed.length = effect.pushes ∧ s' = s.withStack (pushed ++ s.stack.drop effect.pops) := by
  cases op with
  | nop | goto | «return» | checkCast =>
      obtain rfl : s' = s := h
      exact ⟨⟨0, 0⟩, [], rfl, Nat.zero_le _, rfl, rfl⟩
  | load | store | pop | dup | dupX1 | swap | getField | getStatic | arrayLoad | putField | putStatic
  | arrayStore | invoke => cases hplain
  | _ => exact h

/-- A plain instruction with one result. -/
lemma Exec.exists_result {op : Opcode} {s s' : State V} {count : Nat} (hplain : op.isPlain = true)
    (heffect : op.effect = .ok ⟨count, 1⟩) (h : Exec op s s') :
    count ≤ s.stack.length ∧ ∃ x, s' = s.withStack (x :: s.stack.drop count) := by
  obtain ⟨effect, pushed, heffect', hpops, hlen, rfl⟩ := h.of_isPlain hplain
  obtain rfl : ⟨count, 1⟩ = effect := Except.ok.inj (heffect.symm.trans heffect')
  obtain ⟨x, rfl⟩ := List.length_eq_one_iff.1 hlen
  exact ⟨hpops, x, rfl⟩

/-- An instruction that runs finds what it needs, and changes the depth of the stack by its
effect. -/
lemma Exec.fits {op : Opcode} {s s' : State V} (h : Exec op s s') :
    ∃ effect, op.Fits s.locals.length s.stack.length effect ∧
      s'.locals.length = s.locals.length ∧
      s'.stack.length + effect.pops = s.stack.length + effect.pushes := by
  have plain : ∀ {op : Opcode}, (∀ slot, op.slot? ≠ some slot) →
      (∃ effect pushed heap, op.effect = .ok effect ∧ effect.pops ≤ s.stack.length ∧
        pushed.length = effect.pushes ∧ s' = ⟨s.locals, pushed ++ s.stack.drop effect.pops, heap⟩) →
      ∃ effect, op.Fits s.locals.length s.stack.length effect ∧
        s'.locals.length = s.locals.length ∧
        s'.stack.length + effect.pops = s.stack.length + effect.pushes := by
    rintro op hslot ⟨effect, pushed, heap, heffect, hpops, hlen, rfl⟩
    refine ⟨effect, ⟨heffect, hpops, fun slot h => absurd h (hslot slot)⟩, rfl, ?_⟩
    simp only [List.length_append, List.length_drop]
    omega
  cases op with
  | nop | goto | «return» | checkCast =>
      obtain rfl : s' = s := h
      exact ⟨_, ⟨rfl, Nat.zero_le _, by simp [Opcode.slot?]⟩, rfl, rfl⟩
  | load slot =>
      obtain ⟨v, hv, rfl⟩ := h
      have hlt := (List.getElem?_eq_some_iff.1 hv).1
      exact ⟨_, ⟨rfl, Nat.zero_le _, by simp [Opcode.slot?, hlt]⟩, rfl, rfl⟩
  | store slot =>
      obtain ⟨v, rest, hs, hlt, rfl⟩ := h
      exact ⟨_, ⟨rfl, by simp [hs], by simp [Opcode.slot?, hlt]⟩, by simp, by simp [hs]⟩
  | pop | dup | getField | putStatic =>
      obtain ⟨v, rest, hs, rfl⟩ := h
      exact ⟨_, ⟨rfl, by simp [hs], by simp [Opcode.slot?]⟩, rfl,
        by simp [hs, State.withStack, State.write]⟩
  | dupX1 | swap | putField =>
      obtain ⟨v, w, rest, hs, rfl⟩ := h
      exact ⟨_, ⟨rfl, by simp [hs], by simp [Opcode.slot?]⟩, rfl,
        by simp [hs, State.withStack, State.write]⟩
  | getStatic field =>
      obtain rfl := h
      exact ⟨_, ⟨rfl, Nat.zero_le _, by simp [Opcode.slot?]⟩, rfl, rfl⟩
  | arrayLoad =>
      obtain ⟨index, array, rest, hs, rfl⟩ := h
      exact ⟨_, ⟨rfl, by simp [hs], by simp [Opcode.slot?]⟩, rfl, by simp [hs, State.withStack]⟩
  | arrayStore =>
      obtain ⟨v, index, array, rest, hs, rfl⟩ := h
      exact ⟨_, ⟨rfl, by simp [hs], by simp [Opcode.slot?]⟩, rfl,
        by simp [hs, State.withStack, State.write]⟩
  | invoke call => exact plain (by simp [Opcode.slot?]) h
  | _ =>
      obtain ⟨effect, pushed, heffect, hpops, hlen, hs⟩ := h
      exact plain (by simp [Opcode.slot?]) ⟨effect, pushed, s.heap, heffect, hpops, hlen, hs⟩

lemma Run.index_le {g : FlowGraph} {first s : State V} {b : g.Node} {index : Nat}
    (h : Run g first b index s) : index ≤ (g.instructions b).length := by
  cases h with
  | entry => exact Nat.zero_le _
  | step _ hi _ => exact (List.getElem?_eq_some_iff.1 hi).1
  | jump _ _ _ => exact Nat.zero_le _

end Machine

end Nullness
