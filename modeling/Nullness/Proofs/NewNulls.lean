import Mathlib.Tactic
import Nullness.Descriptor.Reader
import Nullness.Proofs.DescribedSteps
import Nullness.Proofs.StoredNull

/-!
# New null values

The slot of a null value is noted in the middle of an instruction, when the value is pushed. What the
instruction has dereferenced is tightened after that, and a call that asserts something frees the whole
frame from null values. The noted slot outlives both: only values that are undecided are tightened,
and a call never notes a slot, as no call returns a value that is definitely null.

* `Opcode.MakesValue`: an instruction leaves a value that was not there before;
* `NullModel.Reports`: a slot is noted just when the value on top has been made and is null;
* `MethodAnalysis.newNullSlot_exact`: **the slots of new null values are exact.**
-/

namespace Nullness

namespace Opcode

/-- Leaves values that were there before. -/
def isCopy : Opcode → Bool
  | .load _ | .dup | .dupX1 | .swap => true
  | _ => false

/-- Leaves at least one value, and is no copy. -/
def MakesValue [DescriptorReader] (op : Opcode) : Prop :=
  op.isCopy = false ∧ ∃ effect, op.effect = .ok effect ∧ 0 < effect.pushes

variable [DescriptorReader] {op : Opcode}

lemma MakesValue.of_effect {effect : StackEffect} (hcopy : op.isCopy = false)
    (heffect : op.effect = .ok effect) (hpushes : 0 < effect.pushes) : op.MakesValue :=
  ⟨hcopy, effect, heffect, hpushes⟩

lemma not_makesValue_of_isCopy (hcopy : op.isCopy = true) : ¬ op.MakesValue :=
  fun h => absurd (hcopy.symm.trans h.1) (by decide)

lemma not_makesValue_of_effect {pops : Nat} (heffect : op.effect = .ok ⟨pops, 0⟩) :
    ¬ op.MakesValue := by
  rintro ⟨-, effect, heffect', hpushes⟩
  obtain rfl : ⟨pops, 0⟩ = effect := Except.ok.inj (heffect.symm.trans heffect')
  exact hpushes.false

end Opcode

namespace Frame

variable {V : Type} {f : Frame V} {v : V}

/-- The value on top is the value of the last slot. -/
lemma value_of_topValue (h : f.topValue = .ok v) : f.value (f.numSlots - 1) = .ok v := by
  rw [topValue_eq_ok_iff] at h
  have hlast : f.slots[f.numSlots - 1]? = some v := by
    rw [← length_slots, ← List.getLast?_eq_getElem?, slots, List.getLast?_append,
      List.getLast?_reverse, List.head?_eq_getElem?, h, Option.some_or]
  rw [value, hlast]

end Frame

namespace NullModel

open Nullness.Frame

variable [DescriptorReader] {g : FlowGraph} {m : NullModel g} {b : g.Node} {index : Nat}
  {op : Opcode} {f : NullFrame} {v : Nullity} {out : Modeled}

/-- A slot is noted just when the value on top has been made and is null, and then it is the slot of
that value. -/
def Reports (op : Opcode) (out : Modeled) : Prop :=
  ∀ slot, out.newNull = some slot ↔ out.frame.valid = true ∧ op.MakesValue ∧
    out.frame.topValue = .ok .definitelyNull ∧ slot = out.frame.numSlots - 1

/-! ### What is noted -/

lemma reports_none (hnone : out.newNull = none)
    (hnull : out.frame.valid = true → op.MakesValue → out.frame.topValue ≠ .ok .definitelyNull) :
    Reports op out := by
  intro slot
  rw [hnone]
  constructor
  · rintro ⟨⟩
  · rintro ⟨hvalid, hmakes, htop, -⟩
    exact absurd htop (hnull hvalid hmakes)

lemma reports_produce (hmakes : op.MakesValue) (hvalid : f.valid = true)
    (h : m.produce b index f v = .ok out) : Reports op out := by
  obtain ⟨hkept, htop, hnew⟩ := produced h
  intro slot
  rw [hnew, htop, hkept]
  simp [hvalid, hmakes, Nullity.isDefinitelyNull, eq_comm]

/-- Operands are taken, and a value is produced. -/
lemma reports_popN_produce {count : Nat} (hmakes : op.MakesValue) (hvalid : f.valid = true)
    (h : (do m.produce b index (← f.popN count) v) = .ok out) : Reports op out := by
  obtain ⟨popped, hpop, h⟩ := bind_eq_ok_iff.1 h
  obtain ⟨-, rfl⟩ := popN_eq_ok_iff.1 hpop
  exact reports_produce (f := f.dropCells count) hmakes hvalid h

omit [DescriptorReader] in
/-- Nothing is claimed of the value on top. -/
lemma topValue_silent (h : (do return ⟨← f.push .nonNullSilent, none⟩) = Except.ok out) :
    out.newNull = none ∧ out.frame.topValue = .ok .nonNullSilent := by
  obtain ⟨pushed, hpush, h⟩ := bind_eq_ok_iff.1 h
  obtain ⟨-, rfl⟩ := push_eq_ok_iff.1 hpush
  obtain rfl := pure_eq_ok_iff.1 h
  exact ⟨rfl, rfl⟩

lemma reports_silent (h : (do return ⟨← f.push .nonNullSilent, none⟩) = Except.ok out) :
    Reports op out := by
  obtain ⟨hnone, htop⟩ := topValue_silent h
  refine reports_none hnone fun _ _ hnull => ?_
  rw [htop] at hnull
  cases hnull

/-- An instruction that makes no value notes nothing. -/
lemma reports_unremarkable {x : Except Error NullFrame} (hmakes : ¬ op.MakesValue)
    (h : unremarkable x = .ok out) : Reports op out := by
  obtain ⟨f', -, h⟩ := bind_eq_ok_iff.1 h
  obtain rfl := pure_eq_ok_iff.1 h
  exact reports_none rfl fun _ hop => absurd hop hmakes

/-- Nothing is claimed of the values that an instruction leaves. -/
lemma reports_applyEffect (h : unremarkable (applyEffect op f) = .ok out) : Reports op out := by
  obtain ⟨f', h', h⟩ := bind_eq_ok_iff.1 h
  obtain rfl := pure_eq_ok_iff.1 h
  obtain ⟨effect, heffect, h'⟩ := bind_eq_ok_iff.1 h'
  obtain ⟨popped, -, h'⟩ := bind_eq_ok_iff.1 h'
  obtain ⟨-, rfl⟩ := pushN_eq_ok_iff.1 h'
  refine reports_none rfl ?_
  rintro - ⟨-, effect', heffect', hpushes⟩ hnull
  obtain rfl : effect = effect' := Except.ok.inj (heffect.symm.trans heffect')
  obtain ⟨count, hcount⟩ := Nat.exists_eq_succ_of_ne_zero hpushes.ne'
  rw [topValue_eq_ok_iff, hcount] at hnull
  cases hnull

lemma reports_loadField {isStatic : Bool} {field : FieldRef} (hmakes : op.MakesValue)
    (hvalid : f.valid = true) (h : m.loadField b index isStatic field f = .ok out) :
    Reports op out := by
  obtain ⟨popped, hpop, ⟨v, h, -⟩ | ⟨-, h⟩⟩ := loadField_cases h
  · exact reports_popN_produce hmakes hvalid (bind_eq_ok_iff.2 ⟨popped, hpop, h⟩)
  · exact reports_silent h

/-! ### Calls -/

omit [DescriptorReader] in
/-- No call returns a value that is definitely null. -/
lemma returnValue_ne_null (m : NullModel g) (b : g.Node) (call : CallSite)
    (targets : List MethodId) : m.returnValue b call targets ≠ .definitelyNull := by
  intro hnull
  have hcases := returnValue_cases m b call targets
  rw [hnull] at hcases
  exact absurd hcases (by decide)

/-- A call notes nothing, and leaves no null value of its own. -/
lemma newNull_invoke {call : CallSite} (h : m.invoke b index call f = .ok out) :
    out.newNull = none ∧ (out.frame.valid = true → (Opcode.invoke call).MakesValue →
      out.frame.topValue ≠ .ok .definitelyNull) := by
  rcases invoke_eq_ok_iff.1 h with ⟨-, rfl⟩ | ⟨f₁, f₂, -, -, h⟩
  · exact ⟨rfl, fun hvalid => absurd hvalid Bool.false_ne_true⟩
  obtain ⟨consumed, hconsumed, h⟩ := bind_eq_ok_iff.1 h
  obtain ⟨popped, -, h⟩ := bind_eq_ok_iff.1 h
  obtain ⟨kind, hkind, h⟩ := bind_eq_ok_iff.1 h
  cases kind with
  | reference =>
      have hne := returnValue_ne_null m b call (m.hierarchy.targets call)
      obtain ⟨-, htop, hnew⟩ := produced h
      refine ⟨?_, fun _ _ hnull => hne (Except.ok.inj (htop.symm.trans hnull))⟩
      rw [hnew, Nullity.isDefinitelyNull, decide_eq_false hne, if_neg Bool.false_ne_true]
  | primitive =>
      obtain ⟨hnone, htop⟩ := topValue_silent h
      refine ⟨hnone, fun _ _ hnull => ?_⟩
      rw [htop] at hnull
      cases hnull
  | void =>
      obtain rfl := Except.ok.inj h
      obtain ⟨d, hd, -⟩ := CallSite.consumed_eq_ok_iff.1 hconsumed
      have heffect := Opcode.effect_invoke hd
      have hvoid : d.returnKind = .void :=
        Except.ok.inj ((CallSite.returnKind_eq hd).symm.trans hkind)
      rw [if_pos hvoid] at heffect
      exact ⟨rfl, fun _ hmakes => absurd hmakes (Opcode.not_makesValue_of_effect heffect)⟩

/-! ### Whole instructions -/

/-- What is noted before it is known that the instruction has completed. -/
lemma reports_applyOp (hvalid : f.valid = true) (h : m.applyOp b index op f = .ok out) :
    Reports op out := by
  have makes : ∀ {pops : Nat}, op.isCopy = false → op.effect = .ok ⟨pops, 1⟩ → op.MakesValue :=
    fun hcopy heffect => .of_effect hcopy heffect Nat.one_pos
  cases op with
  | nop | goto | «return» | checkCast =>
      obtain rfl := Except.ok.inj h
      exact reports_none rfl fun _ hop => absurd hop (Opcode.not_makesValue_of_effect rfl)
  | constNull | constReference | new => exact reports_produce (makes rfl rfl) hvalid h
  | newArray | multiNewArray => exact reports_popN_produce (makes rfl rfl) hvalid h
  | load | dup | dupX1 | swap =>
      exact reports_unremarkable (Opcode.not_makesValue_of_isCopy rfl) h
  | store | pop | putField | putStatic | arrayStore =>
      exact reports_unremarkable (Opcode.not_makesValue_of_effect rfl) h
  | getField | getStatic => exact reports_loadField (makes rfl rfl) hvalid h
  | invoke call =>
      obtain ⟨hnone, hnull⟩ := newNull_invoke h
      exact reports_none hnone hnull
  | arrayLoad =>
      simp only [applyOp] at h
      split at h
      · exact reports_popN_produce (makes rfl rfl) hvalid h
      · exact reports_applyEffect h
  | _ => exact reports_applyEffect h

/-- Tightening leaves what is noted as it is. -/
lemma Reports.tightened {out' : Modeled} (h : Reports op out)
    (htightened : Tightened out.frame out'.frame) (hnew : out'.newNull = out.newNull) :
    Reports op out' := by
  have hkept := htightened.kept
  have hslots : out'.frame.numSlots = out.frame.numSlots := by
    rw [numSlots, numSlots, hkept.numLocals_eq, hkept.depth_eq]
  intro slot
  rw [hkept.valid_eq, htightened.topValue, hslots, hnew]
  exact h slot

omit [DescriptorReader] in
/-- An assertion makes no null value. -/
lemma topValue_afterAssertion (h : (m.afterAssertion op f).topValue = .ok .definitelyNull) :
    f.topValue = .ok .definitelyNull := by
  have suppressed : ∀ v : Nullity, suppressNull v ≠ .definitelyNull := by
    intro v
    cases v <;> decide
  by_cases hcall : ∃ call, op = .invoke call
  · obtain ⟨call, rfl⟩ := hcall
    rw [afterAssertion] at h
    split at h
    · rw [topValue_eq_ok_iff] at h
      cases hs : f.stack with
      | nil => simp [mapKnown, mapSlots, hs] at h
      | cons v rest =>
          simp only [mapKnown, mapSlots, hs, List.reverse_cons, List.mapIdx_append] at h
          exact absurd (by simpa using h) (suppressed v)
    · exact h
  · rwa [afterAssertion_eq fun call hop => hcall ⟨call, hop⟩] at h

/-- What is noted is true of the frame after the instruction. -/
lemma reports_apply (h : m.apply b index op f = .ok out) : Reports op out := by
  cases hvalid : f.valid with
  | false =>
      obtain rfl : ⟨f, none⟩ = out := by simpa [apply, hvalid] using h
      exact reports_none rfl fun hvalid' => absurd (hvalid.symm.trans hvalid') Bool.false_ne_true
  | true =>
      by_cases hcall : ∃ call, op = .invoke call
      · obtain ⟨call, rfl⟩ := hcall
        obtain ⟨out₀, h₀, rfl⟩ := (apply_eq_ok_iff hvalid).1 h
        obtain ⟨hnone, hnull⟩ := newNull_invoke h₀
        refine reports_none hnone ?_
        simp only
        split
        · rename_i hvalid₀
          intro _ hmakes htop
          exact hnull hvalid₀ hmakes
            ((tightened_afterDereference _ _).topValue.1 (topValue_afterAssertion htop))
        · exact hnull
      · obtain ⟨out₀, h₀, htightened, hnew⟩ :=
          apply_eq_ok (fun call hop => hcall ⟨call, hop⟩) hvalid h
        exact (reports_applyOp hvalid h₀).tightened htightened hnew

end NullModel

/-! ### Methods of a program -/

namespace MethodAnalysis

open NullModel

section

variable [DescriptorReader] (a : MethodAnalysis) {b : a.graph.Node} {index : Nat} {i : Instruction}
  (hi : (a.graph.instructions b)[index]? = some i)

include hi

lemma factAfter_of_apply {out : Modeled}
    (h : a.model.apply b index i.op (a.factAt b index) = .ok out) :
    a.factAfter b index = out.frame := by
  cases hvalid : (a.factAt b index).valid with
  | true => exact within_succ hi hvalid ⟨out.newNull, h⟩
  | false =>
      have hsame : ⟨a.factAt b index, none⟩ = out := by simpa [apply, hvalid] using h
      rw [← hsame]
      exact FlowAnalysis.within_eq_of_isTop _ (congrArg (! ·) hvalid) (Nat.le_succ index)

lemma valid_factAfter_of_error {e : Error}
    (h : a.model.apply b index i.op (a.factAt b index) = .error e) :
    (a.factAfter b index).valid = false := by
  by_contra hvalid
  obtain ⟨-, slot, hout⟩ := of_within_succ hi (Bool.eq_true_of_not_eq_false hvalid)
  cases h.symm.trans hout

lemma newNullSlot?_of_apply {out : Modeled}
    (h : a.model.apply b index i.op (a.factAt b index) = .ok out) :
    a.newNullSlot? b index = out.newNull := by
  rw [newNullSlot?, hi, Option.bind_some, h]
  rfl

lemma newNullSlot?_eq_some_iff {slot : Nat} : a.newNullSlot? b index = some slot ↔
    (a.factAfter b index).valid = true ∧ i.op.MakesValue ∧
      (a.factAfter b index).topValue = .ok .definitelyNull ∧
      slot = (a.factAfter b index).numSlots - 1 := by
  cases hout : a.model.apply b index i.op (a.factAt b index) with
  | ok out =>
      rw [newNullSlot?_of_apply a hi hout, factAfter_of_apply a hi hout]
      exact reports_apply hout slot
  | error e =>
      rw [newNullSlot?, hi, Option.bind_some, hout, valid_factAfter_of_error a hi hout]
      simp [Except.toOption]

/-- **The slots of new null values are exact.** A slot is reported for an instruction just when the
frame after it is valid, the instruction leaves a value and is no copy, and the value on top is null
for certain; it is the slot of that value then. What is noted in the middle of the instruction is
reported, and neither what it dereferences nor what it asserts has made the slot stale. -/
theorem newNullSlot_exact :
    (∀ slot, a.newNullSlot? b index = some slot ↔ (a.factAfter b index).valid = true ∧
      i.op.MakesValue ∧ (a.factAfter b index).topValue = .ok .definitelyNull ∧
      slot = (a.factAfter b index).numSlots - 1) ∧
    (∀ slot, a.newNullSlot? b index = some slot →
      (a.factAfter b index).value slot = .ok .definitelyNull) ∧
    ∀ noted slot, (a.factAt b index).valid = true →
      a.model.applyOp b index i.op (a.factAt b index) = .ok noted → noted.newNull = some slot →
      noted.frame.value slot = .ok .definitelyNull ∧ a.newNullSlot? b index = some slot ∧
        (a.factAfter b index).value slot = .ok .definitelyNull := by
  have htop : ∀ slot, a.newNullSlot? b index = some slot →
      (a.factAfter b index).value slot = .ok .definitelyNull := by
    intro slot hslot
    obtain ⟨-, -, hnull, rfl⟩ := (newNullSlot?_eq_some_iff a hi).1 hslot
    exact Frame.value_of_topValue hnull
  refine ⟨fun slot => newNullSlot?_eq_some_iff a hi, htop, fun noted slot hvalid hnoted hslot => ?_⟩
  have happly := newNullSlot?_of_apply a hi ((apply_eq_ok_iff hvalid).2 ⟨noted, hnoted, rfl⟩)
  obtain ⟨-, -, hnull, rfl⟩ := (reports_applyOp hvalid hnoted slot).1 hslot
  exact ⟨Frame.value_of_topValue hnull, happly.trans hslot, htop _ (happly.trans hslot)⟩

end

/-- The null that is read back from the field lies above the local variable. -/
theorem newNullSlot_exact_clearing :
    (clearingAnalysis.graph.instructions clearingAnalysis.graph.entry)[4]?
      = some ⟨4, .getField ⟨"A", "f", "LA;"⟩⟩ ∧
    clearingAnalysis.newNullSlot? clearingAnalysis.graph.entry 4 = some 1 ∧
    (clearingAnalysis.factAfter clearingAnalysis.graph.entry 4).value 1 = .ok .definitelyNull := by
  have hread : (clearingAnalysis.graph.instructions clearingAnalysis.graph.entry)[4]?
      = some ⟨4, .getField ⟨"A", "f", "LA;"⟩⟩ := by decide +kernel
  obtain ⟨hexact, hnull, -⟩ := newNullSlot_exact clearingAnalysis hread
  have hslot := (hexact 1).2 ⟨by decide +kernel, .of_effect rfl rfl Nat.one_pos, by decide +kernel,
    by decide +kernel⟩
  exact ⟨hread, hslot, hnull 1 hslot⟩

end MethodAnalysis

end Nullness
