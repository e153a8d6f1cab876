import Mathlib.Tactic
import Nullness.Descriptor.Reader
import Nullness.Proofs.DefiniteValues
import Nullness.Proofs.FrameDepths

/-!
# Nullness frames and numbered frames side by side

Nullness frames and value numbers come from two iterations of their own. Both frames are as deep as
the paths to a point make them, and paths that disagree are refused, so where there is a nullness
frame there is a numbered frame of the same shape. A slot, and a cell counted from the top of the
stack, is then the same cell in both.

* `Aligned`: a nullness frame and a numbered frame of one shape;
* `NullModel.frame_of_valid`: where a nullness frame is valid, value numbering has a frame of its
  shape;
* `MethodAnalysis.frames_aligned`: **both frames of a point have one shape, and an instruction
  changes both depths by its stack effect.**
-/

namespace Nullness

/-! ### Frames of one shape -/

/-- A nullness frame and a numbered frame that lay out the same cells. -/
structure Aligned (f : NullFrame) (numbers : NumberedFrame) : Prop where
  numLocals_eq : numbers.numLocals = f.numLocals
  depth_eq : numbers.depth = f.depth

/-- Of locals followed by a stack from its bottom, the cells of the stack lie at the end. -/
lemma getElem?_append_reverse {α : Type} (locals stack : List α) {fromTop : Nat}
    (h : fromTop < stack.length) :
    (locals ++ stack.reverse)[locals.length + stack.length - 1 - fromTop]? = stack[fromTop]? := by
  rw [List.getElem?_append_right (by omega), List.getElem?_reverse (by omega)]
  congr 1
  omega

namespace Aligned

variable {f : NullFrame} {numbers : NumberedFrame}

lemma numSlots_eq (h : Aligned f numbers) : numbers.numSlots = f.numSlots := by
  rw [ValueFrame.numSlots, Frame.numSlots, h.numLocals_eq, h.depth_eq]

/-- A cell counted from the top of the stack has one slot in both frames. -/
lemma exists_slot (h : Aligned f numbers) {fromTop : Nat} (hdepth : fromTop < f.depth) :
    ∃ slot, f.numLocals ≤ slot ∧ slot < f.numSlots ∧
      f.slots[slot]? = f.stack[fromTop]? ∧ numbers.slot? slot = numbers.stackValue? fromTop := by
  have hnumSlots : numbers.numLocals + numbers.depth = f.numSlots := h.numSlots_eq
  have hdepth' : fromTop < numbers.depth := h.depth_eq.symm ▸ hdepth
  refine ⟨f.numSlots - 1 - fromTop, ?_, ?_, getElem?_append_reverse f.locals f.stack hdepth, ?_⟩
  · rw [Frame.numSlots]
    omega
  · rw [Frame.numSlots]
    omega
  · rw [ValueFrame.slot?, ← hnumSlots]
    exact getElem?_append_reverse numbers.locals numbers.stack hdepth'

end Aligned

/-! ### Two iterations over one body -/

namespace NullModel

open ValueNumbering

variable [DescriptorReader] {g : FlowGraph} {m : NullModel g} {entry : NullFrame} {maxStack : Nat}
  {sv : Solution g OriginFact Unit} {order : List ValueOrigin}
  {s : Solution g NullFrame (BranchDecision Nullity)} {b : g.Node} {index : Nat}

/-- **Where a nullness frame is valid, value numbering has a frame of its shape.** -/
theorem frame_of_valid
    (hnumbering : (ValueNumbering.analysis g entry.numLocals maxStack).solve = .ok sv)
    (hstack : entry.stack = []) (hsolve : (m.analysis entry).solve = .ok s)
    (hindex : index ≤ (g.instructions b).length)
    (hvalid : ((m.analysis entry).factAt s b index).valid = true) :
    ∃ f, At g entry.numLocals maxStack sv b index f ∧ f.numLocals = entry.numLocals ∧
      ((m.analysis entry).factAt s b index).numLocals = entry.numLocals ∧
      f.depth = ((m.analysis entry).factAt s b index).depth := by
  rw [FlowAnalysis.factAt_eq_within] at hvalid ⊢
  -- the path that makes the nullness frame so deep brings a numbered frame as well
  obtain ⟨hshape, n, harrives⟩ := FlowAnalysis.solve_live (pointInvariant_arrivedFrame hstack)
    isTop_top hsolve b index hindex (isTop_eq_false_iff.2 hvalid)
  obtain ⟨f, hf, hnum, hdepth⟩ := frame_of_arrives hnumbering harrives
  exact ⟨f, hf, hnum, hshape.1, hdepth⟩

/-- The frames of a point are aligned. -/
lemma aligned (hn : Numbers m.numbers entry.numLocals maxStack sv order) (hstack : entry.stack = [])
    (hsolve : (m.analysis entry).solve = .ok s) (hindex : index ≤ (g.instructions b).length)
    (hvalid : ((m.analysis entry).factAt s b index).valid = true) :
    ∃ numbers, m.numbers.factAt? b index = some numbers ∧ numbers.numLocals = entry.numLocals ∧
      Aligned ((m.analysis entry).factAt s b index) numbers := by
  obtain ⟨f, hf, hnum, hnum', hdepth⟩ := frame_of_valid hn.solve hstack hsolve hindex hvalid
  exact ⟨f.map (numberOf order), (hn.factAt?_eq_some_iff hindex).2 ⟨f, hf, rfl⟩,
    by rw [ValueFrame.numLocals_map, hnum], by rw [ValueFrame.numLocals_map, hnum, hnum'],
    by rw [ValueFrame.depth_map, hdepth]⟩

/-- An instruction that leaves the frame valid changes its depth by its stack effect. -/
lemma depth_succ {i : Instruction} (hi : (g.instructions b)[index]? = some i)
    (hvalid : ((m.analysis entry).factAt s b (index + 1)).valid = true) :
    ∃ effect, i.op.effect = .ok effect ∧ effect.pops ≤ ((m.analysis entry).factAt s b index).depth ∧
      ((m.analysis entry).factAt s b (index + 1)).depth
        = ((m.analysis entry).factAt s b index).depth - effect.pops + effect.pushes := by
  rw [FlowAnalysis.factAt_eq_within] at hvalid ⊢
  rw [FlowAnalysis.factAt_eq_within]
  obtain ⟨hbefore, hyields⟩ := of_within_succ hi hvalid
  obtain ⟨effect, hfits, hdepth⟩ := apply_fits hbefore hyields hvalid
  exact ⟨effect, hfits.effect_eq, hfits.pops_le, hdepth⟩

end NullModel

/-! ### Methods of a program -/

namespace MethodAnalysis

section

variable [DescriptorReader] {ctx : AnalysisContext} {c : ClassDecl} {method : Method}
  {a : MethodAnalysis}

/-- **Nullness frames and numbered frames stay aligned.** At every point of a method where the
nullness frame is valid there is a numbered frame, which has the locals of the method, as many slots
as the nullness frame, and the same slot for each cell counted from the top of the stack. An
instruction that leaves the nullness frame valid changes the depths of both frames by its stack
effect. -/
theorem frames_aligned (h : ofMethod ctx c method = .ok a) {b : a.graph.Node} {index : Nat}
    (hindex : index ≤ (a.graph.instructions b).length)
    (hvalid : (a.factAt b index).valid = true) :
    ∃ numbers, a.model.numbers.factAt? b index = some numbers ∧
      numbers.numLocals = method.maxLocals ∧ (a.factAt b index).numLocals = method.maxLocals ∧
      numbers.numSlots = (a.factAt b index).numSlots ∧
      (∀ fromTop < (a.factAt b index).depth, ∃ slot < (a.factAt b index).numSlots,
        method.maxLocals ≤ slot ∧
          (a.factAt b index).slots[slot]? = (a.factAt b index).stack[fromTop]? ∧
          numbers.slot? slot = numbers.stackValue? fromTop) ∧
      ∀ i, (a.graph.instructions b)[index]? = some i → (a.factAfter b index).valid = true →
        ∃ numbers' effect, a.model.numbers.factAfter? b index = some numbers' ∧
          i.op.effect = .ok effect ∧
          effect.pops ≤ numbers.depth ∧
          numbers'.depth = numbers.depth - effect.pops + effect.pushes ∧
          effect.pops ≤ (a.factAt b index).depth ∧
          (a.factAfter b index).depth
            = (a.factAt b index).depth - effect.pops + effect.pushes := by
  obtain ⟨-, -, hnumbers, hentry, hsolve⟩ := ofMethod_parts h
  obtain ⟨-, hnum, hstack, -, -⟩ := entryFrame_shape hentry
  rw [← hnum] at hnumbers
  obtain ⟨sv, order, hn⟩ := ValueNumbering.numbers_ofGraph hnumbers
  obtain ⟨numbers, hat, hlocals, haligned⟩ := NullModel.aligned hn hstack hsolve hindex hvalid
  refine ⟨numbers, hat, hlocals.trans hnum, haligned.numLocals_eq.symm.trans (hlocals.trans hnum),
    haligned.numSlots_eq, fun fromTop hfromTop => ?_, fun i hi hafter => ?_⟩
  · obtain ⟨slot, hle, hlt, hcells⟩ := haligned.exists_slot hfromTop
    rw [← haligned.numLocals_eq, hlocals, hnum] at hle
    exact ⟨slot, hlt, hle, hcells⟩
  · have hlt : index < (a.graph.instructions b).length := (List.getElem?_eq_some_iff.1 hi).1
    obtain ⟨numbers', hat', -, haligned'⟩ := NullModel.aligned hn hstack hsolve hlt hafter
    obtain ⟨effect, heffect, hpops, hdepth⟩ := NullModel.depth_succ (m := a.model) hi hafter
    refine ⟨numbers', effect, hat', heffect, haligned.depth_eq ▸ hpops, ?_, hpops, hdepth⟩
    exact haligned'.depth_eq.trans (haligned.depth_eq.symm ▸ hdepth)

end

/-- In front of the null test the tested reference lies on both stacks, and behind it on neither. -/
theorem frames_aligned_shortcut :
    ∃ (b : shortcutAnalysis.graph.Node) (numbers numbers' : NumberedFrame),
      (shortcutAnalysis.factAt b 1).slots = [.nonNullSilent, .top, .nonNullSilent] ∧
      shortcutAnalysis.model.numbers.factAt? b 1 = some numbers ∧ numbers.numSlots = 3 ∧
      (shortcutAnalysis.factAfter b 1).slots = [.nonNullSilent, .top] ∧
      shortcutAnalysis.model.numbers.factAfter? b 1 = some numbers' ∧
      numbers'.depth = numbers.depth - 1 := by
  let b : shortcutAnalysis.graph.Node := ⟨0, by decide +kernel⟩
  obtain ⟨numbers, hat, -, -, hnumSlots, -, hstep⟩ :=
    @frames_aligned _ _ _ _ _ ofMethod_shortcut b 1 (by decide +kernel) (by decide +kernel)
  obtain ⟨numbers', effect, hafter, heffect, -, hdepth, -⟩ :=
    hstep ⟨1, .ifNull⟩ (by decide +kernel) (by decide +kernel)
  obtain rfl : effect = ⟨1, 0⟩ := (Except.ok.inj heffect).symm
  exact ⟨b, numbers, numbers', by decide +kernel, hat, hnumSlots.trans (by decide +kernel),
    by decide +kernel, hafter, hdepth⟩

end MethodAnalysis

end Nullness
