import Mathlib.Tactic
import Nullness.Descriptor.Reader
import Nullness.Proofs.Alignment
import Nullness.Proofs.MergeLabels

/-!
# What a branch refines

A branch writes the value on one of its sides into the class of the value that it tests. The class
is read off the numbers at the target of the edge, where a slot may have got the label of a meeting.
Such a label belongs to one slot, so the cells that are written are those that had the tested number
in front of the branch, and no others.

* `holdsTested_iff`: the class at the target, if slots that are numbered alike there were numbered
  alike in front of the branch;
* `ValueNumbering.numbers_congr`: **slots that are numbered alike at the target of an edge are
  numbered alike at the end of its source**;
* `MethodAnalysis.refine_tested`: **a refinement writes the cells of the tested class, and nothing
  else.**
-/

namespace Nullness

/-! ### Writing a class -/

section

variable {before target : NumberedFrame} {tested : Nat}

/-- The slots of the class at the target are those that had the tested number, if slots that are
numbered alike there were so before. -/
lemma holdsTested_iff {live i : Nat} (hbefore : live ≤ before.numSlots)
    (hlive : target.numSlots = live)
    (hcongr : ∀ i < live, ∀ j < live, target.slot? i = target.slot? j →
      before.slot? i = before.slot? j) (hi : i < live) :
    holdsTested tested before target live i = true ↔ before.slot? i = some tested := by
  have hsome : (target.slot? i).isSome = true :=
    Option.isSome_iff_exists.2 (ValueFrame.exists_label (hlive.symm ▸ hi))
  simp only [holdsTested, List.any_eq_true, Bool.and_eq_true, decide_eq_true_eq, List.mem_range]
  constructor
  · rintro ⟨slot, hslot, ⟨hnumber, -⟩, hclass⟩
    rw [hcongr i hi slot (by omega) hclass, hnumber]
  · intro hnumber
    exact ⟨i, by omega, ⟨hnumber, hsome⟩, rfl⟩

/-- What is written along an edge: the cells of the class of the tested value. -/
lemma slots_replaceClass {f : NullFrame} {v : Nullity} (hvalid : f.valid = true)
    (hbefore : f.numSlots ≤ before.numSlots) (htarget : target.numSlots = f.numSlots)
    (hcongr : ∀ i < f.numSlots, ∀ j < f.numSlots, target.slot? i = target.slot? j →
      before.slot? i = before.slot? j) {slot : Nat} (hslot : slot < f.numSlots) :
    (replaceClass f tested (some before) (some target) v).slots[slot]?
      = if before.slot? slot = some tested then some v else f.slots[slot]? := by
  have hwritten : ∀ {f' : NullFrame}, f'.slots = f.slots → f'.numSlots = f.numSlots →
      (f'.mapSlots fun i old =>
          if holdsTested tested before target f'.numSlots i then v else old).slots[slot]?
        = if before.slot? slot = some tested then some v else f.slots[slot]? := by
    intro f' hslots hcount
    obtain ⟨old, hold⟩ : ∃ old, f.slots[slot]? = some old :=
      ⟨_, List.getElem?_eq_getElem (by rwa [Frame.length_slots])⟩
    rw [Frame.slots_mapSlots, List.getElem?_mapIdx, hslots, hcount, hold, Option.map_some]
    simp only [holdsTested_iff hbefore htarget hcongr hslot]
    split <;> rfl
  have hfits : (f.valid && decide (f.numSlots = target.numSlots)) = true := by
    simp [hvalid, htarget]
  simp only [replaceClass, hfits, if_true]
  -- what is known of a class is no cell
  cases (before.loadOf? tested).bind target.available? with
  | none => exact hwritten rfl rfl
  | some number => exact hwritten rfl rfl

end

/-! ### Numbers along an edge -/

namespace ValueNumbering

variable [DescriptorReader] {g : FlowGraph} {numLocals maxStack : Nat} {t : ValueTable g}
  {s : Solution g OriginFact Unit} {order : List ValueOrigin}

/-- Slots with one number have one label. -/
lemma Numbers.slots_congr (hn : Numbers t numLocals maxStack s order) {b : g.Node} {index : Nat}
    (hindex : index ≤ (g.instructions b).length) {f : ValueFrame ValueOrigin}
    (hf : At g numLocals maxStack s b index f) {i j : Nat} (hi : i < f.numSlots)
    (hij : (f.map (numberOf order)).slot? i = (f.map (numberOf order)).slot? j) :
    f.slots[i]? = f.slots[j]? := by
  obtain ⟨a, ha⟩ := ValueFrame.exists_label hi
  rw [ValueFrame.slot?, ValueFrame.slot?, ValueFrame.slots_map, List.getElem?_map,
    List.getElem?_map, ha, Option.map_some] at hij
  obtain ⟨a', ha', hnumber⟩ := Option.map_eq_some_iff.1 hij.symm
  have hmem := hn.mem_order hindex hf (ValueFrame.mem_labels_of_slot ha)
  rw [ha, ha', numberOf_injective hmem hnumber.symm]

/-- **Slots that are numbered alike at the target of an edge are numbered alike at the end of its
source.** -/
theorem numbers_congr (hn : Numbers t numLocals maxStack s order) {e : g.Arc} (he : e ∈ g.edges)
    (hkind : e.kind.isException = false) {f : ValueFrame ValueOrigin}
    (hf : At g numLocals maxStack s e.source (g.instructions e.source).length f) :
    ∃ target, t.startFact? e.target = some target ∧ target.numSlots = f.numSlots ∧
      ∀ i < f.numSlots, ∀ j < f.numSlots, target.slot? i = target.slot? j →
        f.slots[i]? = f.slots[j]? := by
  obtain ⟨-, n, harrives⟩ := arrives_of_frame hn.solve le_rfl hf
  obtain ⟨f₁, f', hf₁, hf', hjoined⟩ := at_jump hn.solve he ⟨hkind, harrives.reachable, f, hf⟩
  obtain rfl : f = f₁ := hf.unique hf₁
  have hcount : f'.numSlots = f.numSlots := by
    rw [ValueFrame.numSlots, ValueFrame.numSlots, hjoined.numLocals_eq, hjoined.depth_eq]
  refine ⟨f'.map (numberOf order), (hn.factAt?_eq_some_iff (Nat.zero_le _)).2 ⟨f', hf', rfl⟩,
    by rw [ValueFrame.numSlots_map, hcount], fun i hi j _ hij => ?_⟩
  have hpath := FlowGraph.Arrives.jump harrives he hkind
  exact hjoined.slots_congr (fun slot => not_stray_merge hn.solve hpath hf') (hcount.symm ▸ hi)
    (hn.slots_congr (Nat.zero_le _) hf' (hcount.symm ▸ hi) hij)

end ValueNumbering

/-! ### Decisions -/

namespace NullModel

open ValueNumbering

variable [DescriptorReader] {g : FlowGraph} {m : NullModel g} {entry : NullFrame} {b : g.Node}
  {d : BranchDecision Nullity} {f : NullFrame}

/-- A block that decides ends in a test, which takes its operands and leaves the slots below. -/
lemma decide_takes {i : Instruction} {last : Nat} (hlen : (g.instructions b).length = last + 1)
    (hi : (g.instructions b)[last]? = some i) {beforePenultimate : Option NullFrame}
    (hd : m.decide b f beforePenultimate = some d) {output : Nat → ValueOrigin}
    {v v' : ValueFrame ValueOrigin} (hstep : v.step output i.op = .ok v') :
    v'.numSlots ≤ v.numSlots ∧ ∀ slot < v'.numSlots, v'.slots[slot]? = v.slots[slot]? := by
  have taken : ∀ count, v' = v.plain output ⟨count, 0⟩ v.loads →
      v'.numSlots ≤ v.numSlots ∧ ∀ slot < v'.numSlots, v'.slots[slot]? = v.slots[slot]? := by
    rintro count rfl
    refine ⟨?_, fun slot hslot => getElem?_append_drop_reverse ?_⟩
    · simp [ValueFrame.numSlots, ValueFrame.numLocals, ValueFrame.depth, ValueFrame.plain]
    · simpa [ValueFrame.numSlots, ValueFrame.numLocals, ValueFrame.depth, ValueFrame.plain]
        using hslot
  have hop := mem_decidingOps hlen hi hd
  generalize i.op = op at hop hstep
  fin_cases hop
  all_goals
    cases ValueFrame.step_eq_ok_iff.1 hstep with
    | plain _ heffect =>
        cases heffect
        exact taken _ rfl

/-- A block that decides has a last instruction, in front of which its numbers are known. -/
lemma decision_made {s : Solution g NullFrame (BranchDecision Nullity)}
    (hsolve : (m.analysis entry).solve = .ok s) (hvalid : (s.resultFact b).valid = true)
    (hdecision : s.decision b = some d) :
    ∃ last f beforePenultimate, (g.instructions b).length = last + 1 ∧
      m.decide b f beforePenultimate = some d := by
  have hcons := FlowAnalysis.solve_consistent isTop_top hsolve
  have hthrough : s.table.get b = (m.analysis entry).through b (s.table.get b).start := hcons b
  rw [Solution.resultFact, hthrough] at hvalid
  rw [Solution.decision, hthrough] at hdecision
  cases hlen : (g.instructions b).length with
  | zero =>
      rw [FlowAnalysis.through, List.eq_nil_of_length_eq_zero hlen] at hdecision
      exact absurd ((ite_self none).symm.trans hdecision) (by simp)
  | succ last =>
      rw [FlowAnalysis.through_decision _ hlen (isTop_eq_false_iff.2 hvalid)] at hdecision
      exact ⟨last, _, _, rfl, hdecision⟩

omit [DescriptorReader] in
/-- The frame that an edge with a value carries. -/
lemma refine_eq {e : g.Arc} {v : Nullity} (hside : d.side? e.kind = some v) :
    (m.refine e d f).slots = (replaceClass f d.tested
        (m.numbers.factAt? e.source ((g.instructions e.source).length - 1))
        (m.numbers.startFact? e.target) v).slots ∧
      Refined (m.numbers.startFact? e.target) f (m.refine e d f) := by
  have hreplaced := refined_replaceClass f d.tested
    (m.numbers.factAt? e.source ((g.instructions e.source).length - 1))
    (m.numbers.startFact? e.target) v
  unfold refine
  simp only [BranchDecision.apply_eq hside]
  split
  · exact ⟨rfl, hreplaced⟩
  · exact ⟨rfl, hreplaced.of_kept (kept_clearKnown _)⟩

variable {s : Solution g NullFrame (BranchDecision Nullity)} {maxStack : Nat}
  {sv : Solution g OriginFact Unit} {order : List ValueOrigin}

/-- The cells that a refinement writes. -/
lemma slots_refine (hn : Numbers m.numbers entry.numLocals maxStack sv order)
    (hstack : entry.stack = []) (hsolve : (m.analysis entry).solve = .ok s) {e : g.Arc}
    (he : e ∈ g.edges) (hkind : e.kind.isException = false)
    (hvalid : (s.resultFact e.source).valid = true) (hdecision : s.decision e.source = some d)
    {v : Nullity} (hside : d.side? e.kind = some v) :
    ∃ before, m.numbers.factAt? e.source ((g.instructions e.source).length - 1) = some before ∧
      ∀ slot < (s.resultFact e.source).numSlots,
        (m.refine e d (s.resultFact e.source)).slots[slot]?
          = if before.slot? slot = some d.tested then some v
            else (s.resultFact e.source).slots[slot]? := by
  obtain ⟨last, f, beforePenultimate, hlen, hd⟩ := decision_made hsolve hvalid hdecision
  have hi := List.getElem?_eq_getElem (show last < (g.instructions e.source).length by omega)
  -- the numbers at the end of the source, and in front of the test
  have hresult : s.resultFact e.source
      = (m.analysis entry).factAt s e.source (g.instructions e.source).length :=
    (FlowAnalysis.solve_consistent isTop_top hsolve).result e.source
  obtain ⟨f₁, hf₁, hnum, hnum', hdepth⟩ :=
    frame_of_valid hn.solve hstack hsolve le_rfl (hresult ▸ hvalid)
  rw [← hresult] at hnum' hdepth
  obtain ⟨f₀, hf₀, hstep⟩ := of_at_succ hi (hlen ▸ hf₁)
  obtain ⟨hle, hkept⟩ := decide_takes hlen hi hd hstep
  obtain ⟨target, htarget, hcount, hcongr⟩ := numbers_congr hn he hkind hf₁
  have hlive : f₁.numSlots = (s.resultFact e.source).numSlots := by
    rw [Frame.numSlots, ValueFrame.numSlots, hnum, hnum', hdepth]
  rw [hlive] at hle hkept hcount hcongr
  have hbefore : m.numbers.factAt? e.source ((g.instructions e.source).length - 1)
      = some (f₀.map (numberOf order)) := by
    rw [hlen, Nat.add_sub_cancel]
    exact (hn.factAt?_eq_some_iff (by omega)).2 ⟨f₀, hf₀, rfl⟩
  refine ⟨f₀.map (numberOf order), hbefore, fun slot hslot => ?_⟩
  rw [(refine_eq hside).1, hbefore, htarget]
  refine slots_replaceClass hvalid ?_ hcount (fun i hi j hj hij => ?_) hslot
  · rwa [ValueFrame.numSlots_map]
  · rw [ValueFrame.slot?, ValueFrame.slot?, ValueFrame.slots_map, List.getElem?_map,
      List.getElem?_map, ← hkept i hi, ← hkept j hj, hcongr i hi j hj hij]

end NullModel

/-! ### Methods of a program -/

namespace MethodAnalysis

section

variable [DescriptorReader] {ctx : AnalysisContext} {c : ClassDecl} {method : Method}
  {a : MethodAnalysis}

/-- **A refinement writes the cells of the tested class, and nothing else.** Where a normal edge
leaves a block whose decision has a value for it, the cells whose number in front of the last
instruction is the tested one get that value. All others, the shape of the frame and its validity
stay as they were. -/
theorem refine_tested (h : ofMethod ctx c method = .ok a) {e : a.graph.Arc} (he : e ∈ a.graph.edges)
    (hkind : e.kind.isException = false) (hvalid : (a.solution.resultFact e.source).valid = true)
    {d : BranchDecision Nullity} (hdecision : a.solution.decision e.source = some d) {v : Nullity}
    (hside : d.side? e.kind = some v) :
    ∃ before, a.model.numbers.factAt? e.source ((a.graph.instructions e.source).length - 1)
        = some before ∧
      (a.model.refine e d (a.solution.resultFact e.source)).valid = true ∧
      (a.model.refine e d (a.solution.resultFact e.source)).numLocals
        = (a.solution.resultFact e.source).numLocals ∧
      (a.model.refine e d (a.solution.resultFact e.source)).depth
        = (a.solution.resultFact e.source).depth ∧
      ∀ slot < (a.solution.resultFact e.source).numSlots,
        (a.model.refine e d (a.solution.resultFact e.source)).slots[slot]?
          = if before.slot? slot = some d.tested then some v
            else (a.solution.resultFact e.source).slots[slot]? := by
  obtain ⟨-, -, hnumbers, hentry, hsolve⟩ := ofMethod_parts h
  obtain ⟨-, hnum, hstack, -, -⟩ := entryFrame_shape hentry
  rw [← hnum] at hnumbers
  obtain ⟨sv, order, hn⟩ := ValueNumbering.numbers_ofGraph hnumbers
  obtain ⟨before, hbefore, hslots⟩ :=
    NullModel.slots_refine hn hstack hsolve he hkind hvalid hdecision hside
  have hrefined := (NullModel.refine_eq (m := a.model)
    (f := a.solution.resultFact e.source) hside).2
  exact ⟨before, hbefore, hrefined.valid_eq.trans hvalid, hrefined.numLocals_eq,
    hrefined.depth_eq, hslots⟩

end

/-- Where the parameter is null the branch writes that into its variable. The other variable stays
as it was, although frames meet behind the branch. -/
theorem refine_tested_shortcut : ∃ (e : shortcutAnalysis.graph.Arc) (d : BranchDecision Nullity)
    (before : NumberedFrame) (result : NullFrame), e ∈ shortcutAnalysis.graph.edges ∧
      shortcutAnalysis.solution.decision e.source = some d ∧
      shortcutAnalysis.model.numbers.factAt? e.source 1 = some before ∧
      shortcutAnalysis.solution.resultFact e.source = result ∧
      (shortcutAnalysis.model.refine e d result).valid = true ∧
      ∀ slot < 2, (shortcutAnalysis.model.refine e d result).slots[slot]?
        = if before.slot? slot = some d.tested then some .definitelyNull
          else result.slots[slot]? := by
  let e : shortcutAnalysis.graph.Arc := ⟨⟨0, by decide +kernel⟩, ⟨2, by decide +kernel⟩, .branch⟩
  obtain ⟨d, hdecision, hside⟩ : ∃ d, shortcutAnalysis.solution.decision e.source = some d ∧
      d.side? e.kind = some .definitelyNull := Option.bind_eq_some_iff.1 (by decide +kernel)
  have he : e ∈ shortcutAnalysis.graph.edges := by decide +kernel
  obtain ⟨before, hbefore, hvalid, -, -, hslots⟩ :=
    refine_tested ofMethod_shortcut he rfl (by decide +kernel) hdecision hside
  have hlast : (shortcutAnalysis.graph.instructions e.source).length - 1 = 1 := by decide +kernel
  have hcount : (shortcutAnalysis.solution.resultFact e.source).numSlots = 2 := by decide +kernel
  rw [hlast] at hbefore
  rw [hcount] at hslots
  exact ⟨e, d, before, _, he, hdecision, hbefore, rfl, hvalid, hslots⟩

end MethodAnalysis

end Nullness
