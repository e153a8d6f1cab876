import Mathlib.Tactic
import Nullness.Proofs.Solution
import Nullness.Proofs.Transfer

/-!
# Facts of the nullness analysis

The nullness analysis of a body as an instance of the forward dataflow: its steps, and what holds of
its facts at every point.

* `NullModel.pointInvariant_shaped`: every valid frame has the shape of the frame on entry;
* `NullModel.joinBound_below`: the frame at the start of a block lies above all that is carried there;
* `NullModel.refined_carried`: what a normal edge carries has the shape of the frame at the end of its
  source, and knows one class more at most;
* `MethodAnalysis.ofMethod_eq_ok_iff`: what the analysis of a method is put together from.
-/

namespace Nullness

namespace NullModel

open Nullness.Frame

variable {g : FlowGraph} {m : NullModel g} {entry : NullFrame}

/-! ### The analysis -/

lemma isTop_eq_false_iff [DescriptorReader] {f : NullFrame} :
    (m.analysis entry).isTop f = false ↔ f.valid = true := by
  simp [analysis]

lemma isTop_top [DescriptorReader] : (m.analysis entry).isTop (m.analysis entry).top = true := rfl

lemma step_eq_ok_iff [DescriptorReader] {b : g.Node} {index : Nat} {i : Instruction}
    {f f' : NullFrame} :
    (m.analysis entry).step b index i f = .ok f' ↔ Yields (m.apply b index i.op f) f' := by
  simp only [analysis, bind_eq_ok_iff, pure_eq_ok_iff, Yields]
  constructor
  · rintro ⟨⟨f', slot⟩, h, rfl⟩
    exact ⟨slot, h⟩
  · rintro ⟨slot, h⟩
    exact ⟨⟨f', slot⟩, h, rfl⟩

variable {b : g.Node} {index : Nat} {i : Instruction} {start f' : NullFrame}

/-- One instruction further, by its effect. -/
lemma within_succ [DescriptorReader] (hi : (g.instructions b)[index]? = some i)
    (hvalid : ((m.analysis entry).within b start index).valid = true)
    (h : Yields (m.apply b index i.op ((m.analysis entry).within b start index)) f') :
    (m.analysis entry).within b start (index + 1) = f' :=
  FlowAnalysis.within_succ_of_step _ hi (isTop_eq_false_iff.2 hvalid) (step_eq_ok_iff.2 h)

/-- A valid frame after an instruction comes from the valid frame before it. -/
lemma of_within_succ [DescriptorReader] (hi : (g.instructions b)[index]? = some i)
    (hvalid : ((m.analysis entry).within b start (index + 1)).valid = true) :
    ((m.analysis entry).within b start index).valid = true ∧
      Yields (m.apply b index i.op ((m.analysis entry).within b start index))
        ((m.analysis entry).within b start (index + 1)) := by
  rw [FlowAnalysis.within_succ _ hi] at hvalid ⊢
  cases htop : (m.analysis entry).isTop ((m.analysis entry).within b start index) with
  | true =>
      rw [htop, if_pos rfl] at hvalid
      exact absurd (htop.symm.trans (isTop_eq_false_iff.2 hvalid)) (by decide)
  | false =>
      refine ⟨isTop_eq_false_iff.1 htop, ?_⟩
      rw [htop, if_neg (by decide)] at hvalid
      rw [if_neg (by decide)]
      unfold FlowAnalysis.advance at hvalid ⊢
      cases hstep : (m.analysis entry).step b index i
          ((m.analysis entry).within b start index) with
      | error e =>
          rw [hstep] at hvalid
          exact absurd hvalid Bool.false_ne_true
      | ok f' => exact step_eq_ok_iff.1 hstep

/-! ### Along edges -/

/-- A refined frame has the shape of the frame that is refined, and beside the classes that this one
knows it may know one under which a load is available at the target. -/
structure Refined (target : Option NumberedFrame) (f f' : NullFrame) : Prop where
  valid_eq : f'.valid = f.valid
  numLocals_eq : f'.numLocals = f.numLocals
  depth_eq : f'.depth = f.depth
  maxStack_eq : f'.maxStack = f.maxStack
  known : ∀ n, f'.Knows n →
    f.Knows n ∨ ∃ numbers l, target = some numbers ∧ numbers.available? l = some n

lemma Refined.refl (target : Option NumberedFrame) (f : NullFrame) : Refined target f f :=
  ⟨rfl, rfl, rfl, rfl, fun _ h => .inl h⟩

lemma Refined.of_kept {target : Option NumberedFrame} {f f' f'' : NullFrame}
    (h : Refined target f f') (h' : Kept f' f'') : Refined target f f'' where
  valid_eq := h'.valid_eq.trans h.valid_eq
  numLocals_eq := h'.numLocals_eq.trans h.numLocals_eq
  depth_eq := h'.depth_eq.trans h.depth_eq
  maxStack_eq := h'.maxStack_eq.trans h.maxStack_eq
  known n hn := h.known n (h'.known n hn)

lemma refined_replaceClass (f : NullFrame) (tested : Nat) (before target : Option NumberedFrame)
    (v : Nullity) : Refined target f (replaceClass f tested before target v) := by
  unfold replaceClass
  split
  swap
  · exact .refl _ f
  split
  swap
  · exact .refl _ f
  rename_i before target _
  refine Refined.of_kept ?_ (kept_mapSlots _ _)
  split
  · exact .refl _ f
  · rename_i number hnumber
    obtain ⟨l, -, hl⟩ := Option.bind_eq_some_iff.1 hnumber
    refine ⟨rfl, rfl, rfl, rfl, fun n hn => ?_⟩
    rcases knows_setKnown.1 hn with rfl | hn
    · exact .inr ⟨target, l, rfl, hl⟩
    · exact .inl hn

variable {e : g.Arc} {d : BranchDecision Nullity} {f : NullFrame}

lemma kept_clearKnown (f : NullFrame) : Kept f f.clearKnown :=
  ⟨rfl, rfl, rfl, rfl, fun _ h => by cases h⟩

lemma refined_apply {kind : EdgeKind} {before target : Option NumberedFrame}
    (hvalid : (d.apply kind before target f).valid = true) :
    Refined target f (d.apply kind before target f) := by
  unfold BranchDecision.apply at hvalid ⊢
  cases kind with
  | branch =>
      cases hv : d.taken with
      | none =>
          rw [hv] at hvalid
          exact absurd hvalid Bool.false_ne_true
      | some v => exact refined_replaceClass f d.tested before target v
  | fallThrough =>
      cases hv : d.fallThrough with
      | none =>
          rw [hv] at hvalid
          exact absurd hvalid Bool.false_ne_true
      | some v => exact refined_replaceClass f d.tested before target v
  | handledException | unhandledException => exact .refl target f

lemma refined_refine (hvalid : (m.refine e d f).valid = true) :
    Refined (m.numbers.startFact? e.target) f (m.refine e d f) := by
  unfold refine at hvalid ⊢
  simp only at hvalid ⊢
  split
  · rename_i htrack
    rw [if_pos htrack] at hvalid
    exact refined_apply hvalid
  · rename_i htrack
    rw [if_neg htrack] at hvalid
    exact (refined_apply hvalid).of_kept (kept_clearKnown _)

/-- What a normal edge carries is the frame at the end of its source, refined. -/
lemma refined_carried [DescriptorReader] {t : FactTable g NullFrame (BranchDecision Nullity)}
    (h : (m.analysis entry).carried? e (t.get e.source) = some f) :
    (t.get e.source).result.valid = true ∧
      Refined (m.numbers.startFact? e.target) (t.get e.source).result f := by
  unfold FlowAnalysis.carried? at h
  split at h
  · cases h
  rename_i htop
  refine ⟨isTop_eq_false_iff.1 (Bool.eq_false_iff.2 htop), ?_⟩
  split at h
  · obtain rfl := Option.some.inj h
    exact .refl _ _
  · rename_i d _
    simp only at h
    split at h
    · cases h
    · rename_i hrefined
      obtain rfl := Option.some.inj h
      have hvalid := isTop_eq_false_iff.1 (Bool.eq_false_iff.2 hrefined)
      unfold analysis at hvalid ⊢
      simp only at hvalid ⊢
      split
      · exact .refl _ _
      · rename_i hkind
        rw [if_neg hkind] at hvalid
        exact refined_refine hvalid

/-! ### What holds at every point -/

/-- A frame has the locals and the room on the stack that the frame on entry has. -/
def Shaped (entry : NullFrame) (_ : g.Node) (_ : Nat) (f : NullFrame) : Prop :=
  f.numLocals = entry.numLocals ∧ f.maxStack = entry.maxStack

lemma resetStackTo_eq_ok_iff {f f' : NullFrame} {v : Nullity} :
    f.resetStackTo v = .ok f' ↔ 0 < f.maxStack ∧ f' = { f with stack := [v] } := by
  rw [resetStackTo, push_eq_ok_iff]
  rfl

lemma pointInvariant_shaped [DescriptorReader] : (m.analysis entry).PointInvariant
    (Shaped entry) where
  entry := ⟨rfl, rfl⟩
  step := by
    intro b index i f f' _ htop hf hstep htop'
    have happlied := apply_applied (isTop_eq_false_iff.1 htop) (step_eq_ok_iff.1 hstep)
      (isTop_eq_false_iff.1 htop')
    exact ⟨happlied.numLocals_eq.trans hf.1, happlied.maxStack_eq.trans hf.2⟩
  flow _ _ _ h := h
  refine := by
    intro e d f _ hkind _ hf htop
    have hvalid := isTop_eq_false_iff.1 htop
    have heq : (m.analysis entry).refine e d f = m.refine e d f := by simp [analysis, hkind]
    rw [heq] at hvalid ⊢
    have hrefined := refined_refine hvalid
    exact ⟨hrefined.numLocals_eq.trans hf.1, hrefined.maxStack_eq.trans hf.2⟩
  handler := by
    intro e index f f' _ _ _ hf henter _
    obtain ⟨-, rfl⟩ := resetStackTo_eq_ok_iff.1 henter
    exact hf
  join := by
    intro e sofar f f' _ hsofar hf hjoin htop
    have hjoin : sofar.merge f = .ok f' := hjoin
    rcases merge_eq_ok_iff.1 hjoin with ⟨-, rfl⟩ | ⟨-, -, rfl⟩ | ⟨-, hvalid, hfits, rfl⟩
    · exact hsofar htop
    · exact hf htop
    · have hbelow := (below_joinCells hvalid hfits).1
      have hshape := hsofar (isTop_eq_false_iff.2 hvalid)
      exact ⟨hbelow.numLocals_eq.trans hshape.1, hbelow.maxStack_eq.trans hshape.2⟩

/-- **The frame at the start of a block lies above all that normal edges carry there.** -/
theorem joinBound_below [DescriptorReader] : (m.analysis entry).JoinBound (Shaped entry)
    (fun _ f f' => Below f f') where
  arrive := by
    intro e sofar f f' _ _ htop _ hjoin
    exact (below_merge hjoin).2 (isTop_eq_false_iff.1 htop)
  stay := by
    intro e sofar f f' c _ _ _ hjoin hc
    exact hc.trans ((below_merge hjoin).1 hc.valid)

end NullModel

/-! ### Methods -/

namespace MethodAnalysis

variable [DescriptorReader] {ctx : AnalysisContext} {c : ClassDecl} {method : Method}
  {a : MethodAnalysis}

/-- An analysis is put together from parts that have all succeeded. -/
lemma ofMethod_eq_ok_iff : ofMethod ctx c method = .ok a ↔ ∃ body, method.body = some body ∧
    FlowGraph.ofBody body = .ok a.graph ∧
    ValueTable.compute a.graph method.maxLocals method.maxStack = .ok a.model.numbers ∧
    (if ctx.config.trackCheckedCalls then some <$> CheckedCalls.ofGraph a.graph else .ok none)
      = .ok a.model.checked ∧
    a.model = ⟨ctx.config, ctx.hierarchy, ctx.summaries, a.model.numbers, a.model.checked⟩ ∧
    allocate (method.maxLocals + method.maxStack) Nullity.bytes = .ok () ∧
    entryFrame ctx.hierarchy (c.idOf method) method = .ok a.entry ∧
    (a.model.analysis a.entry).execute = .ok a.solution := by
  rw [ofMethod]
  cases method.body with
  | none => simp
  | some body =>
      have hbind : ∀ (listed : Bool) {α : Type} (x y : Except Error α)
          (k : α → Except Error MethodAnalysis),
          (if listed then x >>= k else y >>= k) = (if listed then x else y) >>= k := by
        intro listed α x y k
        cases listed <;> rfl
      simp only [hbind, bind_eq_ok_iff, inContext_eq_ok, pure_eq_ok_iff]
      constructor
      · rintro ⟨g, hg, numbers, hnumbers, checked, hchecked, _, hroom, entry, hentry, solution,
          hsolve, rfl⟩
        exact ⟨body, rfl, hg, hnumbers, hchecked, rfl, hroom, hentry, hsolve⟩
      · obtain ⟨g, ⟨config, hierarchy, summaries, numbers, checked⟩, entry, solution⟩ := a
        rintro ⟨_, ⟨⟩, hg, hnumbers, hchecked, hmodel, hroom, hentry, hsolve⟩
        cases hmodel
        exact ⟨g, hg, numbers, hnumbers, checked, hchecked, (), hroom, entry, hentry, solution,
          hsolve, rfl⟩

end MethodAnalysis

end Nullness
