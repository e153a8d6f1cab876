import Mathlib.Tactic
import Nullness.Descriptor.Reader
import Nullness.Proofs.EntryFrame
import Nullness.Proofs.NullFacts
import Nullness.Proofs.NumberedDepths
import Nullness.Proofs.Reachability

/-!
# Stack depths in the nullness analysis

Where all paths to a block agree in their depth, nullness frames never disagree. What is left is the
exception on entry to a handler, which needs room on the stack.

* `NullModel.pointInvariant_arrivedFrame`: valid frames are as deep as some path makes them;
* `NullModel.frameError_iff`: **the analysis of a consistent method fails in a frame exactly when an
  exception edge leaves a block and the stack has no cell for the exception.**
-/

namespace Nullness

open FlowGraph

namespace NullModel

open Nullness.Frame

variable [DescriptorReader] {g : FlowGraph} {m : NullModel g} {entry : NullFrame} {b : g.Node}
  {index : Nat} {op : Opcode} {f f' : NullFrame}

/-! ### From frames to paths -/

lemma slot_lt_of_yields (hvalid : f.valid = true) (h : Yields (m.apply b index op f) f') {slot : Nat}
    (hslot : op.slot? = some slot) : slot < f.numLocals := by
  obtain ⟨f₀, h₀, -⟩ := (yields_apply hvalid).1 h
  cases op with
  | load =>
      obtain rfl := Option.some.inj hslot
      cases moved_of_yields rfl h₀ with
      | load hv => exact (List.getElem?_eq_some_iff.1 hv).1
  | store =>
      obtain rfl := Option.some.inj hslot
      cases moved_of_yields rfl h₀ with
      | store _ hlt => exact hlt
  | _ => cases hslot

/-- An instruction that leaves a valid frame has found what it needs. -/
lemma apply_fits (hvalid : f.valid = true) (h : Yields (m.apply b index op f) f')
    (hvalid' : f'.valid = true) : ∃ effect, op.Fits f.numLocals f.depth effect ∧
      f'.depth = f.depth - effect.pops + effect.pushes := by
  obtain ⟨effect, heffect, hpops, hdepth⟩ := (apply_applied hvalid h hvalid').effect
  exact ⟨effect, ⟨heffect, hpops, fun slot hslot => slot_lt_of_yields hvalid h hslot⟩, by omega⟩

/-- A frame has the shape of the frame on entry and is as deep as some path makes it. -/
def ArrivedFrame (entry : NullFrame) (b : g.Node) (index : Nat) (f : NullFrame) : Prop :=
  Shaped entry b index f ∧ ∃ n, g.Arrives entry.numLocals n b index f.depth

/-- **Valid frames are as deep as some path makes them.** -/
theorem pointInvariant_arrivedFrame (hstack : entry.stack = []) :
    (m.analysis entry).PointInvariant (ArrivedFrame entry) where
  entry := by
    have hdepth : entry.depth = 0 := by rw [depth, hstack]; rfl
    refine ⟨⟨rfl, rfl⟩, 0, ?_⟩
    rw [show (m.analysis entry).entry.depth = 0 from hdepth]
    exact .entry
  step := by
    rintro b index i f f' hi htop ⟨hshape, n, harrives⟩ hstep htop'
    obtain ⟨effect, hfits, hdepth⟩ := apply_fits (isTop_eq_false_iff.1 htop)
      (step_eq_ok_iff.1 hstep) (isTop_eq_false_iff.1 htop')
    rw [hshape.1] at hfits
    exact ⟨pointInvariant_shaped.step hi htop hshape hstep htop', n,
      hdepth ▸ harrives.step hi hfits⟩
  flow := by
    rintro e f he hkind - ⟨hshape, n, harrives⟩
    exact ⟨hshape, n + 1, .jump harrives he hkind⟩
  refine := by
    rintro e d f he hkind htop ⟨hshape, n, harrives⟩ htop'
    refine ⟨pointInvariant_shaped.refine he hkind htop hshape htop', n + 1, ?_⟩
    have hvalid := isTop_eq_false_iff.1 htop'
    have heq : (m.analysis entry).refine e d f = m.refine e d f := by simp [analysis, hkind]
    rw [heq] at hvalid ⊢
    exact (refined_refine hvalid).depth_eq ▸ .jump harrives he hkind
  handler := by
    rintro e index f f' he hkind htop ⟨hshape, n, harrives⟩ henter htop'
    obtain ⟨_, hstart⟩ := harrives.start
    obtain ⟨-, rfl⟩ := resetStackTo_eq_ok_iff.1 henter
    exact ⟨hshape, n + 1, .throw hstart he hkind⟩
  join := by
    rintro e sofar f f' he hsofar hf hjoin htop
    refine ⟨pointInvariant_shaped.join he (fun h => (hsofar h).1) (fun h => (hf h).1) hjoin htop, ?_⟩
    have hjoin : sofar.merge f = .ok f' := hjoin
    rcases merge_eq_ok_iff.1 hjoin with ⟨-, rfl⟩ | ⟨-, -, rfl⟩ | ⟨-, hvalid, hfits, rfl⟩
    · exact (hsofar htop).2
    · exact (hf htop).2
    · obtain ⟨-, n, harrives⟩ := hsofar (isTop_eq_false_iff.2 hvalid)
      exact ⟨n, (below_joinCells hvalid hfits).1.depth_eq ▸ harrives⟩

/-! ### Refusals -/

omit [DescriptorReader] in
lemma merge_error {other : NullFrame} {err : Error} (h : f.merge other = .error err) :
    ∃ cause, err = .frame cause := by
  unfold merge mergeWith at h
  split_ifs at h
  · cases h
  · cases h
  · exact ⟨_, (Except.error.inj h).symm⟩
  · exact ⟨_, (Except.error.inj h).symm⟩
  · cases h

/-- A visit is refused by a frame. -/
lemma frame_of_refused {P : g.Node → Nat → NullFrame → Prop} {err : Error}
    (h : (m.analysis entry).Refused P b err) : ∃ cause, err = .frame cause := by
  cases h with
  | @join e sofar f _ _ _ _ hjoin =>
      have hjoin : sofar.merge f = .error err := hjoin
      exact merge_error hjoin
  | @handler e index x _ _ _ _ _ henter =>
      have henter : x.clearStack.push .nonNullProven = .error err := henter
      unfold push at henter
      split at henter
      · cases henter
      · exact ⟨_, (Except.error.inj henter).symm⟩

/-- Where all paths agree, a visit is refused only because a handler has no room for its exception. -/
lemma of_refused (hagree : g.DepthsAgree entry.numLocals) {err : Error}
    (h : (m.analysis entry).Refused (ArrivedFrame entry) b err) :
    entry.maxStack = 0 ∧ ∃ e ∈ g.edges, e.kind.isException = true ∧
      ∃ n depth, g.Arrives entry.numLocals n e.source 0 depth := by
  cases h with
  | @join e sofar f he ht hsofar hf hjoin =>
      have hjoin : sofar.merge f = .error err := hjoin
      obtain ⟨f', hmerge⟩ : ∃ f', sofar.merge f = .ok f' := by
        refine merge_succeeds fun hvalid hvalid' => ?_
        obtain ⟨hshape, n, harrives⟩ := hsofar (isTop_eq_false_iff.2 hvalid)
        obtain ⟨hshape', n', harrives'⟩ := hf (isTop_eq_false_iff.2 hvalid')
        exact ⟨hshape.1.trans hshape'.1.symm, hshape.2.trans hshape'.2.symm,
          hagree _ _ _ _ _ harrives harrives'⟩
      rw [hmerge] at hjoin
      cases hjoin
  | @handler e index x he ht hkind htop hx henter =>
      obtain ⟨hshape, n, harrives⟩ := hx
      refine ⟨?_, e, he, hkind, n, harrives.start⟩
      by_contra hroom
      have hpos : 0 < x.maxStack := Nat.pos_of_ne_zero (hshape.2.symm ▸ hroom)
      have hok : x.resetStackTo .nonNullProven = .ok { x with stack := [Nullity.nonNullProven] } :=
        resetStackTo_eq_ok_iff.2 ⟨hpos, rfl⟩
      have henter : x.resetStackTo .nonNullProven = .error err := henter
      rw [hok] at henter
      cases henter

/-! ### Without room on the stack -/

/-- Without room on the stack, all instructions that run from an empty stack leave it alone. -/
lemma effect_of_runs {numLocals depth' : Nat} :
    ∀ {ops : List Opcode}, Runs numLocals 0 ops 0 depth' →
      depth' = 0 ∧ ∀ op ∈ ops, op.effect = .ok ⟨0, 0⟩
  | [], h => by
      cases h
      exact ⟨rfl, by simp⟩
  | op :: ops, h => by
      cases h with
      | @cons _ _ effect _ _ hfits hroom hrest =>
          obtain ⟨pops, pushes⟩ := effect
          obtain rfl : pops = 0 := Nat.le_zero.1 hfits.pops_le
          obtain rfl : pushes = 0 := by simpa using hroom
          obtain ⟨hdepth, hops⟩ := effect_of_runs hrest
          refine ⟨hdepth, fun op' hop' => ?_⟩
          rcases List.mem_cons.1 hop' with rfl | hop'
          · exact hfits.effect_eq
          · exact hops op' hop'

/-- Without room on the stack nothing can be loaded. -/
lemma not_load_of_runs {numLocals slot : Nat} :
    ∀ {ops : List Opcode} {depth depth' : Nat}, Runs numLocals 0 ops depth depth' →
      Opcode.load slot ∉ ops
  | [], _, _, _ => List.not_mem_nil
  | op :: ops, depth, depth', h => by
      cases h with
      | @cons _ _ effect _ _ hfits hroom hrest =>
          rintro hmem
          rcases List.mem_cons.1 hmem with rfl | hmem
          · obtain rfl : ⟨0, 1⟩ = effect := Except.ok.inj hfits.effect_eq
            simp at hroom
          · exact not_load_of_runs hrest hmem

omit [DescriptorReader] in
/-- A block that tests a local variable at its end loads it. -/
lemma guardLocal?_eq_none (h : ∀ slot, Opcode.load slot ∉ g.ops b) : guardLocal? b = none := by
  unfold guardLocal?
  split
  · rename_i slot _ hload
    refine absurd ?_ (h slot)
    rw [penultimateOp?, lastOp?] at hload
    obtain ⟨i, hi, hop⟩ := Option.map_eq_some_iff.1 hload
    rw [FlowGraph.ops, ← hop]
    exact List.mem_map_of_mem (List.dropLast_subset _ (List.mem_of_getLast? hi))
  · rfl

/-- A call that takes nothing and returns nothing leaves a frame valid, if no variable is tested in
front of it. -/
lemma yields_invoke_idle {call : CallSite} (hvalid : f.valid = true)
    (heffect : (Opcode.invoke call).effect = .ok ⟨0, 0⟩)
    (hguard : ∀ c ∈ reachableFrom (fun b => (g.incoming b).map (·.source)) g.edges.length b,
      guardLocal? c = none) :
    ∃ f', Yields (m.invoke b index call f) f' ∧ f'.valid = true := by
  obtain ⟨d, hd, -⟩ := bind_eq_ok_iff.1 heffect
  rw [Opcode.effect_invoke hd, Except.ok.injEq, StackEffect.mk.injEq] at heffect
  obtain ⟨hpops, hvoid⟩ := heffect
  obtain ⟨hparameters, hreceivers⟩ := Nat.add_eq_zero_iff.1 hpops
  have hconsumed : call.consumed = .ok 0 := CallSite.consumed_eq_ok_iff.2 ⟨d, hd, hpops⟩
  have hreturn : d.returnKind = .void := by
    by_contra hne
    simp [hne] at hvoid
  have hguarded : m.guarded b index call f = .ok (some f) := by
    unfold guarded guardArguments
    split
    · simp only [CallSite.parameterCount_eq hd, hparameters]
      split
      · rfl
      · split
        · rfl
        · simp [bind, Except.bind, pure, Except.pure]
    · rfl
  have hsummarized : m.summarized b index call f = .ok f := by
    unfold summarized applySummary
    split
    · split
      · rfl
      · rw [hconsumed]
        have hnone : (reachableFrom (fun b => (g.incoming b).map (·.source)) g.edges.length b).findSome?
            guardLocal? = none := List.findSome?_eq_none_iff.2 hguard
        simp [bind, Except.bind, guardBeforeThrower, hnone]
      · rw [guardCheckedArguments, hconsumed]
        have hloads : argumentLoads b index 0 = some [] := Machine.loadsBackwards_zero _ b _
        simp [bind, Except.bind, hloads, pure, Except.pure]
    · rfl
  refine ⟨f.dropCells 0, yields_invoke.2 (.inr ⟨f, f, hguarded, hsummarized, ?_⟩), hvalid⟩
  rw [finishCall]
  refine yields_bind.2 ⟨0, hconsumed, yields_bind.2 ⟨_, popN_eq_ok_iff.2 ⟨Nat.zero_le _, rfl⟩, ?_⟩⟩
  refine yields_bind.2 ⟨d.returnKind, CallSite.returnKind_eq hd, ?_⟩
  rw [hreturn]
  exact yields_ok.2 rfl

/-- An instruction that leaves the stack alone leaves a frame valid, if no variable is tested in front
of it. -/
lemma yields_idle (hvalid : f.valid = true) (heffect : op.effect = .ok ⟨0, 0⟩)
    (hguard : ∀ c ∈ reachableFrom (fun b => (g.incoming b).map (·.source)) g.edges.length b,
      guardLocal? c = none) :
    ∃ f', Yields (m.apply b index op f) f' ∧ f'.valid = true := by
  suffices ∃ f₀, Yields (m.applyOp b index op f) f₀ ∧ f₀.valid = true by
    obtain ⟨f₀, h₀, hvalid₀⟩ := this
    refine ⟨_, (yields_apply hvalid).2 ⟨f₀, h₀, rfl⟩, ?_⟩
    rw [if_pos hvalid₀]
    exact ((tightened_afterDereference _ _).kept.trans (kept_afterAssertion _ _)).valid_eq.trans hvalid₀
  have plain : ∀ {op : Opcode}, op.effect = .ok ⟨0, 0⟩ →
      ∃ f₀, Yields (unremarkable (applyEffect op f)) f₀ ∧ f₀.valid = true := by
    intro op heffect
    refine ⟨f.dropCells 0, yields_unremarkable.2 ?_, hvalid⟩
    have hpop : f.popN 0 = .ok (f.dropCells 0) := popN_eq_ok_iff.2 ⟨Nat.zero_le _, rfl⟩
    exact bind_eq_ok_iff.2 ⟨_, heffect, bind_eq_ok_iff.2 ⟨_, hpop, rfl⟩⟩
  cases op with
  | nop | goto | «return» | checkCast => exact ⟨f, yields_ok.2 rfl, hvalid⟩
  | invoke call => exact yields_invoke_idle hvalid heffect hguard
  | arithmetic pops pushes => exact plain heffect
  | ifCompare operands => exact plain heffect
  | _ => cases heffect

/-- A block whose instructions leave the stack alone ends in no test. -/
lemma decide_idle (h : ∀ op ∈ g.ops b, op.effect = .ok ⟨0, 0⟩) (f : NullFrame)
    (before : Option NullFrame) : m.decide b f before = none := by
  cases hd : m.decide b f before with
  | none => rfl
  | some d =>
      unfold decide at hd
      obtain ⟨_, -, hd⟩ := Option.bind_eq_some_iff.1 hd
      split at hd
      all_goals first
        | cases hd
        | rename_i hops
          have hmem := h _ (List.mem_reverse.1 (hops ▸ List.mem_cons_self))
          cases hmem

section

variable {depth : g.Node → Nat}
  (hconsistent : g.StackConsistent entry.numLocals entry.maxStack depth) (hroom : entry.maxStack = 0)

include hconsistent hroom

/-- No variable is tested in front of a block from which control goes on. -/
lemma guardLocal?_eq_none_before (hb : b ≠ g.exit) :
    ∀ c ∈ reachableFrom (fun b => (g.incoming b).map (·.source)) g.edges.length b,
      guardLocal? c = none := by
  intro c hc
  have hexit : c ≠ g.exit := by
    refine reachableFrom_keeps (P := fun c => c ≠ g.exit) (fun a _ c hc => ?_) hb c hc
    obtain ⟨e, he, rfl⟩ := List.mem_map.1 hc
    exact g.exit_final e (FlowGraph.mem_incoming.1 he).1
  obtain ⟨_, hruns⟩ := hconsistent.runs c hexit
  exact guardLocal?_eq_none fun slot => not_load_of_runs (hroom ▸ hruns)

/-- Without room on the stack, a block that is entered with an empty stack keeps it empty. -/
lemma effect_of_mem (hb : b ≠ g.exit) (hdepth : depth b = 0) :
    ∀ op ∈ g.ops b, op.effect = .ok ⟨0, 0⟩ := by
  obtain ⟨_, hruns⟩ := hconsistent.runs b hb
  rw [hdepth, hroom] at hruns
  exact (effect_of_runs hruns).2

lemma within_valid (hb : b ≠ g.exit) (hdepth : depth b = 0) {start : NullFrame}
    (hvalid : start.valid = true) (hindex : index ≤ (g.instructions b).length) :
    ((m.analysis entry).within b start index).valid = true := by
  induction index with
  | zero => rwa [FlowAnalysis.within_zero]
  | succ index ih =>
      have hi := List.getElem?_eq_getElem (show index < (g.instructions b).length by omega)
      have hmem : (g.instructions b)[index].op ∈ g.ops b :=
        List.mem_map_of_mem (List.getElem_mem _)
      obtain ⟨f', hyields, hvalid'⟩ := yields_idle (ih (by omega))
        (effect_of_mem hconsistent hroom hb hdepth _ hmem)
        (guardLocal?_eq_none_before hconsistent hroom hb)
      rw [within_succ hi (ih (by omega)) hyields]
      exact hvalid'

/-- A path through such a block brings the depth with which it has entered it. -/
lemma arrives_start {n d : Nat} (hb : b ≠ g.exit) (hdepth : depth b = 0)
    (h : g.Arrives entry.numLocals n b index d) : g.Arrives entry.numLocals n b 0 d := by
  induction index generalizing d with
  | zero => exact h
  | succ index ih =>
      obtain ⟨i, effect, d, hi, hfits, hbefore, rfl⟩ := h.of_succ
      have hmem : i.op ∈ g.ops b := List.mem_map_of_mem (List.mem_of_getElem? hi)
      have heffect := effect_of_mem hconsistent hroom hb hdepth _ hmem
      obtain rfl : effect = ⟨0, 0⟩ := Except.ok.inj (hfits.effect_eq.symm.trans heffect)
      exact ih hbefore

/-- What such a block carries along a normal edge. -/
lemma brings_idle {t : FactTable g NullFrame (BranchDecision Nullity)}
    (hcons : (m.analysis entry).Consistent t) {e : g.Arc} (he : e ∈ g.edges)
    (hkind : e.kind.isException = false) (hdepth : depth e.source = 0)
    (hvalid : (t.get e.source).start.valid = true) :
    (m.analysis entry).Brings t e (t.get e.source).result := by
  have hexit := g.exit_final e he
  have hresult : (t.get e.source).result.valid = true := by
    rw [hcons.result]
    exact within_valid hconsistent hroom hexit hdepth hvalid le_rfl
  have hdecision : (t.get e.source).decision = none := by
    cases hlen : (g.instructions e.source).length with
    | zero =>
        rw [hcons e.source, FlowAnalysis.through, List.eq_nil_of_length_eq_zero hlen]
        exact ite_self none
    | succ last =>
        have htop := hresult
        rw [hcons e.source] at htop ⊢
        rw [FlowAnalysis.through_decision _ hlen (isTop_eq_false_iff.2 htop)]
        exact decide_idle (effect_of_mem hconsistent hroom hexit hdepth) _ _
  refine .normal hkind ?_
  rw [FlowAnalysis.carried?, if_neg (by rw [isTop_eq_false_iff.2 hresult]; decide), hdecision]

/-- After so many passes, all blocks to which a shorter path leads have been entered, with an empty
stack. -/
def Entered (entry : NullFrame) (depth : g.Node → Nat) (n : Nat) (b : g.Node) (f : NullFrame) :
    Prop :=
  ∀ k < n, ∀ d, g.Arrives entry.numLocals k b 0 d →
    d = 0 ∧ (b ≠ g.exit → depth b = 0) ∧ f.valid = true

lemma progress_entered (hvalid : entry.valid = true) :
    (m.analysis entry).Progress (Shaped entry) (Entered entry depth) where
  nothing b f k hk := absurd hk (Nat.not_lt_zero k)
  weaken h k hk := h k (Nat.lt_succ_of_lt hk)
  unreachable hb k _ d h := absurd h.reachable hb
  visit := by
    intro n t b start hcons hlive hall hstart k hk d harrives
    have hbounded := pointInvariant_shaped.start_of joinBound_below isTop_top hcons hlive hstart
    cases harrives with
    | entry =>
        have hbelow := hbounded.stay entry
          (by rw [FlowAnalysis.initial, if_pos rfl]; exact Below.refl hvalid)
        exact ⟨rfl, fun _ => hconsistent.entry, hbelow.valid⟩
    | @jump k e d hsource he hkind =>
        have hexit := g.exit_final e he
        obtain ⟨_, hentered⟩ := hsource.start
        obtain ⟨-, hdepth, hsourceValid⟩ := hall e.source k (Nat.lt_of_succ_lt_succ hk) _ hentered
        have hdepth := hdepth hexit
        obtain ⟨rfl, -⟩ := hall e.source k (Nat.lt_of_succ_lt_succ hk) d
          (arrives_start hconsistent hroom hexit hdepth hsource)
        have hbelow := hbounded.arrive _ ⟨e, he, rfl,
          brings_idle hconsistent hroom hcons he hkind hdepth hsourceValid⟩
        refine ⟨rfl, fun htarget => ?_, hbelow.valid⟩
        have hruns := hconsistent.normal e he hkind htarget
        rw [hdepth, hroom] at hruns
        exact (effect_of_runs hruns).1
    | @throw k e d hsource he hkind =>
        obtain ⟨-, -, hsourceValid⟩ := hall e.source k (Nat.lt_of_succ_lt_succ hk) d hsource
        obtain ⟨x, hx, htop⟩ := hcons.exists_thrown (isTop_eq_false_iff.2 hsourceValid)
        obtain ⟨f, henter⟩ := FlowAnalysis.entered_of_startOf hstart he rfl hkind hx htop
        -- the exception would need a cell
        have hshape : x.maxStack = entry.maxStack := by
          obtain ⟨index, hindex, rfl⟩ := hcons.thrown hx
          exact (hlive e.source index hindex htop).2
        have hpos := (resetStackTo_eq_ok_iff.1 henter).1
        omega

end

/-! ### Consistent methods -/

/-- **The analysis of a consistent method fails in a frame exactly when an exception edge leaves a
block and the stack has no cell for the exception**, provided that all paths agree in their depths. -/
theorem frameError_iff {depth : g.Node → Nat}
    (hconsistent : g.StackConsistent entry.numLocals entry.maxStack depth)
    (hagree : g.DepthsAgree entry.numLocals) (hvalid : entry.valid = true)
    (hstack : entry.stack = []) : (∃ cause, (m.analysis entry).solve = .error (.frame cause)) ↔
      entry.maxStack = 0 ∧ ∃ e ∈ g.edges, e.kind.isException = true ∧
        ∃ n d, g.Arrives entry.numLocals n e.source 0 d := by
  constructor
  · rintro ⟨cause, h⟩
    rcases FlowAnalysis.solve_error_cases h with ⟨n, t, -, hafter, hpass⟩ | ⟨heq, -⟩
    · obtain ⟨b, hrefused⟩ :=
        FlowAnalysis.pass_refused (pointInvariant_arrivedFrame hstack) isTop_top hafter hpass
      exact of_refused hagree hrefused
    · cases heq
  · rintro ⟨hroom, e, he, hkind, n, d, h⟩
    obtain ⟨k, hk, h⟩ := arrives_early (fun n n' b d d' _ _ => hagree n n' b d d') h
    -- the path with one edge more would leave a cell on the stack
    have hnever : ∀ f, ¬ Entered entry depth (m.analysis entry).passLimit e.target f := by
      intro f hentered
      have hlimit := FlowAnalysis.size_lt_passLimit (m.analysis entry)
      obtain ⟨hone, -⟩ := hentered (k + 1) (by omega) 1 (.throw h he hkind)
      omega
    obtain ⟨err, hsolve, b, hrefused⟩ :=
      (progress_entered hconsistent hroom hvalid).refused pointInvariant_shaped
        pointInvariant_shaped isTop_top hnever
    obtain ⟨cause, rfl⟩ := frame_of_refused hrefused
    exact ⟨cause, hsolve⟩

end NullModel

/-- **When the frames of a consistent method cannot be joined.** Value numbering fails where frames
meet exactly when two paths bring different depths to a block. If no two do, the nullness analysis
fails in a frame exactly when an exception edge leaves a block to which a path leads, and the stack has
no cell for the exception. -/
theorem meeting_refused_iff [DescriptorReader] {g : FlowGraph} {method : Method}
    {depth : g.Node → Nat}
    (hconsistent : g.StackConsistent method.maxLocals method.maxStack depth) :
    ((∃ mine theirs block, ValueTable.ofGraph g method.maxLocals method.maxStack
        = .error (.within .valueNumbering (.numbering (.slotCountsDiffer mine theirs block)))) ↔
      ¬ g.DepthsAgree method.maxLocals) ∧
    (g.DepthsAgree method.maxLocals → ∀ (m : NullModel g) (id : MethodId) (entry : NullFrame),
      entryFrame m.hierarchy id method = .ok entry →
      ((∃ cause, (m.analysis entry).solve = .error (.frame cause)) ↔
        method.maxStack = 0 ∧ ∃ e ∈ g.edges, e.kind.isException = true ∧
          ∃ n d, g.Arrives method.maxLocals n e.source 0 d)) := by
  constructor
  · refine Iff.trans ?_ (@ValueNumbering.slotCountsDiffer_iff _ g method.maxLocals method.maxStack)
    refine exists_congr fun mine => exists_congr fun theirs => exists_congr fun block => ?_
    rw [ValueTable.ofGraph, bind_eq_error_iff]
    cases (ValueNumbering.analysis g method.maxLocals method.maxStack).solve with
    | ok s => simp [inContext]
    | error e => simp [inContext]
  · intro hagree m id entry hentry
    obtain ⟨hvalid, hlocals, hstack, hmax, -⟩ := entryFrame_shape hentry
    rw [← hlocals] at hagree ⊢
    rw [← hlocals, ← hmax] at hconsistent
    rw [← hmax]
    exact NullModel.frameError_iff hconsistent hagree hvalid hstack

/-- The body of a method that returns in one branch and throws in the other. -/
def returnOrThrow : FlowGraph where
  size := 3
  entry := 0
  exit := 2
  code := ⟨#[[⟨0, .nop⟩, ⟨1, .return⟩], [⟨2, .new "X"⟩, ⟨3, .throw⟩], []], rfl⟩
  edges := [⟨0, 2, .fallThrough⟩, ⟨0, 1, .branch⟩, ⟨1, 2, .unhandledException⟩]
  exit_final := by decide

/-- Every block but the exit runs from an empty stack. -/
lemma stackConsistent_returnOrThrow : returnOrThrow.StackConsistent 1 4 fun _ => 0 := by
  decide

/-- The branch that returns brings an empty stack to the exit, and the exception brings one cell. -/
lemma depthsDisagree_returnOrThrow : ¬ returnOrThrow.DepthsAgree 1 := by
  intro hagree
  have h : returnOrThrow.Arrives 1 0 ⟨0, by decide⟩ 0 0 := .entry
  have h := h.step (i := ⟨0, .nop⟩) rfl ⟨rfl, by decide, by simp [Opcode.slot?]⟩
  have h := h.step (i := ⟨1, .return⟩) rfl ⟨rfl, by decide, by simp [Opcode.slot?]⟩
  have hreturn : returnOrThrow.Arrives 1 1 ⟨2, by decide⟩ 0 0 :=
    .jump (e := ⟨⟨0, by decide⟩, ⟨2, by decide⟩, .fallThrough⟩) h (by decide) rfl
  have hbranch : returnOrThrow.Arrives 1 1 ⟨1, by decide⟩ 0 0 :=
    .jump (e := ⟨⟨0, by decide⟩, ⟨1, by decide⟩, .branch⟩) h (by decide) rfl
  have hthrow : returnOrThrow.Arrives 1 2 ⟨2, by decide⟩ 0 1 :=
    .throw (e := ⟨⟨1, by decide⟩, ⟨2, by decide⟩, .unhandledException⟩) hbranch (by decide) rfl
  exact absurd (hagree _ _ _ _ _ hreturn hthrow) (by decide)

/-- **A consistent method is refused because frames meet.** -/
theorem meeting_refused_returnOrThrow : returnOrThrow.StackConsistent 1 4 (fun _ => 0) ∧
    ∃ mine theirs block, ValueTable.ofGraph returnOrThrow 1 4
      = .error (.within .valueNumbering (.numbering (.slotCountsDiffer mine theirs block))) := by
  obtain ⟨mine, theirs, block, h⟩ :=
    (@ValueNumbering.slotCountsDiffer_iff _ returnOrThrow 1 4).2 depthsDisagree_returnOrThrow
  refine ⟨stackConsistent_returnOrThrow, mine, theirs, block, ?_⟩
  rw [ValueTable.ofGraph, h]
  rfl

/-- A method whose body is this one. -/
def returnOrThrowMethod : Method where
  name := "m"
  descriptor := "()V"
  isPublic := true
  isStatic := true
  isAbstract := false
  returnMark := .unknown
  parameterMarks := []
  maxLocals := 1
  maxStack := 4
  body := some {
    entry := 0
    exit := 2
    blocks := [⟨0, [⟨0, .nop⟩, ⟨1, .return⟩]⟩, ⟨1, [⟨2, .new "X"⟩, ⟨3, .throw⟩]⟩, ⟨2, []⟩]
    edges := [⟨0, 2, .fallThrough⟩, ⟨0, 1, .branch⟩, ⟨1, 2, .unhandledException⟩] }
  dereferencedParameters := []

theorem meeting_refused_iff_returnOrThrow :
    returnOrThrow.StackConsistent returnOrThrowMethod.maxLocals returnOrThrowMethod.maxStack
        (fun _ => 0) ∧
    ((∃ mine theirs block, ValueTable.ofGraph returnOrThrow 1 4
        = .error (.within .valueNumbering (.numbering (.slotCountsDiffer mine theirs block)))) ↔
      ¬ returnOrThrow.DepthsAgree 1) ∧
    (returnOrThrow.DepthsAgree 1 → ∀ (m : NullModel returnOrThrow) (id : MethodId)
      (entry : NullFrame), entryFrame m.hierarchy id returnOrThrowMethod = .ok entry →
      ((∃ cause, (m.analysis entry).solve = .error (.frame cause)) ↔
        returnOrThrowMethod.maxStack = 0 ∧ ∃ e ∈ returnOrThrow.edges, e.kind.isException = true ∧
          ∃ n d, returnOrThrow.Arrives 1 n e.source 0 d)) :=
  ⟨stackConsistent_returnOrThrow,
    @meeting_refused_iff _ returnOrThrow returnOrThrowMethod _ stackConsistent_returnOrThrow⟩

end Nullness
