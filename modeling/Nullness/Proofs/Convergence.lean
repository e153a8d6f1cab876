import Mathlib.Tactic
import Nullness.Descriptor.Reader
import Nullness.Proofs.Ascent
import Nullness.Proofs.AvailableLoads
import Nullness.Proofs.EntryFrame
import Nullness.Proofs.FrameDepths

/-!
# Convergence of the nullness analysis

Frames ascend by few steps: a cell takes one of seven values, and a known class ascends until it is
forgotten. There are as many cells as the method has room for, and frames know the classes that
instructions let them know. So the iteration ends within its limit unless the start of a block drops
from one pass to the next. That does happen: a rule may say less of a frame that says more.

* `NullModel.potential`: how far a frame has ascended;
* `NullModel.pointInvariant_confined`: frames have room for their cells, and know no class that no
  instruction has let them know;
* `NullModel.gives_up_iff`: **the iteration gives up exactly when all its passes succeed and change a
  fact, and in one of them the start of a block drops.**
-/

namespace Nullness

open CellValue

/-! ### The levels of values -/

namespace Nullity

/-- The position of a value on a longest chain of the lattice. -/
def level : Nullity → Nat
  | .top => 0
  | .definitelyNull => 1
  | .nullOnSomePath => height
  | v => v.rank

variable {v w : Nullity}

lemma level_le (v : Nullity) : v.level ≤ height := by cases v <;> decide

lemma level_lt (h : Le v w) (hne : v ≠ w) : v.level < w.level := by
  have hjoin : v.join w = w := h
  revert hjoin hne
  cases v <;> cases w <;> decide

lemma level_mono (h : Le v w) : v.level ≤ w.level := by
  by_cases hne : v = w
  · rw [hne]
  · exact (level_lt h hne).le

/-- The levels of some cells together. -/
def levels (l : List Nullity) : Nat := (l.map level).sum

variable {l l' : List Nullity}

lemma levels_le (l : List Nullity) : levels l ≤ l.length * height := by
  have hle := List.sum_le_card_nsmul (l.map level) height (by simp [level_le])
  simpa [levels] using hle

lemma levels_mono (h : List.Forall₂ Le l l') : levels l ≤ levels l' := by
  induction h with
  | nil => exact le_rfl
  | cons hvw _ ih => exact Nat.add_le_add (level_mono hvw) ih

lemma levels_lt (h : List.Forall₂ Le l l') (hne : l ≠ l') : levels l < levels l' := by
  induction h with
  | nil => exact absurd rfl hne
  | @cons v w l l' hvw hrest ih =>
      by_cases heq : v = w
      · subst heq
        exact Nat.add_lt_add_left (ih fun h => hne (congrArg _ h)) _
      · exact Nat.add_lt_add_of_lt_of_le (level_lt hvw heq) (levels_mono hrest)

/-- The level of what is known of a class. The highest is to know nothing. -/
def knownLevel : Option Nullity → Nat
  | none => height + 1
  | some v => v.level

lemma knownLevel_le (v : Option Nullity) : knownLevel v ≤ height + 1 := by
  cases v with
  | none => exact le_rfl
  | some v => exact (level_le v).trans (Nat.le_succ _)

end Nullity

namespace NullModel

open Nullness.Frame Nullity

variable {g : FlowGraph} {m : NullModel g} {entry : NullFrame} {b : g.Node} {f f' : NullFrame}
  {keys : List Nat}

/-! ### The potential of a frame -/

/-- The levels of what a frame knows of some classes. -/
def knowledge (keys : List Nat) (f : NullFrame) : Nat :=
  (keys.map fun n => knownLevel (f.knownValue? n)).sum

lemma knowledge_le (keys : List Nat) (f : NullFrame) :
    knowledge keys f ≤ keys.length * (height + 1) := by
  have hle := List.sum_le_card_nsmul (keys.map fun n => knownLevel (f.knownValue? n)) (height + 1)
    (by simp [knownLevel_le])
  simpa [knowledge] using hle

/-- What is known ascends or is forgotten. -/
lemma knownLevel_mono (h : Below f f') (n : Nat) :
    knownLevel (f.knownValue? n) ≤ knownLevel (f'.knownValue? n) := by
  cases hw : f'.knownValue? n with
  | none => exact knownLevel_le _
  | some w =>
      obtain ⟨v, hv, hvw⟩ := h.known n w hw
      rw [hv]
      exact level_mono hvw

lemma knownLevel_lt (h : Below f f') {n : Nat} (hne : f.knownValue? n ≠ f'.knownValue? n) :
    f.Knows n ∧ knownLevel (f.knownValue? n) < knownLevel (f'.knownValue? n) := by
  cases hw : f'.knownValue? n with
  | none =>
      rw [hw] at hne
      obtain ⟨v, hv⟩ := Option.ne_none_iff_exists'.1 hne
      refine ⟨Option.isSome_iff_exists.2 ⟨v, hv⟩, ?_⟩
      rw [hv]
      exact Nat.lt_succ_of_le (level_le v)
  | some w =>
      obtain ⟨v, hv, hvw⟩ := h.known n w hw
      refine ⟨Option.isSome_iff_exists.2 ⟨v, hv⟩, ?_⟩
      rw [hv, hw] at hne
      rw [hv]
      exact level_lt hvw fun heq => hne (congrArg some heq)

lemma knowledge_mono (h : Below f f') : knowledge keys f ≤ knowledge keys f' :=
  List.sum_le_sum fun n _ => knownLevel_mono h n

lemma knowledge_lt (h : Below f f') (hkeys : ∀ n, f.Knows n → n ∈ keys)
    (hne : f.known ≠ f'.known) : knowledge keys f < knowledge keys f' := by
  obtain ⟨n, hn⟩ : ∃ n, f.knownValue? n ≠ f'.knownValue? n := by
    by_contra hnone
    push Not at hnone
    exact hne (SortedMap.ext_get? hnone)
  obtain ⟨hknows, hlt⟩ := knownLevel_lt h hn
  exact List.sum_lt_sum _ _ (fun k _ => knownLevel_mono h k) ⟨n, hkeys n hknows, hlt⟩

/-- How far a frame has ascended: the levels of its cells and of what it knows of some classes. -/
def potential (keys : List Nat) (f : NullFrame) : Nat :=
  if f.valid then levels f.locals + levels f.stack + knowledge keys f + 1 else 0

lemma potential_lt (h : Below f f') (hvalid : f.valid = true) (hkeys : ∀ n, f.Knows n → n ∈ keys)
    (hne : f ≠ f') : potential keys f < potential keys f' := by
  have hlocals := levels_mono h.locals
  have hstack := levels_mono h.stack
  have hknown : knowledge keys f ≤ knowledge keys f' := knowledge_mono h
  rw [potential, potential, if_pos hvalid, if_pos h.valid]
  by_cases hl : f.locals = f'.locals
  · by_cases hs : f.stack = f'.stack
    · have hk : f.known ≠ f'.known := fun hk => hne (by
        rcases f with ⟨locals, stack, maxStack, valid, known⟩
        rcases f' with ⟨locals', stack', maxStack', valid', known'⟩
        have hmax : maxStack' = maxStack := h.maxStack_eq
        have hvalid' : valid' = true := h.valid
        simp_all)
      have := knowledge_lt h hkeys hk
      omega
    · have := levels_lt h.stack hs
      omega
  · have := levels_lt h.locals hl
    omega

/-! ### Frames of a method -/

/-- A frame has the locals of the frame on entry, its cells have room, and it knows no class that no
instruction lets it know. -/
structure Confined (m : NullModel g) (entry : NullFrame) (b : g.Node) (index : Nat)
    (f : NullFrame) : Prop where
  shaped : Shaped entry b index f
  depth_le : f.depth ≤ entry.maxStack
  known : ∀ n, f.Knows n → n ∈ m.learnedNumbers

lemma Confined.potential_le [DescriptorReader] {index : Nat} (h : Confined m entry b index f) :
    potential m.learnedNumbers f ≤ (m.analysis entry).height := by
  rw [potential]
  split
  swap
  · exact Nat.zero_le _
  have hlocals : levels f.locals ≤ entry.numLocals * height := h.shaped.1 ▸ levels_le f.locals
  have hstack : levels f.stack ≤ entry.maxStack * height :=
    (levels_le f.stack).trans (Nat.mul_le_mul_right _ h.depth_le)
  have hknown : knowledge m.learnedNumbers f ≤ g.instructionCount * (height + 1) :=
    (knowledge_le _ f).trans (Nat.mul_le_mul_right _ (length_learnedNumbers_le m))
  have hheight : (m.analysis entry).height
      = (entry.numLocals + entry.maxStack + g.instructionCount) * (height + 1) + 2 := rfl
  rw [hheight]
  simp only [height] at hlocals hstack hknown ⊢
  omega

variable [DescriptorReader] {method : Method} {id : MethodId}

/-- What an edge refines is known, or an instruction lets it be known. -/
lemma known_refine (hnumbers : ValueTable.ofGraph g method.maxLocals method.maxStack = .ok m.numbers)
    {e : g.Arc} {d : BranchDecision Nullity} (hvalid : (m.refine e d f).valid = true)
    (hf : ∀ n, f.Knows n → n ∈ m.learnedNumbers) :
    ∀ n, (m.refine e d f).Knows n → n ∈ m.learnedNumbers := by
  intro n hn
  cases htrack : m.config.trackValueNumbers with
  | true =>
      rcases (refined_refine hvalid).known n hn with hn | ⟨numbers, l, hstart, hl⟩
      · exact hf n hn
      · exact available_learned htrack hnumbers hstart hl
  | false =>
      rw [refine, htrack] at hn
      cases hn

/-- **Frames have room for their cells, and know no class that no instruction lets them know.** -/
theorem pointInvariant_confined
    (hnumbers : ValueTable.ofGraph g method.maxLocals method.maxStack = .ok m.numbers)
    (hentry : entryFrame m.hierarchy id method = .ok entry) :
    (m.analysis entry).PointInvariant (Confined m entry) where
  entry := by
    obtain ⟨-, -, hstack, -, hknown⟩ := entryFrame_shape hentry
    refine ⟨⟨rfl, rfl⟩, ?_, fun n hn => absurd hn (hknown n)⟩
    have hdepth : entry.depth = 0 := by rw [depth, hstack]; rfl
    exact hdepth.trans_le (Nat.zero_le _)
  step := by
    intro b index i f f' hi htop hf hstep htop'
    have happlied := apply_applied (isTop_eq_false_iff.1 htop) (step_eq_ok_iff.1 hstep)
      (isTop_eq_false_iff.1 htop')
    refine ⟨pointInvariant_shaped.step hi htop hf.shaped hstep htop', ?_, fun n hn => ?_⟩
    · rcases happlied.room with hroom | hroom
      · exact hroom.trans hf.depth_le
      · exact hroom.trans_eq hf.shaped.2
    · rcases happlied.known n hn with hn | hlearned
      · exact hf.known n hn
      · exact mem_learnedNumbers hi hlearned
  flow _ _ _ hf := ⟨hf.shaped, hf.depth_le, hf.known⟩
  refine := by
    intro e d f he hkind htop hf htop'
    have hshaped := pointInvariant_shaped.refine he hkind htop hf.shaped htop'
    have hvalid := isTop_eq_false_iff.1 htop'
    have heq : (m.analysis entry).refine e d f = m.refine e d f := by simp [analysis, hkind]
    rw [heq] at hshaped hvalid ⊢
    exact ⟨hshaped, (refined_refine hvalid).depth_eq.trans_le hf.depth_le,
      known_refine hnumbers hvalid hf.known⟩
  handler := by
    intro e index f f' he hkind htop hf henter htop'
    refine ⟨pointInvariant_shaped.handler he hkind htop hf.shaped henter htop', ?_, ?_⟩
    · obtain ⟨hroom, rfl⟩ := resetStackTo_eq_ok_iff.1 henter
      exact (Nat.succ_le_of_lt hroom).trans_eq hf.shaped.2
    · obtain ⟨-, rfl⟩ := resetStackTo_eq_ok_iff.1 henter
      exact hf.known
  join := by
    intro e sofar f f' he hsofar hf hjoin htop
    have hjoin : sofar.merge f = .ok f' := hjoin
    rcases merge_eq_ok_iff.1 hjoin with ⟨-, rfl⟩ | ⟨-, -, rfl⟩ | ⟨-, hvalid, hfits, rfl⟩
    · exact hsofar htop
    · exact hf htop
    · have hbelow := (below_joinCells hvalid hfits).1
      obtain ⟨hshape, hdepth, hknown⟩ := hsofar (isTop_eq_false_iff.2 hvalid)
      exact ⟨⟨hbelow.numLocals_eq.trans hshape.1, hbelow.maxStack_eq.trans hshape.2⟩,
        hbelow.depth_eq.trans_le hdepth, fun n hn => hknown n (hbelow.knows hn)⟩

/-! ### The iteration -/

/-- Where control is seen to arrive, a frame lies below another one. -/
def Ascends (f f' : NullFrame) : Prop := f.valid = true → Below f f'

/-- A fact is the one top frame, or it is valid. -/
def Started (m : NullModel g) (entry f : NullFrame) : Prop :=
  f = (m.analysis entry).top ∨ f.valid = true

lemma started_joinAlong {t : FactTable g NullFrame (BranchDecision Nullity)} {e : g.Arc}
    (hf : Started m entry f) (h : (m.analysis entry).joinAlong t f e = .ok f') :
    Started m entry f' := by
  rw [FlowAnalysis.joinAlong] at h
  cases hkind : e.kind.isException with
  | true =>
      simp only [hkind, if_true] at h
      refine foldlM_ok (P := Started m entry) (fun x _ sofar f' hsofar hstep => ?_) hf h
      unfold FlowAnalysis.joinThrown at hstep
      split at hstep
      · obtain rfl : sofar = f' := by simpa using hstep
        exact hsofar
      · rename_i hx
        obtain ⟨entered, henter, hstep⟩ := bind_eq_ok_iff.1 hstep
        obtain ⟨-, rfl⟩ := resetStackTo_eq_ok_iff.1 henter
        have hvalid := isTop_eq_false_iff.1 (Bool.eq_false_iff.2 hx)
        exact .inr ((below_merge hstep).2 hvalid).valid
  | false =>
      simp only [hkind, Bool.false_eq_true, if_false] at h
      cases hcarried : (m.analysis entry).carried? e (t.get e.source) with
      | none =>
          obtain rfl : f = f' := by simpa [hcarried] using h
          exact hf
      | some x =>
          simp only [hcarried] at h
          obtain ⟨hresult, hrefined⟩ := refined_carried hcarried
          exact .inr ((below_merge h).2 (hrefined.valid_eq.trans hresult)).valid

/-- A start that is top is the one top frame. -/
lemma startOf_eq_top (hvalid : entry.valid = true)
    {t : FactTable g NullFrame (BranchDecision Nullity)}
    (h : (m.analysis entry).startOf t b = .ok f) (htop : (m.analysis entry).isTop f = true) :
    f = (m.analysis entry).top := by
  have hinitial : Started m entry ((m.analysis entry).initial b) := by
    unfold FlowAnalysis.initial
    split
    · exact .inr hvalid
    · exact .inl rfl
  have hstart : Started m entry f :=
    foldlM_ok (fun e _ _ _ hsofar hstep => started_joinAlong hsofar hstep) hinitial h
  refine hstart.resolve_right fun hf => ?_
  rw [(isTop_eq_false_iff (m := m)).2 hf] at htop
  cases htop

lemma potential_ascends (hentry : entryFrame m.hierarchy id method = .ok entry) :
    (m.analysis entry).Potential (Confined m entry) Ascends (potential m.learnedNumbers)
      (m.analysis entry).height where
  top := startOf_eq_top (entryFrame_shape hentry).1
  le := by
    intro b f hf
    cases hvalid : f.valid with
    | true => exact (hf.2 (isTop_eq_false_iff.2 hvalid)).potential_le
    | false =>
        rw [potential, hvalid]
        exact Nat.zero_le _
  lt := by
    intro b f f' hf hf' hascends hne
    cases hvalid : f.valid with
    | true =>
        exact potential_lt (hascends hvalid) hvalid (hf.2 (isTop_eq_false_iff.2 hvalid)).known hne
    | false =>
        -- there is one top frame only
        cases hvalid' : f'.valid with
        | true =>
            rw [potential, potential, hvalid, hvalid']
            exact Nat.succ_pos _
        | false =>
            have hf := hf.1 (by simp [analysis, hvalid])
            have hf' := hf'.1 (by simp [analysis, hvalid'])
            exact absurd (hf.trans hf'.symm) hne

/-- **When the nullness iteration gives up.** Of a method that value numbering accepts, it gives up
exactly when all passes that it is allowed succeed and change a fact, and then the start of some
block drops in one of them: the frame that is recomputed there does not lie above the frame that was
there. Without the limit it would go on for ever exactly when starts drop again and again. -/
theorem gives_up_iff
    (hnumbers : ValueTable.ofGraph g method.maxLocals method.maxStack = .ok m.numbers)
    (hentry : entryFrame m.hierarchy id method = .ok entry) :
    ((∃ limit, (m.analysis entry).solve = .error (.notConverged limit)) ↔
      (∃ t, (m.analysis entry).After (m.analysis entry).passLimit t) ∧
        ∃ n < (m.analysis entry).passLimit, (m.analysis entry).Drops Ascends n) ∧
    ((∀ n, ∃ t, (m.analysis entry).After n t) ↔
      ∀ n, ∃ k, n ≤ k ∧ (m.analysis entry).Drops Ascends k) := by
  have hpotential := potential_ascends hentry
  have hconfined := pointInvariant_confined hnumbers hentry
  refine ⟨hpotential.notConverged_iff hconfined isTop_top ?_ fun b limit hrefused => ?_,
    hpotential.endless_iff hconfined isTop_top⟩
  · have hle := Nat.mul_le_mul (le_max_left g.size 1) (Nat.le_succ (m.analysis entry).height)
    exact Nat.lt_succ_of_le hle
  · obtain ⟨_, hcause⟩ := frame_of_refused hrefused
    cases hcause

end NullModel

namespace MethodAnalysis

variable [DescriptorReader] {ctx : AnalysisContext} {c : ClassDecl} {method : Method} {body : Body}
  {g : FlowGraph} {m : NullModel g} {entry : NullFrame}

/-- The analysis of a method fails where its iteration does. -/
lemma ofMethod_error {err : Error} (hbody : method.body = some body)
    (hgraph : FlowGraph.ofBody body = .ok g) (hconfig : ctx.config = m.config)
    (hhierarchy : ctx.hierarchy = m.hierarchy) (hsummaries : ctx.summaries = m.summaries)
    (hnumbers : ValueTable.compute g method.maxLocals method.maxStack = .ok m.numbers)
    (hchecked : (if m.config.trackCheckedCalls then some <$> CheckedCalls.ofGraph g else pure none)
      = .ok m.checked)
    (hroom : allocate (method.maxLocals + method.maxStack) Nullity.bytes = .ok ())
    (hentry : entryFrame m.hierarchy (c.idOf method) method = .ok entry)
    (hsolve : (m.analysis entry).execute = .error err) :
    ofMethod ctx c method = .error (.within .nullnessDataflow err) := by
  unfold ofMethod
  rw [hbody]
  simp only [hconfig, hhierarchy, hsummaries]
  rw [bind_eq_error_iff]
  refine .inr ⟨g, hgraph, ?_⟩
  rw [bind_eq_error_iff]
  refine .inr ⟨m.numbers, hnumbers, ?_⟩
  -- the checked calls are listed or not
  split at hchecked
  all_goals
    rename_i htrack
    simp only [htrack, if_true, if_false, Bool.false_eq_true]
    rw [bind_eq_error_iff]
    refine .inr ⟨m.checked, hchecked, ?_⟩
    rw [bind_eq_error_iff]
    refine .inr ⟨(), hroom, ?_⟩
    rw [bind_eq_error_iff]
    refine .inr ⟨entry, inContext_eq_ok.2 hentry, ?_⟩
    rw [bind_eq_error_iff]
    exact .inl (by rw [hsolve]; rfl)

end MethodAnalysis

namespace NullModel

/-- The body of a method that compares a variable with null, tests it again where it is null, and
otherwise reads a static field into it and starts anew. -/
def recheckBody : Body where
  entry := 0
  exit := 3
  blocks := [⟨0, [⟨0, .load 0⟩, ⟨1, .constNull⟩, ⟨2, .ifRefEq⟩]⟩,
    ⟨1, [⟨3, .load 0⟩, ⟨4, .ifNull⟩]⟩,
    ⟨2, [⟨5, .getStatic ⟨"A", "f", "LA;"⟩⟩, ⟨6, .store 0⟩, ⟨7, .goto⟩]⟩, ⟨3, []⟩]
  edges := [⟨0, 1, .branch⟩, ⟨0, 3, .fallThrough⟩, ⟨1, 3, .branch⟩, ⟨1, 2, .fallThrough⟩,
    ⟨2, 0, .branch⟩]

/-- The parameter is annotated as not null. -/
def recheckMethod : Method where
  name := "m"
  descriptor := "(LA;)V"
  isPublic := true
  isStatic := true
  isAbstract := false
  returnMark := .unknown
  parameterMarks := [.nonNull]
  maxLocals := 1
  maxStack := 4
  body := some recheckBody
  dereferencedParameters := []

/-- The only class of a program. -/
def recheckClass : ClassDecl where
  name := "A"
  superName := none
  interfaces := []
  isInterface := false
  isAbstract := false
  isApplication := true
  fields := []
  methods := [recheckMethod]

/-- The flow graph of its body. -/
def recheck : FlowGraph := (FlowGraph.ofBody recheckBody).toOption.get (by decide +kernel)

lemma ofBody_recheck : FlowGraph.ofBody recheckBody = .ok recheck := eq_ok_get _

/-- The model of its method, without summaries. -/
def recheckModel : NullModel recheck where
  config := .default
  hierarchy := ⟨[recheckClass]⟩
  summaries := .empty
  numbers := (ValueTable.ofGraph recheck 1 4).toOption.get (by decide +kernel)
  checked := (CheckedCalls.ofGraph recheck).toOption

/-- The frame on entry, with the parameter not null. -/
def recheckEntry : NullFrame :=
  (entryFrame ⟨[recheckClass]⟩ (recheckClass.idOf recheckMethod) recheckMethod).toOption.get
    (by decide +kernel)

lemma ofGraph_recheck : ValueTable.ofGraph recheck recheckMethod.maxLocals recheckMethod.maxStack
    = .ok recheckModel.numbers :=
  eq_ok_get (by decide +kernel)

lemma compute_recheck : ValueTable.compute recheck recheckMethod.maxLocals recheckMethod.maxStack
    = .ok recheckModel.numbers :=
  ValueTable.compute_eq_ok_iff.2 ⟨by decide +kernel, by decide +kernel, ofGraph_recheck⟩

lemma checked_recheck : (if recheckModel.config.trackCheckedCalls then
    some <$> CheckedCalls.ofGraph recheck else pure none) = .ok recheckModel.checked := by
  have hchecked : CheckedCalls.ofGraph recheck
      = .ok ((CheckedCalls.ofGraph recheck).toOption.get (by decide +kernel)) :=
    eq_ok_get _
  rw [if_pos (show recheckModel.config.trackCheckedCalls = true from rfl), hchecked]
  exact congrArg Except.ok (Option.some_get _)

lemma entryFrame_recheck :
    entryFrame recheckModel.hierarchy (recheckClass.idOf recheckMethod) recheckMethod
      = .ok recheckEntry :=
  eq_ok_get (by decide +kernel)

/-- The table after the first pass: the loop has not been closed yet, and the variable is not null.
-/
def recheckFirst : FactTable recheck NullFrame (BranchDecision Nullity) :=
  ((recheckModel.analysis recheckEntry).pass
    (recheckModel.analysis recheckEntry).initialTable).toOption.get (by decide +kernel) |>.1

/-- The table after the second pass: the variable is undecided, so it is null where it is tested
again, and the loop is not closed any more. -/
def recheckSecond : FactTable recheck NullFrame (BranchDecision Nullity) :=
  ((recheckModel.analysis recheckEntry).pass recheckFirst).toOption.get (by decide +kernel) |>.1

lemma pass_initial_recheck : (recheckModel.analysis recheckEntry).pass
    (recheckModel.analysis recheckEntry).initialTable = .ok (recheckFirst, true) := by
  decide +kernel

lemma pass_first_recheck :
    (recheckModel.analysis recheckEntry).pass recheckFirst = .ok (recheckSecond, true) := by
  decide +kernel

lemma pass_second_recheck :
    (recheckModel.analysis recheckEntry).pass recheckSecond = .ok (recheckFirst, true) := by
  decide +kernel

lemma after_recheck (k : Nat) : (recheckModel.analysis recheckEntry).After (1 + 2 * k) recheckFirst :=
  .cycle (.pass .nothing pass_initial_recheck) pass_first_recheck pass_second_recheck k

lemma solve_recheck :
    (recheckModel.analysis recheckEntry).solve = .error (.notConverged 325) :=
  FlowAnalysis.solve_of_after (after_recheck 162)

lemma execute_recheck :
    (recheckModel.analysis recheckEntry).execute = .error (.notConverged 325) :=
  ((recheckModel.analysis recheckEntry).execute_eq_solve (by decide +kernel)).trans solve_recheck

theorem gives_up_iff_recheck :
    ValueTable.ofGraph recheck recheckMethod.maxLocals recheckMethod.maxStack
        = .ok recheckModel.numbers ∧
      entryFrame recheckModel.hierarchy (recheckClass.idOf recheckMethod) recheckMethod
        = .ok recheckEntry ∧
      (recheckModel.analysis recheckEntry).solve = .error (.notConverged 325) ∧
      ∃ n < 325, (recheckModel.analysis recheckEntry).Drops Ascends n :=
  ⟨ofGraph_recheck, entryFrame_recheck, solve_recheck,
    ((gives_up_iff ofGraph_recheck entryFrame_recheck).1.1 ⟨_, solve_recheck⟩).2⟩

/-- **The iteration gives up on a method that value numbering accepts** and in which all paths agree
in their depths. -/
theorem gives_up_recheck :
    ∃ g t, FlowGraph.ofBody recheckBody = .ok g ∧
      ValueTable.ofGraph g recheckMethod.maxLocals recheckMethod.maxStack = .ok t ∧
      g.DepthsAgree recheckMethod.maxLocals ∧
      MethodAnalysis.ofMethod ⟨.default, ⟨[recheckClass]⟩, .empty⟩ recheckClass recheckMethod
        = .error (.within .nullnessDataflow (.notConverged 325)) := by
  refine ⟨recheck, _, ofBody_recheck, ofGraph_recheck, ?_, ?_⟩
  · obtain ⟨s, _, hn⟩ := ValueNumbering.numbers_ofGraph ofGraph_recheck
    by_contra hdisagree
    obtain ⟨_, _, _, h⟩ := (@ValueNumbering.slotCountsDiffer_iff _ recheck 1 4).2 hdisagree
    cases hn.solve.symm.trans h
  · exact MethodAnalysis.ofMethod_error rfl ofBody_recheck (m := recheckModel) rfl rfl rfl
      compute_recheck checked_recheck rfl entryFrame_recheck execute_recheck

end NullModel

end Nullness
