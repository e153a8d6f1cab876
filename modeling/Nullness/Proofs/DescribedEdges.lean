import Mathlib.Tactic
import Nullness.Proofs.DescribedSteps

/-!
# Tests and true descriptions

What a test at the end of a block tells of the tested class holds on the edge that the test picks
(`Decided`), so the frame that the edge carries still describes the state.

* `NullModel.decided`: **the side that is picked can be taken, with a value that holds of what was
  tested**;
* `NullModel.describes_refine`: the refined frame describes the state that crosses the edge.
-/

namespace Nullness

open Machine

/-! ### What comparisons tell -/

section

variable {v w : Nullity} {x y : Cell}

lemma nullTestOutcomes_hold (h : v.Holds x) (hx : x ≠ none) :
    (x = some .null → ∃ w, (nullTestOutcomes v).1 = some w ∧ w.Holds x) ∧
      (x ≠ some .null → ∃ w, (nullTestOutcomes v).2 = some w ∧ w.Holds x) := by
  unfold nullTestOutcomes
  split
  · rename_i hnull
    have heq := h.eq_null (of_decide_eq_true hnull) hx
    exact ⟨fun hx => ⟨_, rfl, hx ▸ Nullity.holds_null⟩, fun hne => absurd heq hne⟩
  · split
    · rename_i hne
      exact ⟨fun hnull => absurd hnull (h.ne_null hne), fun _ => ⟨v, rfl, h⟩⟩
    · exact ⟨fun hx => ⟨_, rfl, hx ▸ Nullity.holds_null⟩,
        fun hne => ⟨_, rfl, Nullity.holds_of_ne_null (by decide) (by decide) hne⟩⟩

lemma nonNullOutcome_holds (h : v.Holds x) (hx : x ≠ none) (hne : x ≠ some .null) :
    ∃ w, nonNullOutcome v = some w ∧ w.Holds x := by
  unfold nonNullOutcome
  split
  · rename_i hnull
    exact absurd (h.eq_null (of_decide_eq_true hnull) hx) hne
  · split
    · exact ⟨v, rfl, h⟩
    · exact ⟨_, rfl, Nullity.holds_of_ne_null (by decide) (by decide) hne⟩

lemma comparisonOutcomes_hold (hv : v.Holds x) (hw : w.Holds y) (hx : x ≠ none) (hy : y ≠ none)
    (hdecided : v.isDecided = true) :
    (x = y → ∃ u, (comparisonOutcomes v w).1 = some u ∧ u.Holds y) ∧
      (x ≠ y → ∃ u, (comparisonOutcomes v w).2 = some u ∧ u.Holds y) := by
  unfold comparisonOutcomes
  split
  · rename_i hnull
    rw [hv.eq_null (of_decide_eq_true hnull) hx]
    obtain ⟨hequal, hdifferent⟩ := nullTestOutcomes_hold hw hy
    exact ⟨fun h => hequal h.symm, fun h => hdifferent (Ne.symm h)⟩
  · rename_i hnull
    have hne : x ≠ some .null := hv.ne_null (by
      rw [Nullity.isDecided, Bool.or_eq_true] at hdecided
      exact hdecided.resolve_left hnull)
    exact ⟨fun heq => nonNullOutcome_holds hw hy (heq ▸ hne), fun _ => ⟨w, rfl, hw⟩⟩

end

/-! ### Decisions -/

/-- The value that a decision gives to the tested class on an edge. -/
def BranchDecision.side? {V : Type} (d : BranchDecision V) : EdgeKind → Option V
  | .branch => d.taken
  | .fallThrough => d.fallThrough
  | .handledException | .unhandledException => none

/-- On an edge with a value, that value is written into the tested class. -/
lemma BranchDecision.apply_eq {V : Type} [CellValue V] {d : BranchDecision V} {kind : EdgeKind} {v : V}
    (hside : d.side? kind = some v) (before target : Option NumberedFrame) (f : Frame V) :
    d.apply kind before target f = replaceClass f d.tested before target v := by
  cases kind with
  | branch => simp only [BranchDecision.apply, show d.taken = some v from hside]
  | fallThrough => simp only [BranchDecision.apply, show d.fallThrough = some v from hside]
  | handledException | unhandledException => cases hside

/-- The edge that is picked can be taken, with a value that holds of what was tested. -/
def Decided (ν : Nat → Cell) (d : BranchDecision Nullity) (pick : Option EdgeKind) : Prop :=
  ∃ kind v, pick = some kind ∧ d.side? kind = some v ∧ v.Holds (ν d.tested)

lemma decided_of_sides {ν : Nat → Cell} {d : BranchDecision Nullity} {number : Nat}
    {taken fallThrough : Option Nullity}
    (hd : BranchDecision.ofSides? number taken fallThrough = some d) (side : Bool)
    (htaken : side = true → ∃ v, taken = some v ∧ v.Holds (ν number))
    (hfall : side = false → ∃ v, fallThrough = some v ∧ v.Holds (ν number)) :
    Decided ν d (some (if side then .branch else .fallThrough)) := by
  unfold BranchDecision.ofSides? at hd
  split at hd
  · cases hd
  cases hd
  cases side with
  | true =>
      obtain ⟨v, hv, hholds⟩ := htaken rfl
      exact ⟨.branch, v, rfl, hv, hholds⟩
  | false =>
      obtain ⟨v, hv, hholds⟩ := hfall rfl
      exact ⟨.fallThrough, v, rfl, hv, hholds⟩

namespace NullModel

open Nullness.Frame

variable {g : FlowGraph} {m : NullModel g} {b : g.Node} {index : Nat} {op : Opcode}
  {f f' : NullFrame} {ν : Nat → Cell} {s s' : State Cell} {d : BranchDecision Nullity}

/-- The value on top of the stack is the outcome of `instanceof` on a reference whose class is known:
it is zero if the reference was null. -/
def InstanceTested (m : NullModel g) (b : g.Node) (index : Nat) (f : NullFrame) (ν : Nat → Cell)
    (s : State Cell) : Prop :=
  ∀ v number, f.stack[0]? = some v → m.operand? b index 0 = some number →
    v.Holds (ν number) ∧ ν number ≠ none ∧
      (ν number = some .null → s.stack[0]? = some (some (.primitive 0)))

/-- What the frame says of an operand holds of it. -/
lemma operand_value (h : f.Describes ν s) (hassigned : none ∉ s.stack) {fromTop : Nat}
    {v : Nullity} (hv : (f.stackValue fromTop).toOption = some v) :
    ∃ x, s.stack[fromTop]? = some x ∧ v.Holds x ∧ x ≠ none := by
  cases hvalue : f.stackValue fromTop with
  | error e => simp [hvalue, Except.toOption] at hv
  | ok w =>
      obtain rfl : w = v := by simpa [hvalue, Except.toOption] using hv
      obtain ⟨x, hx, hholds⟩ := forall₂_exists_right h.stack (stackValue_eq_ok_iff.1 hvalue)
      exact ⟨x, hx, hholds, fun hnone => hassigned (hnone ▸ List.mem_of_getElem? hx)⟩

section

variable (h : f.Describes ν s) (hbefore : Numbered m b index ν s) (hassigned : none ∉ s.stack)

include h hbefore hassigned

lemma decided_nullTest {branchIfNull : Bool}
    (hd : m.decideNullTest b index branchIfNull f = some d) (before : Option Opcode) :
    Decided ν d (picked? before (if branchIfNull then .ifNull else .ifNonNull) s.stack) := by
  obtain ⟨v, hv, hd⟩ := Option.bind_eq_some_iff.1 hd
  obtain ⟨number, hnumber, hd⟩ := Option.bind_eq_some_iff.1 hd
  obtain ⟨x, hcell, hholds, hvalue⟩ := operand_value h hassigned hv
  obtain rfl : ν number = x := Option.some.inj ((meaning_operand hbefore hnumber).symm.trans hcell)
  obtain ⟨hnull, hnonNull⟩ := nullTestOutcomes_hold hholds hvalue
  rcases hs : s.stack with _ | ⟨x, rest⟩
  · simp [hs] at hcell
  obtain rfl : x = ν number := by simpa [hs] using hcell
  cases branchIfNull with
  | true =>
      exact decided_of_sides hd _ (fun hx => hnull (of_decide_eq_true hx))
        (fun hx => hnonNull (of_decide_eq_false hx))
  | false =>
      exact decided_of_sides hd _ (fun hx => hnonNull (of_decide_eq_true hx))
        (fun hx => hnull (not_not.1 (of_decide_eq_false hx)))

lemma decided_comparison {branchIfEqual : Bool}
    (hd : m.decideComparison b index branchIfEqual f = some d) (before : Option Opcode) :
    Decided ν d (picked? before (if branchIfEqual then .ifRefEq else .ifRefNe) s.stack) := by
  obtain ⟨right, hright, hd⟩ := Option.bind_eq_some_iff.1 hd
  obtain ⟨left, hleft, hd⟩ := Option.bind_eq_some_iff.1 hd
  obtain ⟨x, hx, hrightHolds, hxvalue⟩ := operand_value h hassigned hright
  obtain ⟨y, hy, hleftHolds, hyvalue⟩ := operand_value h hassigned hleft
  rcases hs : s.stack with _ | ⟨x', _ | ⟨y', rest⟩⟩
  · simp [hs] at hx
  · simp [hs] at hy
  obtain rfl : x' = x := by simpa [hs] using hx
  obtain rfl : y' = y := by simpa [hs] using hy
  have sides : ∀ {number : Nat} {equal different : Option Nullity},
      (x' = y' → ∃ v, equal = some v ∧ v.Holds (ν number)) →
      (x' ≠ y' → ∃ v, different = some v ∧ v.Holds (ν number)) →
      (if branchIfEqual then BranchDecision.ofSides? number equal different
        else BranchDecision.ofSides? number different equal) = some d →
      Decided ν d (picked? before (if branchIfEqual then .ifRefEq else .ifRefNe)
        (x' :: y' :: rest)) := by
    intro number equal different hequal hdifferent hd
    cases branchIfEqual with
    | true =>
        exact decided_of_sides hd _ (fun hxy => hequal (of_decide_eq_true hxy))
          (fun hxy => hdifferent (of_decide_eq_false hxy))
    | false =>
        exact decided_of_sides hd _ (fun hxy => hdifferent (of_decide_eq_true hxy))
          (fun hxy => hequal (not_not.1 (of_decide_eq_false hxy)))
  cases hl : left.isDecided with
  | true =>
      cases hr : right.isDecided with
      | true => simp [hl, hr] at hd
      | false =>
          simp only [hl, hr] at hd
          obtain ⟨_, ⟨⟩, hd⟩ := Option.bind_eq_some_iff.1 hd
          obtain ⟨number, hnumber, hd⟩ := Option.bind_eq_some_iff.1 hd
          obtain rfl : x' = ν number :=
            Option.some.inj (hx.symm.trans (meaning_operand hbefore hnumber))
          obtain ⟨hequal, hdifferent⟩ :=
            comparisonOutcomes_hold hleftHolds hrightHolds hyvalue hxvalue hl
          exact sides (fun heq => hequal heq.symm) (fun hne => hdifferent (Ne.symm hne))
            (by cases branchIfEqual <;> exact hd)
  | false =>
      cases hr : right.isDecided with
      | false => simp [hl, hr] at hd
      | true =>
          simp only [hl, hr] at hd
          obtain ⟨_, ⟨⟩, hd⟩ := Option.bind_eq_some_iff.1 hd
          obtain ⟨number, hnumber, hd⟩ := Option.bind_eq_some_iff.1 hd
          obtain rfl : y' = ν number :=
            Option.some.inj (hy.symm.trans (meaning_operand hbefore hnumber))
          obtain ⟨hequal, hdifferent⟩ :=
            comparisonOutcomes_hold hrightHolds hleftHolds hxvalue hyvalue hr
          exact sides hequal hdifferent (by cases branchIfEqual <;> exact hd)

end

lemma decided_instance {last : Nat} {branchIfNot : Bool} {x : Cell} {rest : List Cell}
    (hs : s.stack = x :: rest) (htested : InstanceTested m b (last - 1) f ν s)
    (hd : m.decideInstance b last branchIfNot f = some d) :
    Decided ν d (picked? (some .instanceOf) (if branchIfNot then .ifEq else .ifNe) s.stack) := by
  obtain ⟨v, hv, hd⟩ := Option.bind_eq_some_iff.1 hd
  obtain ⟨number, hnumber, hd⟩ := Option.bind_eq_some_iff.1 hd
  have hv : f.stack[0]? = some v := by
    cases hvalue : f.topValue with
    | error e => simp [hvalue, Except.toOption] at hv
    | ok w =>
        obtain rfl : w = v := by simpa [hvalue, Except.toOption] using hv
        exact topValue_eq_ok_iff.1 hvalue
  obtain ⟨hholds, hvalue, hzero⟩ := htested v number hv hnumber
  have hnonNull : x ≠ some (.primitive 0) → ∃ w, nonNullOutcome v = some w ∧ w.Holds (ν number) := by
    intro hx
    refine nonNullOutcome_holds hholds hvalue fun hnull => hx ?_
    simpa [hs] using hzero hnull
  rw [hs]
  cases branchIfNot with
  | true =>
      rw [if_pos rfl] at hd
      exact decided_of_sides hd _ (fun _ => ⟨v, rfl, hholds⟩)
        (fun hx => hnonNull (of_decide_eq_false hx))
  | false =>
      rw [if_neg (by decide)] at hd
      exact decided_of_sides hd _ (fun hx => hnonNull (of_decide_eq_true hx))
        (fun _ => ⟨v, rfl, hholds⟩)

/-- After `instanceof` its outcome is on top of the stack. -/
lemma instanceTested (h : f.Describes ν s) (hbefore : Numbered m b index ν s)
    (hassigned : none ∉ s.stack) (hmakes : Makes .instanceOf s.stack s'.stack) :
    InstanceTested m b index f ν s' := by
  intro v number hv hnumber
  have hcell := meaning_operand hbefore hnumber
  refine ⟨forall₂_getElem? h.stack hv hcell,
    fun hnone => hassigned (hnone ▸ List.mem_of_getElem? hcell), fun hnull => ?_⟩
  rw [← List.head?_eq_getElem?] at hcell ⊢
  exact hmakes (hnull ▸ hcell)

/-- The opcodes of a block from its end. -/
lemma opsBackwards_eq {i : Instruction} {last : Nat} (hlen : (g.instructions b).length = last + 1)
    (hi : (g.instructions b)[last]? = some i) :
    ∃ rest, opsBackwards b = i.op :: rest ∧ rest.head? = opBefore? g b last := by
  refine ⟨((g.ops b).take last).reverse, ?_, ?_⟩
  · have hop : (g.ops b)[last]? = some i.op := by simp [FlowGraph.ops, hi]
    have hall : g.ops b = (g.ops b).take last ++ [i.op] := by
      rw [← Option.toList_some, ← hop, ← List.take_add_one, List.take_of_length_le]
      simp [FlowGraph.ops, hlen]
    conv_lhs => rw [opsBackwards, hall]
    rw [List.reverse_append]
    rfl
  · rw [List.head?_reverse, List.getLast?_eq_getElem?, opBefore?]
    have htake : ((g.ops b).take last).length = last := by simp [FlowGraph.ops, hlen]
    split
    · rename_i hzero
      simp [hzero]
    · rw [htake, List.getElem?_take]
      rw [if_pos (by omega)]

/-- The side that is picked can be taken, with a value that holds of what was tested. -/
lemma decided [DescriptorReader] {last : Nat} {i : Instruction}
    (hlen : (g.instructions b).length = last + 1)
    (hi : (g.instructions b)[last]? = some i) (h : f.Describes ν s)
    (hbefore : Numbered m b last ν s) (hassigned : none ∉ s.stack) (hexec : Exec i.op s s')
    {beforePenultimate : Option NullFrame}
    (hinstance : opBefore? g b last = some .instanceOf → ∀ f₀, beforePenultimate = some f₀ →
      InstanceTested m b (last - 1) f₀ ν s)
    (hd : m.decide b f beforePenultimate = some d) :
    Decided ν d (picked? (opBefore? g b last) i.op s.stack) := by
  obtain ⟨rest, hops, hrest⟩ := opsBackwards_eq hlen hi
  unfold decide at hd
  obtain ⟨_, -, hd⟩ := Option.bind_eq_some_iff.1 hd
  rw [hops] at hd
  simp only [hlen, Nat.add_sub_cancel] at hd
  have compared : ∀ {branchIfNot : Bool} {before : List Opcode},
      rest = .instanceOf :: before → 1 ≤ s.stack.length →
      (beforePenultimate >>= fun f₀ => m.decideInstance b last branchIfNot f₀) = some d →
      Decided ν d (picked? (opBefore? g b last) (if branchIfNot then .ifEq else .ifNe) s.stack) := by
    intro branchIfNot before hbefore hpops hd
    obtain ⟨f₀, hf₀, hd⟩ := Option.bind_eq_some_iff.1 hd
    have hop : opBefore? g b last = some .instanceOf := by rw [← hrest, hbefore]; rfl
    rcases hs : s.stack with _ | ⟨x, below⟩
    · simp [hs] at hpops
    · rw [hop, ← hs]
      exact decided_instance hs (hinstance hop f₀ hf₀) hd
  cases hop : i.op with
  | ifNull | ifNonNull =>
      rw [hop] at hd
      exact decided_nullTest h hbefore hassigned hd _
  | ifRefEq | ifRefNe =>
      rw [hop] at hd
      exact decided_comparison h hbefore hassigned hd _
  | ifEq | ifNe =>
      rw [hop] at hd hexec
      obtain ⟨_, _, ⟨⟩, hpops, -⟩ := hexec
      rcases hbefore : rest with _ | ⟨before, rest'⟩
      · rw [hbefore] at hd
        cases hd
      · rw [hbefore] at hd
        cases before with
        | instanceOf => exact compared hbefore hpops hd
        | _ => cases hd
  | _ =>
      rw [hop] at hd
      cases hd

/-- The opcodes of which a block that ends in one may make a decision. -/
def decidingOps : List Opcode := [.ifNull, .ifNonNull, .ifRefEq, .ifRefNe, .ifEq, .ifNe]

/-- Only tests decide. -/
lemma mem_decidingOps {i : Instruction} {last : Nat} (hlen : (g.instructions b).length = last + 1)
    (hi : (g.instructions b)[last]? = some i) {beforePenultimate : Option NullFrame}
    (hd : m.decide b f beforePenultimate = some d) : i.op ∈ decidingOps := by
  obtain ⟨rest, hops, -⟩ := opsBackwards_eq hlen hi
  unfold decide at hd
  obtain ⟨_, -, hd⟩ := Option.bind_eq_some_iff.1 hd
  rw [hops] at hd
  cases hop : i.op with
  | ifNull | ifNonNull | ifRefEq | ifRefNe | ifEq | ifNe => simp [decidingOps]
  | _ =>
      rw [hop] at hd
      cases hd

/-- Tests do no more than take their operands. -/
lemma decide_isTest [DescriptorReader] {i : Instruction} {last : Nat}
    (hlen : (g.instructions b).length = last + 1)
    (hi : (g.instructions b)[last]? = some i) (hexec : Exec i.op s s')
    {beforePenultimate : Option NullFrame} (hd : m.decide b f beforePenultimate = some d) :
    ∃ count, i.op.effect = .ok ⟨count, 0⟩ ∧ s' = s.withStack (s.stack.drop count) := by
  have test : ∀ {op : Opcode} {count : Nat}, op.effect = .ok ⟨count, 0⟩ →
      (∃ effect pushed, op.effect = .ok effect ∧ effect.pops ≤ s.stack.length ∧
        pushed.length = effect.pushes ∧ s' = s.withStack (pushed ++ s.stack.drop effect.pops)) →
      ∃ count, op.effect = .ok ⟨count, 0⟩ ∧ s' = s.withStack (s.stack.drop count) := by
    rintro op count heffect ⟨effect, pushed, heffect', -, hlen, rfl⟩
    obtain rfl : ⟨count, 0⟩ = effect := Except.ok.inj (heffect.symm.trans heffect')
    obtain rfl : pushed = [] := List.eq_nil_of_length_eq_zero hlen
    exact ⟨count, heffect, rfl⟩
  have hop := mem_decidingOps hlen hi hd
  generalize i.op = op at hop hexec
  fin_cases hop <;> exact test rfl hexec

/-! ### Along an edge -/

/-- What a decision at the end of a block says is true of the state there: of the side that is
picked, and of the slots and the loads that had the tested number in front of the test. -/
structure Settled (m : NullModel g) (b : g.Node) (ν : Nat → Cell) (s : State Cell)
    (d : BranchDecision Nullity) (pick : Option EdgeKind) : Prop where
  decided : Decided ν d pick
  slots : ∀ numbers, m.numbers.factAt? b ((g.instructions b).length - 1) = some numbers →
    ∀ slot < s.slots.length, numbers.slot? slot = some d.tested →
    s.slots[slot]? = some (ν d.tested)
  loads : ∀ numbers, m.numbers.factAt? b ((g.instructions b).length - 1) = some numbers →
    ∀ l, numbers.available? l = some d.tested → s.heap (l.map ν) = ν d.tested

/-- Of locals followed by a stack from its bottom, the cells below the topmost ones stay in place when
these are taken. -/
lemma getElem?_append_drop_reverse {α : Type} {locals stack : List α} {count slot : Nat}
    (h : slot < locals.length + (stack.length - count)) :
    (locals ++ (stack.drop count).reverse)[slot]? = (locals ++ stack.reverse)[slot]? := by
  rw [List.reverse_drop]
  rcases Nat.lt_or_ge slot locals.length with hlt | hge
  · rw [List.getElem?_append_left hlt, List.getElem?_append_left hlt]
  · rw [List.getElem?_append_right hge, List.getElem?_append_right hge, List.getElem?_take,
      if_pos (by omega)]

/-- Taking operands leaves the slots below as they were. -/
lemma slots_drop {count slot : Nat} (h : slot < (s.withStack (s.stack.drop count)).slots.length) :
    (s.withStack (s.stack.drop count)).slots[slot]? = s.slots[slot]? :=
  getElem?_append_drop_reverse (by simpa [State.slots, State.withStack] using h)

/-- A decision is settled by the test that makes it. -/
lemma settled [DescriptorReader] {last : Nat} {i : Instruction}
    (hlen : (g.instructions b).length = last + 1)
    (hi : (g.instructions b)[last]? = some i) (h : f.Describes ν s)
    (hbefore : Numbered m b last ν s) (hassigned : none ∉ s.stack) (hexec : Exec i.op s s')
    {beforePenultimate : Option NullFrame}
    (hinstance : opBefore? g b last = some .instanceOf → ∀ f₀, beforePenultimate = some f₀ →
      InstanceTested m b (last - 1) f₀ ν s)
    (hd : m.decide b f beforePenultimate = some d) :
    Settled m b ν s' d (picked? (opBefore? g b last) i.op s.stack) := by
  obtain ⟨count, -, rfl⟩ := decide_isTest hlen hi hexec hd
  obtain ⟨_, hnumbers', hm⟩ := hbefore
  have hlast : (g.instructions b).length - 1 = last := by omega
  refine ⟨decided hlen hi h ⟨_, hnumbers', hm⟩ hassigned hexec hinstance hd, ?_, ?_⟩
  all_goals
    rw [hlast]
    intro numbers hnumbers
    obtain rfl := Option.some.inj (hnumbers.symm.trans hnumbers')
  · intro slot hlt hslot
    rw [slots_drop hlt]
    exact meaning_slot hm hslot
  · intro l hl
    exact hm.loads l _ hl

/-- **Writing a value into a tested class** keeps a description true if the value holds of what was
tested. -/
theorem describes_replaceClass (h : f.Describes ν s) {before target : Option NumberedFrame}
    {tested : Nat} {v : Nullity} (hv : v.Holds (ν tested))
    (hslots : ∀ numbers, before = some numbers → ∀ slot < s.slots.length,
      numbers.slot? slot = some tested → s.slots[slot]? = some (ν tested))
    (hloads : ∀ numbers, before = some numbers → ∀ l, numbers.available? l = some tested →
      s.heap (l.map ν) = ν tested)
    (htarget : ∀ numbers, target = some numbers → (∃ ν', numbers.Models ν' s) ∧
      ∀ l number, numbers.available? l = some number → s.heap (l.map ν) = ν number) :
    (replaceClass f tested before target v).Describes ν s := by
  unfold replaceClass
  split
  swap
  · exact h
  rename_i before target
  obtain ⟨⟨ν', hm⟩, havailable⟩ := htarget target rfl
  split
  swap
  · exact h
  have cells : ∀ {f : NullFrame}, f.Describes ν s → (f.mapSlots fun i old =>
      if holdsTested tested before target f.numSlots i then v else old).Describes ν s := by
    intro f h
    refine h.mapSlots fun i old x _ hx hold => ?_
    split
    swap
    · exact hold
    -- the slot belongs to the class of one that held the tested value
    rename_i htested
    obtain ⟨slot, hslot, htested⟩ := List.any_eq_true.1 htested
    simp only [Bool.and_eq_true, decide_eq_true_eq, List.mem_range] at hslot htested
    obtain ⟨⟨hbefore, hlive⟩, hclass⟩ := htested
    obtain ⟨number, hnumber⟩ := Option.isSome_iff_exists.1 hlive
    have hlt : slot < s.slots.length := by
      rw [← h.slots.length_eq, length_slots]
      omega
    have hvalue := hslots before rfl slot hlt hbefore
    rw [meaning_slot hm hnumber] at hvalue
    rw [hnumber] at hclass
    rw [meaning_slot hm hclass] at hx
    exact Option.some.inj (hx.symm.trans hvalue) ▸ hv
  split
  · exact cells h
  · rename_i number hnumber
    obtain ⟨l, hload, hnumber⟩ := Option.bind_eq_some_iff.1 hnumber
    obtain ⟨⟨_, label⟩, hfound, rfl⟩ := Option.map_eq_some_iff.1 hload
    have hlabel : label = tested := by simpa using List.find?_some hfound
    have hl : before.available? _ = some tested :=
      SortedMap.get?_eq_some_iff.2 (hlabel ▸ List.mem_of_find?_eq_some hfound)
    have hmeans := havailable _ number hnumber
    rw [hloads before rfl _ hl] at hmeans
    exact cells (h.setKnown (hmeans ▸ hv))

/-- **The refined frame describes the state that crosses the edge.** -/
theorem describes_refine {e : g.Arc} {pick : Option EdgeKind} (h : f.Describes ν s)
    (hsettled : Settled m e.source ν s d pick) (hpick : ∀ kind, pick = some kind → e.kind = kind)
    (htarget : ∀ numbers, m.numbers.startFact? e.target = some numbers →
      (∃ ν', numbers.Models ν' s) ∧
      ∀ l number, numbers.available? l = some number → s.heap (l.map ν) = ν number) :
    (m.refine e d f).Describes ν s := by
  obtain ⟨kind, v, hkind, hside, hv⟩ := hsettled.decided
  obtain rfl := hpick kind hkind
  have hreplaced := describes_replaceClass h hv hsettled.slots hsettled.loads htarget
  unfold refine
  simp only [BranchDecision.apply_eq hside]
  split
  · exact hreplaced
  · exact hreplaced.clearKnown

end NullModel

end Nullness
