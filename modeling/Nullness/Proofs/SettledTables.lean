import Mathlib.Algebra.BigOperators.Fin
import Mathlib.Data.Fintype.BigOperators
import Mathlib.Tactic
import Nullness.Descriptor.Reader
import Nullness.Proofs.LabelOutcomes

/-!
# Value numbering that settles

A pass that changes something lets the start of some block lose something for good: the agreement of
the frames that enter it in a slot, or a load that some instruction names. There are no more slots and
instructions than the limit of the iteration counts for each block, so value numbering settles within
its limit, provided that all instructions can be followed. The code does not ask for that: an
instruction that cannot be followed closes the end of its block and the edges from there bring nothing,
though they count for the order of the blocks. A loop may then go back twice, and its label come around
every other pass, for ever.

* `ValueNumbering.Lost`: what the start of a block has lost in a table;
* `ValueNumbering.Follows.lost`: nothing that is lost comes back;
* `ValueNumbering.Follows.start_eq`: a pass in which nothing is lost changes nothing;
* `ValueTable.settles`: **value numbering settles, or frames of different size meet**;
* `ValueTable.settles_rotation`: a method for which it does not.
-/

namespace Nullness

namespace ValueFrame

variable {α : Type} [Ord α] [Std.TransOrd α] [Std.LawfulEqOrd α]

/-- Frames are equal if their slots and their available loads are. -/
lemma eq_of_slots {f g : ValueFrame α} (hlocals : f.numLocals = g.numLocals)
    (hslots : f.slots = g.slots) (hloads : ∀ l, f.available? l = g.available? l) : f = g := by
  obtain ⟨locals, stack, loads⟩ := f
  obtain ⟨locals', stack', loads'⟩ := g
  obtain ⟨rfl, h⟩ := List.append_inj hslots hlocals
  obtain rfl := List.reverse_inj.1 h
  obtain rfl : loads = loads' := SortedMap.ext_get? hloads
  rfl

end ValueFrame

lemma Load.map_eq_self {α : Type} {ρ : α → α} {l : Load α} (h : ∀ a ∈ l.labels, ρ a = a) :
    l.map ρ = l := by
  rw [show l.map ρ = l.map id from Load.map_congr h]
  cases l <;> simp [Load.map]

namespace FlowGraph

/-- An instruction of a graph by its place. -/
abbrev Place (g : FlowGraph) : Type := (b : g.Node) × Fin (g.instructions b).length

lemma card_place (g : FlowGraph) : Fintype.card g.Place = g.instructionCount := by
  rw [Fintype.card_sigma, ← sum_length_instructions, nodes, ← Fin.sum_univ_def]
  simp only [Fintype.card_fin]

end FlowGraph

namespace ValueNumbering

open FlowGraph

variable [DescriptorReader] {g : FlowGraph} {numLocals maxStack width : Nat}
  {t₁ t t' m₁ m : FactTable g OriginFact Unit} {b : g.Node} {index slot : Nat} {a : ValueOrigin}
  {f f' u v v' : ValueFrame ValueOrigin} {pre post : List g.Node}

/-! ### What a block has lost -/

/-- What the start of a block may lose: the agreement of the frames that enter it in a slot, or the
load that an instruction names. -/
abbrev Stake (g : FlowGraph) (width : Nat) : Type := g.Node × (Fin width ⊕ g.Place)

/-- What the start of a block has lost in a table. -/
def Lost (g : FlowGraph) (numLocals maxStack : Nat) (t : FactTable g OriginFact Unit) :
    Stake g width → Prop
  | (b, .inl slot) => ∃ v, (t.get b).start = some v ∧ v.slots[(slot : Nat)]? = some (.merge b slot)
  | (b, .inr ⟨c, index⟩) => ∃ v f l, (t.get b).start = some v ∧
      FrameAt g numLocals maxStack t c index f ∧
      f.named? (g.instructions c)[(index : Nat)].op = some l ∧ v.available? l = none

namespace Follows

variable (hfollowed : g.Followed numLocals)

include hfollowed

/-- A frame enters a block that does not mention the labels of the block. -/
lemma exists_inflow_without (h : Follows g numLocals maxStack t t')
    (hsplit : g.reversePostorder = pre ++ b :: post) (hvisit : Visit g numLocals maxStack t t' m pre b) :
    ∃ u, some u ∈ (analysis g numLocals maxStack).inflows m b ∧ ∀ slot, .merge b slot ∉ u.labels := by
  rcases eq_entry_or_predecessor hsplit with rfl | ⟨e, he, rfl, hs⟩
  · refine ⟨entryFrame numLocals, entryFrame_mem_inflows, fun slot hslot => ?_⟩
    obtain ⟨_, heq⟩ := labels_entryFrame hslot
    cases heq
  · obtain ⟨pre', mid, heq, hsplit'⟩ := split_before hsplit hs
    obtain ⟨index, hindex, f, hf, hbrings⟩ :=
      exists_brings h.consistent (h.full hfollowed (reachable_of_before hsplit hs))
    refine ⟨_, hvisit.inflow_new he hs hbrings, fun slot hslot => ?_⟩
    -- the label would have arisen in the block before the block is visited
    have hmention := (labels_entered hslot).resolve_right (by simp)
    obtain ⟨c, hc, harises⟩ := h.arisen hfollowed hsplit' ⟨index, hindex, f, hf, hmention⟩
    obtain rfl : c = e.target := Fin.ext (harises.home rfl)
    have hnodup := hsplit ▸ nodup_reversePostorder g
    exact List.disjoint_of_nodup_append hnodup (mem_before heq hc) List.mem_cons_self

/-- Where facts have met, they meet again. -/
lemma merge_kept (h₁ : Follows g numLocals maxStack t₁ t) (h : Follows g numLocals maxStack t t')
    (hv : (t.get b).start = some v) (hmerge : v.slots[slot]? = some (.merge b slot)) :
    ∃ v', (t'.get b).start = some v' ∧ v'.slots[slot]? = some (.merge b slot) := by
  have hreach := h₁.reachable (Nat.zero_le _) (frameAt_zero.2 hv)
  obtain ⟨v', hv'⟩ := h.full hfollowed hreach 0 (Nat.zero_le _)
  have hcovers := h.covers hfollowed (Nat.zero_le _) (frameAt_zero.2 hv) hv'
  refine ⟨v', frameAt_zero.1 hv', ?_⟩
  obtain ⟨a, ha⟩ : ∃ a, v'.slots[slot]? = some a := by
    rw [hcovers.slots_eq, List.getElem?_map, Option.map_eq_some_iff] at hmerge
    exact hmerge.imp fun _ h => h.1
  by_contra hne
  -- else all frames that entered before have carried the label of the meeting
  have hown : outcome g numLocals maxStack t a = .merge b slot := by
    rw [hcovers.slots_eq, List.getElem?_map, ha] at hmerge
    exact Option.some.inj hmerge
  obtain ⟨pre, post, hsplit⟩ := List.append_of_mem (mem_reversePostorder.2 hreach)
  obtain ⟨m₁, m, hrevisit⟩ := h₁.revisit hfollowed h hsplit
  obtain ⟨u, hu, hwithout⟩ := h₁.exists_inflow_without hfollowed hsplit hrevisit.old
  have hslot := hrevisit.slot_old (frameAt_zero.1 hv') ha (fun heq => hne (heq ▸ ha)) hu
  exact hwithout slot (ValueFrame.mem_labels_of_slot (hown ▸ hslot))

/-- The load that an instruction names stays unavailable where it was not available, under the labels
that it has then. -/
lemma unavailable_kept {c : g.Node} {op : Opcode} {l : Load ValueOrigin}
    (h₁ : Follows g numLocals maxStack t₁ t) (h : Follows g numLocals maxStack t t')
    (hv : (t.get b).start = some v) (hindex : index ≤ (g.instructions c).length)
    (hf : FrameAt g numLocals maxStack t c index f) (hnamed : f.named? op = some l)
    (hl : v.available? l = none) :
    ∃ v' f' l', (t'.get b).start = some v' ∧ FrameAt g numLocals maxStack t' c index f' ∧
      f'.named? op = some l' ∧ v'.available? l' = none := by
  obtain ⟨v', hv'⟩ :=
    h.full hfollowed (h₁.reachable (Nat.zero_le _) (frameAt_zero.2 hv)) 0 (Nat.zero_le _)
  obtain ⟨f', hf'⟩ := h.full hfollowed (h₁.reachable hindex hf) index hindex
  have hcovers := h.covers hfollowed (Nat.zero_le _) (frameAt_zero.2 hv) hv'
  rw [(h.covers hfollowed hindex hf hf').named?_eq, Option.map_eq_some_iff] at hnamed
  obtain ⟨l', hnamed', rfl⟩ := hnamed
  refine ⟨v', f', l', frameAt_zero.1 hv', hf', hnamed', ?_⟩
  refine Option.eq_none_iff_forall_ne_some.2 fun label hlabel => ?_
  cases (hcovers.loads l' label hlabel).symm.trans hl

/-- **What is lost does not come back.** -/
theorem lost (h₁ : Follows g numLocals maxStack t₁ t) (h : Follows g numLocals maxStack t t')
    {x : Stake g width} (hx : Lost g numLocals maxStack t x) : Lost g numLocals maxStack t' x := by
  obtain ⟨b, slot | ⟨c, index⟩⟩ := x
  · obtain ⟨v, hv, hmerge⟩ := hx
    exact h₁.merge_kept hfollowed h hv hmerge
  · obtain ⟨v, f, l, hv, hf, hnamed, hl⟩ := hx
    exact h₁.unavailable_kept hfollowed h hv index.2.le hf hnamed hl

/-- Where the blocks visited before have not changed, what is stray at the start of a block has come of
itself. -/
lemma outcome_of_stray (h₁ : Follows g numLocals maxStack t₁ t) (h : Follows g numLocals maxStack t t')
    (hsplit : g.reversePostorder = pre ++ b :: post)
    (hsame : ∀ c ∈ pre, (t'.get c).start = (t.get c).start) (hv' : (t'.get b).start = some v')
    (ha : StrayIn b v' a) : outcome g numLocals maxStack t a = a := by
  rcases eq_entry_or_predecessor hsplit with rfl | ⟨e, he, rfl, hs⟩
  · obtain ⟨slot, rfl⟩ := labels_entryFrame ((h.joined_entry hv').stray ha)
    rfl
  · rcases h.stray_new hfollowed hsplit he hs hv' ha with ⟨index, hindex, f, hf, ha⟩ | rfl
    · rw [FrameAt, hsame _ hs] at hf
      exact h₁.outcome_eq hfollowed ⟨index, hindex, f, hf, ha⟩
    · rfl

/-- Where nothing has been lost, the start of a block has not changed. -/
lemma start_eq_of_before (h₁ : Follows g numLocals maxStack t₁ t)
    (h : Follows g numLocals maxStack t t') (hsplit : g.reversePostorder = pre ++ b :: post)
    (hsame : ∀ c ∈ pre, (t'.get c).start = (t.get c).start) (hv : (t.get b).start = some v)
    (hv' : (t'.get b).start = some v') (hwidth : v'.numSlots ≤ width)
    (hlost : ∀ x : Stake g width, Lost g numLocals maxStack t' x → Lost g numLocals maxStack t x) :
    v' = v := by
  have hcovers := h.covers hfollowed (Nat.zero_le _) (frameAt_zero.2 hv) (frameAt_zero.2 hv')
  have hstray : ∀ a, StrayIn b v' a → outcome g numLocals maxStack t a = a := fun a ha =>
    h₁.outcome_of_stray hfollowed h hsplit hsame hv' ha
  have hloads : ∀ l label, v'.available? l = some label → v.available? l = some label := by
    intro l label hl
    have hload := hcovers.loads l label hl
    rwa [Load.map_eq_self fun a ha => hstray a (.inr ⟨l, label, hl, .inl ha⟩),
      hstray label (.inr ⟨l, label, hl, .inr rfl⟩)] at hload
  refine ValueFrame.eq_of_slots hcovers.numLocals_eq.symm (List.ext_getElem? fun slot => ?_)
    fun l => Option.ext fun label => ⟨hloads l label, fun hl => ?_⟩
  · rw [hcovers.slots_eq, List.getElem?_map]
    cases ha : v'.slots[slot]? with
    | none => rfl
    | some a =>
        refine congrArg some ?_
        by_cases hmerge : a = .merge b slot
        · have hlt : slot < width := (ValueFrame.lt_numSlots ha).trans_le hwidth
          obtain ⟨w, hw, hslot⟩ := hlost (b, .inl ⟨slot, hlt⟩) ⟨v', hv', hmerge ▸ ha⟩
          obtain rfl := Option.some.inj (hv.symm.trans hw)
          exact hmerge.trans (outcome_merge hv hslot ▸ by rw [hmerge])
        · exact (hstray a (.inl ⟨slot, ha, hmerge⟩)).symm
  · obtain ⟨c, hc, index, i, f, hi, hf, hnamed⟩ := h₁.named hfollowed hsplit hv hl
    obtain ⟨hlt, rfl⟩ := List.getElem?_eq_some_iff.1 hi
    cases hl' : v'.available? l with
    | some label' => rw [← hl, hloads l label' hl']
    | none =>
        -- the load would have been lost
        have hf' : FrameAt g numLocals maxStack t' c index f := by
          rw [FrameAt, hsame c hc]
          exact hf
        obtain ⟨w, f₁, l₁, hw, hf₁, hnamed₁, hl₁⟩ :=
          hlost (b, .inr ⟨c, ⟨index, hlt⟩⟩) ⟨v', f, l, hv', hf', hnamed, hl'⟩
        obtain rfl := Option.some.inj (hv.symm.trans hw)
        obtain rfl := hf.unique hf₁
        obtain rfl := Option.some.inj (hnamed.symm.trans hnamed₁)
        cases hl.symm.trans hl₁

/-- **A pass in which nothing is lost changes the start of no block**, if the slots of all frames are
counted. -/
theorem start_eq (hroom : ∀ n b depth, g.Arrives numLocals n b 0 depth → numLocals + depth ≤ width)
    (h₁ : Follows g numLocals maxStack t₁ t) (h : Follows g numLocals maxStack t t')
    (hlost : ∀ x : Stake g width, Lost g numLocals maxStack t' x → Lost g numLocals maxStack t x)
    (b : g.Node) : (t'.get b).start = (t.get b).start := by
  by_cases hb : g.Reachable b
  · refine hb.induction_listed (motive := fun b => (t'.get b).start = (t.get b).start)
      fun pre b post hsplit hsame => ?_
    have hb := mem_reversePostorder.1 (hsplit ▸ List.mem_append_right pre List.mem_cons_self)
    obtain ⟨v, hv⟩ := h₁.full hfollowed hb 0 (Nat.zero_le _)
    obtain ⟨v', hv'⟩ := h.full hfollowed hb 0 (Nat.zero_le _)
    obtain ⟨_, heq, hnum, n, harrives⟩ := h.live b 0 (Nat.zero_le _) (isTop_eq_false_iff.2 ⟨v', hv'⟩)
    obtain rfl := Option.some.inj (hv'.symm.trans heq)
    have hwidth : v'.numSlots ≤ width := by
      rw [ValueFrame.numSlots, hnum]
      exact hroom n b _ harrives
    rw [frameAt_zero] at hv hv'
    rw [hv, hv', h₁.start_eq_of_before hfollowed h hsplit hsame hv hv' hwidth hlost]
  · obtain ⟨n, -, hpass⟩ := h
    rw [FlowAnalysis.visitAll_get_of_notMem hpass fun hmem => hb (mem_reversePostorder.1 hmem)]

end Follows

/-! ### The number of passes -/

open Classical in
/-- All that has been lost in a table. -/
noncomputable def losses (g : FlowGraph) (numLocals maxStack width : Nat)
    (t : FactTable g OriginFact Unit) : Finset (Stake g width) :=
  Finset.univ.filter (Lost g numLocals maxStack t)

lemma mem_losses {x : Stake g width} :
    x ∈ losses g numLocals maxStack width t ↔ Lost g numLocals maxStack t x := by
  simp [losses]

lemma card_losses_le :
    (losses g numLocals maxStack width t).card ≤ g.size * (width + g.instructionCount) := by
  refine (Finset.card_le_univ _).trans_eq ?_
  rw [Fintype.card_prod, Fintype.card_fin, Fintype.card_sum, Fintype.card_fin, card_place]

/-- After the first pass, each pass that changes something loses something. -/
lemma le_card_losses (hfollowed : g.Followed numLocals)
    (hroom : ∀ n b depth, g.Arrives numLocals n b 0 depth → numLocals + depth ≤ width) :
    ∀ {n : Nat} {t : FactTable g OriginFact Unit}, (analysis g numLocals maxStack).After (n + 1) t →
      n ≤ (losses g numLocals maxStack width t).card
  | 0, _, _ => Nat.zero_le _
  | n + 1, t', h => by
      cases h with
      | @pass _ t _ hafter hpass =>
          have hle := le_card_losses hfollowed hroom hafter
          obtain ⟨t₁, h₁⟩ : ∃ t₁, Follows g numLocals maxStack t₁ t := by
            cases hafter with
            | pass hafter hpass => exact ⟨_, _, hafter, hpass⟩
          have h : Follows g numLocals maxStack t t' := ⟨_, hafter, hpass⟩
          refine hle.trans_lt (Finset.card_lt_card ((Finset.ssubset_iff_subset_ne).2 ⟨?_, ?_⟩))
          · exact fun x hx => mem_losses.2 (h₁.lost hfollowed h (mem_losses.1 hx))
          · intro heq
            obtain ⟨b, hne⟩ :=
              FlowAnalysis.pass_changed (hafter.sound pointInvariant_arrived rfl).1 hpass
            refine hne (h₁.start_eq hfollowed hroom h (fun x hx => ?_) b).symm
            exact mem_losses.1 (heq ▸ mem_losses.2 hx)

section

variable (hfollowed : g.Followed numLocals) (hroom : ∀ n b depth, g.Arrives numLocals n b 0 depth →
  depth ≤ numLocals + 2 * maxStack + 2)

include hfollowed hroom

/-- No more passes than these change something. -/
lemma le_of_after {n : Nat} (h : (analysis g numLocals maxStack).After (n + 1) t) :
    n ≤ g.size * (2 * (numLocals + maxStack) + g.instructionCount + 2) := by
  have hwidth : ∀ n b depth, g.Arrives numLocals n b 0 depth →
      numLocals + depth ≤ 2 * (numLocals + maxStack) + 2 := by
    intro n b depth harrives
    have hdepth := hroom n b depth harrives
    omega
  have hle := (le_card_losses hfollowed hwidth h).trans card_losses_le
  rwa [Nat.add_right_comm] at hle

/-- **Value numbering does not give up** if all instructions can be followed. -/
theorem solve_ne_notConverged (limit : Nat) :
    (analysis g numLocals maxStack).solve ≠ .error (.notConverged limit) := by
  intro hsolve
  rcases FlowAnalysis.solve_error_cases hsolve with ⟨n, t, -, hafter, hpass⟩ | ⟨-, t, hafter⟩
  · obtain ⟨b, hrefused⟩ := FlowAnalysis.pass_refused pointInvariant_arrived rfl hafter hpass
    obtain ⟨⟨_, _, _, herr⟩, -⟩ := of_refused hrefused
    cases herr
  · have hpos : 0 < g.size := Nat.lt_of_le_of_lt (Nat.zero_le _) g.entry.2
    have hle : max g.size 1 * (2 * (numLocals + maxStack) + g.instructionCount + 2 + 1) ≤ _ :=
      le_of_after hfollowed hroom hafter
    rw [Nat.max_eq_left hpos, Nat.mul_add, Nat.mul_one] at hle
    omega

/-- Value numbering settles within its limit. -/
lemma passes_le {s : Solution g OriginFact Unit}
    (hsolve : (analysis g numLocals maxStack).solve = .ok s) :
    s.passes ≤ g.size * (2 * (numLocals + maxStack) + g.instructionCount + 3) + 1 := by
  obtain ⟨k, t, hpasses, hafter, -⟩ := FlowAnalysis.solve_last_pass hsolve
  have hsize : 0 < g.size := Nat.lt_of_le_of_lt (Nat.zero_le _) g.entry.2
  cases k with
  | zero => omega
  | succ k =>
      have hle := le_of_after hfollowed hroom hafter
      have hmul : g.size * (2 * (numLocals + maxStack) + g.instructionCount + 3)
          = g.size * (2 * (numLocals + maxStack) + g.instructionCount + 2) + g.size := by ring
      omega

end

end ValueNumbering

/-! ### Consistent methods -/

namespace FlowGraph

variable [DescriptorReader] {g : FlowGraph} {numLocals maxStack n : Nat} {depthOf : g.Node → Nat}
  {b : g.Node} {index depth : Nat}

namespace StackConsistent

variable (hc : g.StackConsistent numLocals maxStack depthOf)
  (hunhandled : ∀ e ∈ g.edges, e.kind = .unhandledException → e.target = g.exit)
  (hexit : g.instructions g.exit = [])

include hc hunhandled hexit

/-- Every instruction of a consistent method finds what it needs, and it keeps within the stack. -/
lemma fits (h : g.Arrives numLocals n b index depth) {i : Instruction}
    (hi : (g.instructions b)[index]? = some i) :
    ∃ effect, i.op.Fits numLocals depth effect ∧ depth - effect.pops + effect.pushes ≤ maxStack := by
  have hb : b ≠ g.exit := by
    rintro rfl
    simp [hexit] at hi
  have hop : (g.ops b)[index]? = some i.op := by simp [ops, hi]
  obtain ⟨hlt, heq⟩ := List.getElem?_eq_some_iff.1 hop
  obtain ⟨last, hall⟩ := hc.runs b hb
  rw [← List.take_append_drop index (g.ops b), ← List.cons_getElem_drop_succ (h := hlt), heq] at hall
  obtain ⟨depth', hfirst, hlater⟩ := hall.of_append
  obtain rfl := hfirst.unique (hc.runs_to hunhandled h hb)
  cases hlater with
  | cons hfits hroom _ => exact ⟨_, hfits, hroom⟩

/-- A consistent method can be followed. -/
lemma followed : g.Followed numLocals := fun _ _ _ _ _ h hi =>
  (hc.fits hunhandled hexit h hi).imp fun _ h => h.1

/-- In a consistent method only an exception that leaves the method may need a cell more than the
stack has. -/
lemma depth_le (h : g.Arrives numLocals n b index depth) :
    (b ≠ g.exit → depth ≤ maxStack) ∧ depth ≤ maxStack + 1 := by
  induction h with
  | entry => exact ⟨fun _ => Nat.zero_le _, Nat.zero_le _⟩
  | @step n b index depth i effect h hi hfits _ =>
      obtain ⟨effect', hfits', hroom⟩ := hc.fits hunhandled hexit h hi
      obtain rfl := Except.ok.inj (hfits.effect_eq.symm.trans hfits'.effect_eq)
      exact ⟨fun _ => hroom, Nat.le_succ_of_le hroom⟩
  | @jump n e depth _ he _ ih =>
      have hroom := ih.1 (g.exit_final e he)
      exact ⟨fun _ => hroom, Nat.le_succ_of_le hroom⟩
  | @throw n e depth _ he hkind _ =>
      refine ⟨fun htarget => ?_, Nat.succ_le_succ (Nat.zero_le _)⟩
      have hhandled : e.kind = .handledException := by
        cases hk : e.kind with
        | handledException => rfl
        | unhandledException => exact absurd (hunhandled e he hk) htarget
        | fallThrough | branch => simp [hk, EdgeKind.isException] at hkind
      exact (hc.handled e he hhandled htarget).2

end StackConsistent

end FlowGraph

/-! ### Value numbers -/

namespace ValueTable

open ValueNumbering

/-- **Value numbering settles within its limit, or frames of different size meet**, if each instruction
to which a path leads finds what it needs and no path brings a block more cells than the limit allows
for. In particular it settles for what a verifier accepts, if all paths agree in their depths. -/
theorem settles [DescriptorReader] {g : FlowGraph} {numLocals maxStack : Nat}
    (hfollowed : g.Followed numLocals)
    (hroom : ∀ n b depth, g.Arrives numLocals n b 0 depth → depth ≤ numLocals + 2 * maxStack + 2) :
    (g.DepthsAgree numLocals → ∃ s t, (analysis g numLocals maxStack).solve = .ok s ∧
      s.passes ≤ g.size * (2 * (numLocals + maxStack) + g.instructionCount + 3) + 1 ∧
      ValueTable.ofGraph g numLocals maxStack = .ok t) ∧
    (¬ g.DepthsAgree numLocals → ∃ mine theirs block, ValueTable.ofGraph g numLocals maxStack
      = .error (.within .valueNumbering (.numbering (.slotCountsDiffer mine theirs block)))) := by
  constructor
  · intro hagree
    cases hsolve : (analysis g numLocals maxStack).solve with
    | ok s =>
        obtain ⟨t, ht⟩ : ∃ t, ValueTable.ofGraph g numLocals maxStack = .ok t := by
          rw [ValueTable.ofGraph, hsolve]
          exact ⟨_, rfl⟩
        exact ⟨s, t, rfl, passes_le hfollowed hroom hsolve, ht⟩
    | error err =>
        rcases FlowAnalysis.solve_error_cases hsolve with ⟨n, t, -, hafter, hpass⟩ | ⟨rfl, -⟩
        · obtain ⟨b, hrefused⟩ := FlowAnalysis.pass_refused pointInvariant_arrived rfl hafter hpass
          exact absurd hagree (of_refused hrefused).2
        · exact absurd hsolve (solve_ne_notConverged hfollowed hroom _)
  · intro hdisagree
    obtain ⟨mine, theirs, block, hsolve⟩ :=
      (@slotCountsDiffer_iff _ g numLocals maxStack).2 hdisagree
    refine ⟨mine, theirs, block, ?_⟩
    rw [ValueTable.ofGraph, hsolve]
    rfl

/-- A verifier accepts the loop that renews what it keeps. -/
lemma stackConsistent_renewal : renewal.StackConsistent 2 1 fun _ => 0 := by
  decide +kernel

theorem settles_renewal :
    renewal.Followed 2 ∧
      (∀ n b depth, renewal.Arrives 2 n b 0 depth → depth ≤ 2 + 2 * 1 + 2) ∧
      (renewal.DepthsAgree 2 → ∃ s t, (analysis renewal 2 1).solve = .ok s ∧
        s.passes ≤ renewal.size * (2 * (2 + 1) + renewal.instructionCount + 3) + 1 ∧
        ValueTable.ofGraph renewal 2 1 = .ok t) ∧
      (¬ renewal.DepthsAgree 2 → ∃ mine theirs block, ValueTable.ofGraph renewal 2 1
        = .error (.within .valueNumbering (.numbering (.slotCountsDiffer mine theirs block)))) := by
  have hfollowed := stackConsistent_renewal.followed (by decide) rfl
  have hroom : ∀ n b depth, renewal.Arrives 2 n b 0 depth → depth ≤ 2 + 2 * 1 + 2 := by
    intro n b depth h
    have := (stackConsistent_renewal.depth_le (by decide) rfl h).2
    omega
  exact ⟨hfollowed, hroom, settles hfollowed hroom⟩

/-! ### A loop that goes back twice -/

/-- The body of a method with the loop 2, 6, 4 of blocks. Blocks 3 and 5 come before 4 and 6, so two
edges of the loop go back. They pop the empty stack, so nothing ever comes from them. -/
def rotationBody : Body where
  entry := 0
  exit := 7
  blocks := [⟨0, [⟨0, .load 0⟩, ⟨1, .ifNull⟩]⟩, ⟨1, [⟨2, .constNull⟩, ⟨3, .store 0⟩, ⟨4, .goto⟩]⟩,
    ⟨2, [⟨5, .load 0⟩, ⟨6, .ifNull⟩]⟩, ⟨3, [⟨7, .pop⟩]⟩, ⟨4, [⟨8, .load 0⟩, ⟨9, .ifNull⟩]⟩,
    ⟨5, [⟨10, .pop⟩]⟩, ⟨6, [⟨11, .load 0⟩, ⟨12, .ifNull⟩]⟩, ⟨7, []⟩]
  edges := [⟨0, 2, .branch⟩, ⟨0, 1, .fallThrough⟩, ⟨1, 0, .branch⟩, ⟨2, 3, .fallThrough⟩,
    ⟨3, 4, .fallThrough⟩, ⟨4, 2, .branch⟩, ⟨4, 5, .fallThrough⟩, ⟨5, 6, .fallThrough⟩,
    ⟨6, 4, .branch⟩, ⟨2, 6, .branch⟩, ⟨6, 7, .fallThrough⟩]

def rotation : FlowGraph := (FlowGraph.ofBody rotationBody).toOption.get (by decide +kernel)

lemma ofBody_rotation : FlowGraph.ofBody rotationBody = .ok rotation := eq_ok_get _

/-- The table after the first pass: the variable has its number on entry. -/
def rotationFirst : FactTable rotation OriginFact Unit :=
  ((analysis rotation 1 1).pass (analysis rotation 1 1).initialTable).toOption.get
    (by decide +kernel) |>.1

/-- The table after the second pass: block 0 has met the null that block 1 stores. -/
def rotationSecond : FactTable rotation OriginFact Unit :=
  ((analysis rotation 1 1).pass rotationFirst).toOption.get (by decide +kernel) |>.1

/-- The table after the third pass: block 2 meets the number on entry, which is still underway in block
4. -/
def rotationThird : FactTable rotation OriginFact Unit :=
  ((analysis rotation 1 1).pass rotationSecond).toOption.get (by decide +kernel) |>.1

/-- The table after the fourth pass: block 4 has the number of block 2, which has lost it. -/
def rotationFourth : FactTable rotation OriginFact Unit :=
  ((analysis rotation 1 1).pass rotationThird).toOption.get (by decide +kernel) |>.1

lemma pass_initial_rotation :
    (analysis rotation 1 1).pass (analysis rotation 1 1).initialTable = .ok (rotationFirst, true) := by
  decide +kernel

lemma pass_first_rotation :
    (analysis rotation 1 1).pass rotationFirst = .ok (rotationSecond, true) := by
  decide +kernel

lemma pass_second_rotation :
    (analysis rotation 1 1).pass rotationSecond = .ok (rotationThird, true) := by
  decide +kernel

lemma pass_third_rotation :
    (analysis rotation 1 1).pass rotationThird = .ok (rotationFourth, true) := by
  decide +kernel

lemma pass_fourth_rotation :
    (analysis rotation 1 1).pass rotationFourth = .ok (rotationThird, true) := by
  decide +kernel

lemma after_rotation (k : Nat) : (analysis rotation 1 1).After (3 + 2 * k) rotationThird :=
  .cycle (.pass (.pass (.pass .nothing pass_initial_rotation) pass_first_rotation)
    pass_second_rotation) pass_third_rotation pass_fourth_rotation k

/-- **Value numbering may give up**: the number of block 2 comes around every other pass, meets the
number from block 0, and is made anew. -/
theorem settles_rotation :
    ∃ g, FlowGraph.ofBody rotationBody = .ok g ∧
      ValueTable.ofGraph g 1 1 = .error (.within .valueNumbering (.notConverged 161)) := by
  refine ⟨rotation, ofBody_rotation, ?_⟩
  rw [ValueTable.ofGraph, FlowAnalysis.solve_of_after (after_rotation 79)]
  rfl

end ValueTable

end Nullness
