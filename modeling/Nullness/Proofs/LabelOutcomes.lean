import Mathlib.Tactic
import Nullness.Proofs.PassTables

/-!
# What has come of a label

From one pass to the next a meeting may give its label to a slot that had another label before, and a
read may miss what it found before. A table tells what it has instead of such a label: the label in the
slot, or that on top of the stack (`outcome`). Up to this renaming a table says all that the next one
says: where facts met once they keep meeting, and a load that is not available does not come back.

The argument is an induction on the passes, and on the blocks of a pass in their order. It needs that
what a retreating edge brings is brought under the same labels one pass earlier: a label that is stray
at the start of a loop has not arisen in the loop, so it has gone around it before
(`Follows.stray_kept`).

* `ValueNumbering.Follows.outcome_eq`: a label that is mentioned has come about as itself;
* `ValueNumbering.Follows.covers`: **up to renaming a table says all that the next one says.**
-/

namespace Nullness

namespace ValueNumbering

open FlowGraph

variable [DescriptorReader] {g : FlowGraph} {numLocals maxStack : Nat}
  {t₀ t₁ t t' m₁ m : FactTable g OriginFact Unit} {b : g.Node} {e : g.Arc} {index slot : Nat}
  {a : ValueOrigin} {f f' u v v' : ValueFrame ValueOrigin} {pre post : List g.Node}

/-! ### Outcomes -/

/-- The label that a table has where another one would stand if facts met in a slot, or if a read
missed. -/
def outcome? (g : FlowGraph) (numLocals maxStack : Nat) (t : FactTable g OriginFact Unit) :
    ValueOrigin → Option ValueOrigin
  | .merge block slot => do
    let b ← g.node? block
    let v ← (t.get b).start
    v.slot? slot
  | .produced block index _ => do
    let b ← g.node? block
    let i ← (g.instructions b)[index]?
    let f ← (analysis g numLocals maxStack).within b (t.get b).start (index + 1)
    if i.op.readsHeap then f.topValue? else none
  | .entry _ | .handler _ => none

/-- What has come of a label in a table. -/
def outcome (g : FlowGraph) (numLocals maxStack : Nat) (t : FactTable g OriginFact Unit)
    (a : ValueOrigin) : ValueOrigin :=
  (outcome? g numLocals maxStack t a).getD a

omit [DescriptorReader] in
lemma node?_val (b : g.Node) : g.node? b = some b := by
  simp [FlowGraph.node?]

lemma outcome_of_homeless (h : home? a = none) : outcome g numLocals maxStack t a = a := by
  cases a with
  | entry | handler => rfl
  | merge | produced => cases h

lemma outcome_merge (hv : (t.get b).start = some v) (ha : v.slots[slot]? = some a) :
    outcome g numLocals maxStack t (.merge b slot) = a := by
  simp [outcome, outcome?, node?_val, hv, ValueFrame.slot?, ha]

lemma outcome_read {i : Instruction} {output : Nat} (hi : (g.instructions b)[index]? = some i)
    (hreads : i.op.readsHeap = true) (hf : FrameAt g numLocals maxStack t b (index + 1) f)
    (ha : f.topValue? = some a) :
    outcome g numLocals maxStack t (.produced b index output) = a := by
  simp [outcome, outcome?, node?_val, hi, show _ = some f from hf, hreads, ha]

lemma outcome_result {i : Instruction} {output : Nat} (hi : (g.instructions b)[index]? = some i)
    (hreads : i.op.readsHeap = false) :
    outcome g numLocals maxStack t (.produced b index output) = .produced b index output := by
  simp [outcome, outcome?, node?_val, hi, hreads]

lemma Arises.outcome_eq (h : Arises g numLocals maxStack t b a) :
    outcome g numLocals maxStack t a = a := by
  cases h with
  | entry | handler => rfl
  | met hv hslot => exact outcome_merge hv hslot
  | @made index i f f' _ hi _ hstep hnew hmention hf' =>
      obtain ⟨output, rfl⟩ := (ValueFrame.labels_step hstep a hmention).resolve_left hnew
      cases hreads : i.op.readsHeap with
      | true => exact outcome_read hi hreads hf' (ValueFrame.topValue?_of_new hstep hreads hmention hnew)
      | false => exact outcome_result hi hreads

/-- A label that is mentioned in a block where it does not arise is stray at the start. -/
lemma stray_of_mentions {block : Nat} (hhome : home? a = some block) (hne : (b : Nat) ≠ block)
    (ha : Mentions g numLocals maxStack t b a) :
    ∃ v, (t.get b).start = some v ∧ StrayIn b v a := by
  obtain ⟨index, hindex, f, hf, ha⟩ := ha
  induction index generalizing f with
  | zero =>
      refine ⟨f, frameAt_zero.1 hf, (stray_or_own b ha).resolve_right ?_⟩
      rintro ⟨slot, rfl, -⟩
      exact hne (Option.some.inj hhome)
  | succ index ih =>
      rcases arises_step hindex hf ha with ⟨f₀, hf₀, ha₀⟩ | harises
      · exact ih (by omega) f₀ hf₀ ha₀
      · exact absurd (harises.home hhome) hne

/-- The first table has no frames. -/
lemma not_frameAt_initialTable :
    ¬ FrameAt g numLocals maxStack (analysis g numLocals maxStack).initialTable b index f := by
  intro hf
  rw [FrameAt, FlowAnalysis.get_initialTable] at hf
  have htop : (analysis g numLocals maxStack).isTop
      ((analysis g numLocals maxStack).within b none index) = true :=
    FlowAnalysis.within_isTop_mono _ (by rw [FlowAnalysis.within_zero]; rfl) (Nat.zero_le index)
  rw [show (analysis g numLocals maxStack).within b none index = some f from hf] at htop
  cases htop

/-- Where a table has a frame, it is not the first one. -/
lemma follows_of_frameAt {n : Nat} (h : (analysis g numLocals maxStack).After n t)
    (hf : FrameAt g numLocals maxStack t b index f) : ∃ t₀, Follows g numLocals maxStack t₀ t := by
  cases h with
  | pass hafter hpass => exact ⟨_, _, hafter, hpass⟩
  | nothing => exact absurd hf not_frameAt_initialTable

namespace Follows

variable (hfollowed : g.Followed numLocals)

include hfollowed

/-- **A label that is mentioned has come about as itself.** -/
theorem outcome_eq (h : Follows g numLocals maxStack t t')
    (ha : Mentions g numLocals maxStack t' b a) : outcome g numLocals maxStack t' a = a := by
  have hreach : g.Reachable b := by
    obtain ⟨index, hindex, f, hf, -⟩ := ha
    exact h.reachable hindex hf
  obtain ⟨pre, post, hsplit⟩ := List.append_of_mem (mem_reversePostorder.2 hreach)
  obtain ⟨c, -, harises⟩ := h.arisen hfollowed hsplit ha
  exact harises.outcome_eq

/-! ### Around a loop -/

/-- A label that has arisen before a loop is stray at its start if it is mentioned in it. -/
lemma stray_of_spans (h : Follows g numLocals maxStack t₁ t) {mid : List g.Node}
    (hsplit : g.reversePostorder = pre ++ b :: (mid ++ post)) (hspans : g.Spans b mid) {c d : g.Node}
    (hhome : home? a = some c) (hc : c ∈ pre) (hd : d ∈ b :: mid)
    (ha : Mentions g numLocals maxStack t d a) : ∃ v, (t.get b).start = some v ∧ StrayIn b v a := by
  have hnodup := hsplit ▸ nodup_reversePostorder g
  have hne : ∀ d ∈ b :: mid, (d : Nat) ≠ c := by
    intro d hd heq
    obtain rfl : d = c := Fin.ext heq
    refine List.disjoint_of_nodup_append hnodup hc ?_
    rw [← List.cons_append]
    exact List.mem_append_left _ hd
  rcases List.mem_cons.1 hd with rfl | hmem
  · exact stray_of_mentions hhome (hne d hd) ha
  obtain ⟨before, after, hmid⟩ := List.append_of_mem hmem
  -- on the number of the blocks of the loop before this one
  induction hn : before.length using Nat.strong_induction_on generalizing d before after with
  | _ n ih =>
    obtain ⟨v, hv, hstray⟩ := stray_of_mentions hhome (hne d hd) ha
    obtain ⟨e, he, rfl, hs⟩ := hspans before d after hmid
    have hsplit' : g.reversePostorder
        = (pre ++ b :: before) ++ e.target :: (after ++ post) := by simpa [hmid] using hsplit
    have hsource : Mentions g numLocals maxStack t e.source a := by
      refine (h.stray_new hfollowed hsplit' he (List.mem_append_right _ hs) hv hstray).resolve_right ?_
      rintro rfl
      cases hhome
    rcases List.mem_cons.1 hs with heq | hs
    · exact heq ▸ stray_of_mentions hhome (hne e.source (by simp [heq])) hsource
    · obtain ⟨before', after', rfl⟩ := List.append_of_mem hs
      have hmem : e.source ∈ mid := by simp [hmid]
      exact ih before'.length (by simp [← hn]) (List.mem_cons_of_mem _ hmem) hsource hmem before' _
        (by simpa using hmid) rfl

/-- What a retreating edge brings in one pass and in the next one: a label that is stray at its target
afterwards has come of itself in both tables. -/
theorem stray_kept (h₀ : Follows g numLocals maxStack t₀ t₁) (h₁ : Follows g numLocals maxStack t₁ t)
    (h : Follows g numLocals maxStack t t') (hsplit : g.reversePostorder = pre ++ e.target :: post)
    (he : e ∈ g.edges) (hs : e.source ∉ pre) (hreach : g.Reachable e.source)
    (hv : (t'.get e.target).start = some v) (hstray : StrayIn e.target v a) :
    outcome g numLocals maxStack t₁ a = a ∧ outcome g numLocals maxStack t a = a := by
  cases hhome : home? a with
  | none => exact ⟨outcome_of_homeless hhome, outcome_of_homeless hhome⟩
  | some block =>
      have hhandler : ∀ block, a ≠ .handler block := by
        rintro block rfl
        cases hhome
      -- it arises before the loop
      obtain ⟨c, hc, harises⟩ : ∃ c ∈ pre, Arises g numLocals maxStack t' c a := by
        rcases eq_entry_or_predecessor hsplit with hentry | ⟨e', he', ht, hs'⟩
        · rw [hentry] at hv hstray
          obtain ⟨slot, rfl⟩ := labels_entryFrame ((h.joined_entry hv).stray hstray)
          cases hhome
        · rw [← ht] at hsplit hv hstray
          have ha := (h.stray_new hfollowed hsplit he' hs' hv hstray).resolve_right (hhandler _)
          obtain ⟨pre', mid, heq, hsplit'⟩ := split_before hsplit hs'
          obtain ⟨c, hc, harises⟩ := h.arisen hfollowed hsplit' ha
          exact ⟨c, mem_before heq hc, harises⟩
      obtain rfl := harises.home hhome
      -- the edge brings it now, so it is stray at the start of the loop in the table before
      have hnew := (h.stray_old hfollowed h₁ hsplit he hs hreach hv hstray).resolve_right (hhandler _)
      obtain ⟨mid, post', rfl, hspans, hmem⟩ := spans_of_retreating hsplit he rfl hreach hs
      obtain ⟨v₁, hv₁, hstray₁⟩ := h₁.stray_of_spans hfollowed hsplit hspans hhome hc hmem hnew
      -- so the edge has brought it then
      have hold :=
        (h₁.stray_old hfollowed h₀ hsplit he hs hreach hv₁ hstray₁).resolve_right (hhandler _)
      exact ⟨h₀.outcome_eq hfollowed hold, h₁.outcome_eq hfollowed hnew⟩

end Follows

/-! ### From one pass to the next -/

/-- At a point, a table says up to renaming all that another one says. -/
def CoversAt (g : FlowGraph) (numLocals maxStack : Nat) (t t' : FactTable g OriginFact Unit)
    (b : g.Node) (index : Nat) : Prop :=
  ∀ f f', FrameAt g numLocals maxStack t b index f → FrameAt g numLocals maxStack t' b index f' →
    f.Covers (outcome g numLocals maxStack t) f'

/-- From the start of a block to every point in it. -/
lemma coversAt_of_start (hstart : CoversAt g numLocals maxStack t t' b 0)
    (hindex : index ≤ (g.instructions b).length) : CoversAt g numLocals maxStack t t' b index := by
  induction index with
  | zero => exact hstart
  | succ index ih =>
      intro f f' hf hf'
      have hi := List.getElem?_eq_getElem (show index < (g.instructions b).length by omega)
      obtain ⟨f₀, hf₀, hstep⟩ := of_within_succ hi hf
      obtain ⟨f₀', hf₀', hstep'⟩ := of_within_succ hi hf'
      refine (ih (by omega) f₀ f₀' hf₀ hf₀').step hstep hstep' (fun hreads => ?_) fun hreads output =>
        outcome_result hi hreads
      obtain ⟨stack, read, -, -, rfl⟩ := ValueFrame.exists_readHeap hstep hreads
      rw [ValueFrame.readHeap_eq] at hf ⊢
      exact congrArg some (outcome_read hi hreads hf rfl).symm

lemma covers_entered (hc : f.Covers (outcome g numLocals maxStack t) f') :
    (entered e f).Covers (outcome g numLocals maxStack t) (entered e f') := by
  unfold entered
  split
  · exact ⟨hc.locals, rfl, hc.loads⟩
  · exact hc

lemma covers_entryFrame : (entryFrame numLocals).Covers (outcome g numLocals maxStack t)
    (entryFrame numLocals) where
  locals := by simp [entryFrame, outcome, outcome?]
  stack := rfl
  loads l label hl := by cases hl

/-- The visits to a block in two passes. Each frame that entered the block in the first one has become a
frame that enters it in the second one, which it covers as far as the start of the block says
anything. -/
structure Revisit (g : FlowGraph) (numLocals maxStack : Nat) (t₁ t t' m₁ m : FactTable g OriginFact Unit)
    (pre : List g.Node) (b : g.Node) : Prop where
  old : Visit g numLocals maxStack t₁ t m₁ pre b
  new : Visit g numLocals maxStack t t' m pre b
  successor : ∀ {v u}, (t'.get b).start = some v →
    some u ∈ (analysis g numLocals maxStack).inflows m₁ b →
      ∃ u' ρ, some u' ∈ (analysis g numLocals maxStack).inflows m b ∧ u.Covers ρ u' ∧
        ∀ a, StrayIn b v a → ρ a = outcome g numLocals maxStack t a

lemma exists_revisit (hfollowed : g.Followed numLocals) (h₁ : Follows g numLocals maxStack t₁ t)
    (h : Follows g numLocals maxStack t t') (hsplit : g.reversePostorder = pre ++ b :: post)
    (hold : ∀ c, ∀ index ≤ (g.instructions c).length, CoversAt g numLocals maxStack t₁ t c index)
    (hnew : ∀ c ∈ pre, ∀ index ≤ (g.instructions c).length, CoversAt g numLocals maxStack t t' c index) :
    ∃ m₁ m, Revisit g numLocals maxStack t₁ t t' m₁ m pre b := by
  obtain ⟨m₁, hvisit₁⟩ := h₁.visit hsplit
  obtain ⟨m, hvisit⟩ := h.visit hsplit
  refine ⟨m₁, m, hvisit₁, hvisit, fun {v u} hv hu => ?_⟩
  rcases FlowAnalysis.mem_inflows.1 hu with ⟨hinitial, htop⟩ | ⟨e, he, rfl, hbrings⟩
  · refine ⟨u, outcome g numLocals maxStack t, FlowAnalysis.mem_inflows.2 (.inl ⟨hinitial, htop⟩), ?_,
      fun _ _ => rfl⟩
    unfold FlowAnalysis.initial at hinitial
    split at hinitial
    · obtain rfl : u = entryFrame numLocals := Option.some.inj hinitial
      exact covers_entryFrame
    · cases hinitial
  by_cases hs : e.source ∈ pre
  · -- a predecessor that is visited earlier
    have hreach := reachable_of_before hsplit hs
    have hfull := h.full hfollowed hreach
    obtain ⟨index, f, hexit, hf, heq⟩ :=
      (brings_iff h₁.consistent (h₁.full hfollowed hreach)).1 ((hvisit₁.brings_new hs).1 hbrings)
    obtain rfl := Option.some.inj heq
    obtain ⟨f', hf'⟩ := hfull index hexit.le
    exact ⟨_, _,
      hvisit.inflow_new he hs ((brings_iff h.consistent hfull).2 ⟨index, f', hexit, hf', rfl⟩),
      covers_entered (hnew _ hs index hexit.le f f' hf hf'), fun _ _ => rfl⟩
  · -- a retreating edge
    have hbrings := (hvisit₁.brings_old hs).1 hbrings
    obtain ⟨n, hafter, hpass⟩ := h₁
    have h₁ : Follows g numLocals maxStack t₁ t := ⟨n, hafter, hpass⟩
    have hcons := (hafter.sound pointInvariant_arrived rfl).1
    obtain ⟨index, hindex, x, hx, -⟩ := exists_within_of_brings hcons hbrings
    obtain ⟨t₀, h₀⟩ := follows_of_frameAt hafter hx
    have hreach := h₀.reachable hindex hx
    have hfull := h₁.full hfollowed hreach
    obtain ⟨index, f, hexit, hf, heq⟩ := (brings_iff hcons (h₀.full hfollowed hreach)).1 hbrings
    obtain rfl := Option.some.inj heq
    obtain ⟨f', hf'⟩ := hfull index hexit.le
    refine ⟨_, _,
      hvisit.inflow_old he hs ((brings_iff h₁.consistent hfull).2 ⟨index, f', hexit, hf', rfl⟩),
      covers_entered (hold _ index hexit.le f f' hf hf'), fun a hstray => ?_⟩
    obtain ⟨hkept₁, hkept⟩ := h₀.stray_kept hfollowed h₁ h hsplit he hs hreach hv hstray
    rw [hkept₁, hkept]

namespace Revisit

variable (h : Revisit g numLocals maxStack t₁ t t' m₁ m pre b) (hv' : (t'.get b).start = some v')

include h hv'

/-- A label that is stray in a slot has come of what all frames brought there in the pass before. -/
lemma slot_old (ha : v'.slots[slot]? = some a) (hne : a ≠ .merge b slot)
    (hu : some u ∈ (analysis g numLocals maxStack).inflows m₁ b) :
    u.slots[slot]? = some (outcome g numLocals maxStack t a) := by
  obtain ⟨u', ρ, hu', hcovers, hρ⟩ := h.successor hv' hu
  have hslot := ((h.new.joined hv' hu').slots slot a ha).resolve_right hne
  rw [hcovers.slots_eq, List.getElem?_map, hslot, ← hρ a (.inl ⟨slot, ha, hne⟩)]
  rfl

/-- A load that is available was available, under what has come of the labels, in all frames that
entered in the pass before. -/
lemma load_old {l : Load ValueOrigin} {label : ValueOrigin} (hl : v'.available? l = some label)
    (hu : some u ∈ (analysis g numLocals maxStack).inflows m₁ b) :
    u.available? (l.map (outcome g numLocals maxStack t))
      = some (outcome g numLocals maxStack t label) := by
  obtain ⟨u', ρ, hu', hcovers, hρ⟩ := h.successor hv' hu
  have hload := hcovers.loads l label ((h.new.joined hv' hu').loads l label hl)
  rwa [Load.map_congr fun a ha => hρ a (.inr ⟨l, label, hl, .inl ha⟩),
    hρ label (.inr ⟨l, label, hl, .inr rfl⟩)] at hload

/-- The start of the block covers what it becomes. -/
lemma covers (hv : (t.get b).start = some v) : v.Covers (outcome g numLocals maxStack t) v' := by
  have hstart : (analysis g numLocals maxStack).startOf m₁ b = .ok (some v) := hv ▸ h.old.start
  have hshape : v.numLocals = v'.numLocals ∧ v.depth = v'.depth := by
    obtain ⟨u, hu⟩ := h.old.exists_inflow hv
    obtain ⟨u', ρ, hu', hcovers, -⟩ := h.successor hv' hu
    have hold := h.old.joined hv hu
    have hnew := h.new.joined hv' hu'
    exact ⟨by rw [hold.numLocals_eq, hcovers.numLocals_eq, hnew.numLocals_eq],
      by rw [hold.depth_eq, hcovers.depth_eq, hnew.depth_eq]⟩
  have hnum : v.numSlots = v'.numSlots := by rw [ValueFrame.numSlots, hshape.1, hshape.2]; rfl
  refine .of_slots hshape.1 (List.ext_getElem? fun slot => ?_) fun l label hl => ?_
  · rw [List.getElem?_map]
    by_cases hlt : slot < v'.numSlots
    · obtain ⟨a, ha⟩ := ValueFrame.exists_label hlt
      obtain ⟨a₀, ha₀⟩ := ValueFrame.exists_label (hnum ▸ hlt)
      rw [ha, Option.map_some]
      by_cases hne : a = .merge b slot
      · rw [ha₀, hne, outcome_merge hv ha₀]
      · refine start_slot h.old.consistent h.old.live hstart (hnum ▸ hlt) fun a' harriving => ?_
        obtain ⟨u, hu, hslot⟩ := mem_arriving.1 harriving
        exact Option.some.inj (hslot.symm.trans (h.slot_old hv' ha hne hu))
    · rw [List.getElem?_eq_none (by rw [ValueFrame.length_slots]; omega),
        List.getElem?_eq_none (by rw [ValueFrame.length_slots]; omega)]
      rfl
  · refine startOf_frame (fun u hu => ?_) (fun e he ht u hbrings => ?_)
      (fun u w f hmeet => available?_meetFrames hmeet) hstart
    · exact h.load_old hv' hl (FlowAnalysis.mem_inflows.2 (.inl ⟨hu.symm, rfl⟩))
    · exact h.load_old hv' hl (FlowAnalysis.mem_inflows.2 (.inr ⟨e, he, ht, hbrings⟩))

end Revisit

/-- Up to renaming, a table says all that the next one says. -/
lemma coversAt_of_pass (hfollowed : g.Followed numLocals) {n : Nat}
    (hafter : (analysis g numLocals maxStack).After n t) :
    ∀ {t'}, (analysis g numLocals maxStack).pass t = .ok (t', true) →
      ∀ b, ∀ index ≤ (g.instructions b).length, CoversAt g numLocals maxStack t t' b index := by
  induction hafter with
  | nothing => exact fun _ b index _ f f' hf => absurd hf not_frameAt_initialTable
  | @pass n t₁ t hafter hpass ih =>
      intro t' hpass' b
      have h₁ : Follows g numLocals maxStack t₁ t := ⟨n, hafter, hpass⟩
      have h : Follows g numLocals maxStack t t' := ⟨n + 1, .pass hafter hpass, hpass'⟩
      by_cases hb : g.Reachable b
      · refine hb.induction_listed (motive := fun b => ∀ index ≤ (g.instructions b).length,
          CoversAt g numLocals maxStack t t' b index) fun pre b post hsplit hnew index hindex => ?_
        obtain ⟨m₁, m, hrevisit⟩ := exists_revisit hfollowed h₁ h hsplit (ih hpass) hnew
        refine coversAt_of_start (fun f f' hf hf' => ?_) hindex
        exact hrevisit.covers (frameAt_zero.1 hf') (frameAt_zero.1 hf)
      · intro index hindex f f' hf
        exact absurd (h₁.reachable hindex hf) hb

namespace Follows

variable (hfollowed : g.Followed numLocals)

include hfollowed

/-- **Up to renaming, a table says all that the next one says.** -/
theorem covers (h : Follows g numLocals maxStack t t') (hindex : index ≤ (g.instructions b).length)
    (hf : FrameAt g numLocals maxStack t b index f) (hf' : FrameAt g numLocals maxStack t' b index f') :
    f.Covers (outcome g numLocals maxStack t) f' := by
  obtain ⟨n, hafter, hpass⟩ := h
  exact coversAt_of_pass hfollowed hafter hpass b index hindex f f' hf hf'

lemma revisit (h₁ : Follows g numLocals maxStack t₁ t) (h : Follows g numLocals maxStack t t')
    (hsplit : g.reversePostorder = pre ++ b :: post) :
    ∃ m₁ m, Revisit g numLocals maxStack t₁ t t' m₁ m pre b :=
  exists_revisit hfollowed h₁ h hsplit
    (fun _ _ hindex _ _ hf hf' => h₁.covers hfollowed hindex hf hf')
    (fun _ _ _ hindex _ _ hf hf' => h.covers hfollowed hindex hf hf')

end Follows

end ValueNumbering

end Nullness
