import Mathlib.Tactic
import Nullness.Descriptor.Reader
import Nullness.Proofs.MetLabels

/-!
# Numbers of meeting points

Where the facts that flow into a block disagree about a slot, the slot gets the number of the
meeting. A visit only knows what the visits before it have left, though, and around a loop the number
of a meeting supports itself: the block keeps it even if all facts from elsewhere come to agree later.

* `ValueNumbering.Unmentioned.set`: a visit gives no label of a meeting unless facts disagree;
* `ValueNumbering.disagree_of_merge`: **where a label of a meeting stands, facts have disagreed**;
* `ValueNumbering.local_in_loop`: **what a local variable holds in a loop that does not store to
  it**;
* `ValueTable.merge_numbers`: both for the numbers of a table;
* `ValueTable.merge_kept_nestedLoops`: a block keeps the number of a meeting where, in the end, only
  one other number arrives.
-/

namespace Nullness

namespace ValueNumbering

open FlowGraph

/-- Two of the facts that flow into a block carry different labels in a slot, and neither of these
is the label of their meeting. -/
def Disagree {g : FlowGraph} (A : FlowAnalysis g OriginFact Unit) (t : FactTable g OriginFact Unit)
    (b : g.Node) (slot : Nat) : Prop :=
  ∃ a ∈ arriving A t b slot, ∃ a' ∈ arriving A t b slot,
    a ≠ a' ∧ a ≠ .merge b slot ∧ a' ≠ .merge b slot

/-- A label is mentioned at the start of no block. -/
def Unmentioned {g : FlowGraph} (a : ValueOrigin) (t : FactTable g OriginFact Unit) : Prop :=
  ∀ b v, (t.get b).start = some v → a ∉ v.labels

/-! ### One visit -/

section

variable {g : FlowGraph} {numLocals maxStack : Nat} {t : FactTable g OriginFact Unit} {b : g.Node}
  {u v : ValueFrame ValueOrigin} {block slot : Nat} {a : ValueOrigin}

/-- A slot keeps a label on which both frames agree. -/
lemma slots_meetFrames {f : ValueFrame ValueOrigin} (h : meetFrames block u v = .ok f)
    (hu : u.slots[slot]? = some a) (hv : v.slots[slot]? = some a) : f.slots[slot]? = some a := by
  unfold meetFrames at h
  split at h
  · cases h
  · rw [← Except.ok.inj h, ValueFrame.slots_ofSlots, List.getElem?_mapIdx,
      show (u.slots.zip v.slots)[slot]? = some (a, a) from List.getElem?_zip_eq_some.2 ⟨hu, hv⟩]
    simp [meetLabel]

/-- A handler keeps the local variables. -/
lemma slots_handlerFrame (h : slot < u.numLocals) :
    (handlerFrame block u).slots[slot]? = u.slots[slot]? := by
  rw [ValueFrame.getElem?_slots h, ValueFrame.getElem?_slots (f := handlerFrame block u) h]
  rfl

variable [DescriptorReader]

/-- A label of a meeting that a fact carries into a block is mentioned at the start of a block. -/
lemma Unmentioned.inflow (h : Unmentioned (.merge block slot) t)
    (hcons : (analysis g numLocals maxStack).Consistent t)
    (hu : some u ∈ (analysis g numLocals maxStack).inflows t b) : .merge block slot ∉ u.labels := by
  intro ha
  rcases FlowAnalysis.mem_inflows.1 hu with ⟨hinitial, -⟩ | ⟨e, -, -, hbrings⟩
  · unfold FlowAnalysis.initial at hinitial
    split at hinitial
    · obtain rfl : u = entryFrame numLocals := Option.some.inj hinitial
      obtain ⟨_, hentry⟩ := labels_entryFrame ha
      cases hentry
    · cases hinitial
  · obtain ⟨x, hx, hmention⟩ := merge_of_brings hcons hbrings ha
    exact h e.source x hx hmention

variable (hcons : (analysis g numLocals maxStack).Consistent t)
  (hlive : (analysis g numLocals maxStack).Live (WellShaped numLocals) t)
  (hstart : (analysis g numLocals maxStack).startOf t b = .ok (some v))

include hcons hlive hstart

/-- The start of a block keeps what it keeps of each fact that flows in. -/
lemma joined_of_inflow {f : OriginFact} (hf : f ∈ (analysis g numLocals maxStack).inflows t b) :
    ∃ u, f = some u ∧ Joined b u v := by
  have hbounded := pointInvariant_wellShaped.start_of joinBound_joined rfl hcons hlive hstart
  rcases FlowAnalysis.mem_inflows.1 hf with ⟨hinitial, htop⟩ | ⟨e, he, ht, hbrings⟩
  · obtain ⟨u, rfl⟩ := isTop_eq_false_iff.1 htop
    obtain ⟨_, _, ⟨⟩, ⟨⟩, hjoined⟩ := hbounded.stay (some u) (hinitial ▸ ⟨u, u, rfl, rfl, .refl _ _⟩)
    exact ⟨u, rfl, hjoined⟩
  · obtain ⟨u, _, rfl, ⟨⟩, hjoined⟩ := hbounded.arrive f ⟨e, he, ht, hbrings⟩
    exact ⟨u, rfl, hjoined⟩

/-- Each fact that flows in has a label in each slot. -/
lemma exists_arriving {f : OriginFact} (hf : f ∈ (analysis g numLocals maxStack).inflows t b)
    (hslot : slot < v.numSlots) : ∃ u a, f = some u ∧ u.slots[slot]? = some a ∧
      a ∈ arriving (analysis g numLocals maxStack) t b slot := by
  obtain ⟨u, rfl, hjoined⟩ := joined_of_inflow hcons hlive hstart hf
  have hnum : u.numSlots = v.numSlots := by
    rw [ValueFrame.numSlots, ValueFrame.numSlots, hjoined.numLocals_eq, hjoined.depth_eq]
  obtain ⟨a, ha⟩ := ValueFrame.exists_label (show slot < u.numSlots by omega)
  exact ⟨u, a, rfl, ha, mem_arriving.2 ⟨u, hf, ha⟩⟩

/-- Where all facts that flow in agree about a slot, the start of the block has their label. -/
lemma start_slot (hslot : slot < v.numSlots)
    (hall : ∀ a' ∈ arriving (analysis g numLocals maxStack) t b slot, a' = a) :
    v.slots[slot]? = some a := by
  have hinflow : ∀ u, some u ∈ (analysis g numLocals maxStack).inflows t b →
      u.slots[slot]? = some a := by
    intro u hu
    obtain ⟨_, a', ⟨⟩, ha', harriving⟩ := exists_arriving hcons hlive hstart hu hslot
    rw [ha', hall a' harriving]
  refine startOf_frame (fun u hu => hinflow u ?_) (fun e he ht u hbrings => hinflow u ?_)
    (fun u w f hmeet => slots_meetFrames hmeet) hstart
  · exact FlowAnalysis.mem_inflows.2 (.inl ⟨hu.symm, rfl⟩)
  · exact FlowAnalysis.mem_inflows.2 (.inr ⟨e, he, ht, hbrings⟩)

/-- A visit gives a slot the label of its meeting only where facts disagree. -/
lemma Unmentioned.start (h : Unmentioned (.merge block slot) t)
    (hagree : (b : Nat) = block → ¬ Disagree (analysis g numLocals maxStack) t b slot) :
    .merge block slot ∉ v.labels := by
  intro ha
  obtain ⟨f, hf⟩ := FlowAnalysis.exists_inflow entered_not_top hstart rfl
  rcases stray_or_own b ha with hstray | ⟨slot', hown, hslot⟩
  · obtain ⟨u, rfl, hjoined⟩ := joined_of_inflow hcons hlive hstart hf
    exact h.inflow hcons hf (hjoined.stray hstray)
  · obtain ⟨rfl, rfl⟩ := ValueOrigin.merge.inj hown
    have hlt : slot < v.numSlots := ValueFrame.lt_numSlots hslot
    have hnever : ∀ a ∈ arriving (analysis g numLocals maxStack) t b slot, a ≠ .merge b slot := by
      rintro a harriving rfl
      obtain ⟨u, hu, hlabel⟩ := mem_arriving.1 harriving
      exact h.inflow hcons hu (ValueFrame.mem_labels_of_slot hlabel)
    obtain ⟨u, a, rfl, -, harriving⟩ := exists_arriving hcons hlive hstart hf hlt
    -- without a disagreement all labels that arrive are this one
    have hall : ∀ a' ∈ arriving (analysis g numLocals maxStack) t b slot, a' = a := by
      intro a' harriving'
      by_contra hne
      exact hagree rfl ⟨a', harriving', a, harriving, hne, hnever a' harriving', hnever a harriving⟩
    have hsame := start_slot hcons hlive hstart hlt hall
    exact hnever a harriving (Option.some.inj (hsame.symm.trans hslot))

end

section

variable [DescriptorReader] {g : FlowGraph} {numLocals maxStack n depth : Nat}
  {s : Solution g OriginFact Unit} {t : FactTable g OriginFact Unit} {b : g.Node}
  {f v : ValueFrame ValueOrigin} {block slot : Nat}

/-! ### All visits -/

/-- Where no facts disagree a visit keeps the label of a meeting unmentioned. -/
lemma Unmentioned.set (h : Unmentioned (.merge block slot) t)
    (hcons : (analysis g numLocals maxStack).Consistent t)
    (hlive : (analysis g numLocals maxStack).Live (WellShaped numLocals) t) {start : OriginFact}
    (hstart : (analysis g numLocals maxStack).startOf t b = .ok start)
    (hagree : (b : Nat) = block → ¬ Disagree (analysis g numLocals maxStack) t b slot) :
    Unmentioned (.merge block slot)
      (t.set b ((analysis g numLocals maxStack).through b start) b.isLt) := by
  intro c w hw
  by_cases hc : c = b
  · subst hc
    rw [FlowAnalysis.get_set_self, FlowAnalysis.through_start] at hw
    subst hw
    exact h.start hcons hlive hstart hagree
  · rw [FlowAnalysis.get_set_of_ne t _ hc] at hw
    exact h c w hw

/-- **Where the label of a meeting stands, facts have disagreed** at some visit. -/
theorem disagree_of_merge {vs : List (g.Node × FactTable g OriginFact Unit)}
    (hvisited : (analysis g numLocals maxStack).Visited vs
      (analysis g numLocals maxStack).initialTable s.table)
    (hv : At g numLocals maxStack s b 0 v) (hmerge : .merge block slot ∈ v.labels) :
    ∃ c t, (c, t) ∈ vs ∧ (c : Nat) = block ∧ Disagree (analysis g numLocals maxStack) t c slot := by
  by_contra hnever
  have hkept := (hvisited.keeps (Q := fun t => ((analysis g numLocals maxStack).Consistent t ∧
      (analysis g numLocals maxStack).Live (WellShaped numLocals) t) ∧
      Unmentioned (.merge block slot) t)
    (fun c t start hmem ⟨hsound, hunmentioned⟩ hstart =>
      ⟨FlowAnalysis.visit_sound pointInvariant_wellShaped rfl t c start hsound hstart,
        hunmentioned.set hsound.1 hsound.2 hstart fun hc hdisagree =>
          hnever ⟨c, t, hmem, hc, hdisagree⟩⟩)
    ⟨⟨FlowAnalysis.consistent_initialTable rfl, FlowAnalysis.live_initialTable rfl⟩, ?_⟩).2
  · exact hkept.2 b v hv hmerge
  · intro c w hw
    rw [FlowAnalysis.get_initialTable] at hw
    cases hw

/-! ### The last visit -/

variable (hsolve : (analysis g numLocals maxStack).solve = .ok s)

include hsolve

/-- The start of a block that control is seen to reach is found under the table of the solution. -/
lemma startOf_table (hv : At g numLocals maxStack s b 0 v) :
    (analysis g numLocals maxStack).startOf s.table b = .ok (some v) := by
  obtain ⟨-, n, hpath⟩ := arrives_of_frame hsolve (Nat.zero_le _) hv
  rw [FlowAnalysis.solve_solves rfl hsolve hpath.reachable]
  exact congrArg Except.ok hv

/-- Some fact that flows into a block carries another label than that of a meeting at the block. -/
lemma exists_arriving_ne (h : g.Arrives numLocals n b 0 depth)
    (hv : At g numLocals maxStack s b 0 v) (hslot : slot < v.numSlots) :
    ∃ a ∈ arriving (analysis g numLocals maxStack) s.table b slot, a ≠ .merge b slot := by
  induction n using Nat.strong_induction_on generalizing depth with
  | _ n ih =>
    have hcons := FlowAnalysis.solve_consistent rfl hsolve
    have hlive := FlowAnalysis.solve_live pointInvariant_wellShaped rfl hsolve
    have hstart := startOf_table hsolve hv
    rcases last_arrival hsolve h with rfl | ⟨e, he, rfl, k, d, u, rfl, hsource, hbrings⟩
    · have hinflow : some (entryFrame numLocals) ∈
          (analysis g numLocals maxStack).inflows s.table g.entry :=
        FlowAnalysis.mem_inflows.2 (.inl ⟨by rw [FlowAnalysis.initial, if_pos rfl]; rfl, rfl⟩)
      obtain ⟨_, a, ⟨⟩, ha, harriving⟩ := exists_arriving hcons hlive hstart hinflow hslot
      refine ⟨a, harriving, ?_⟩
      obtain ⟨i, rfl⟩ := labels_entryFrame (ValueFrame.mem_labels_of_slot ha)
      simp
    · have hinflow : some u ∈ (analysis g numLocals maxStack).inflows s.table e.target :=
        FlowAnalysis.mem_inflows.2 (.inr ⟨e, he, rfl, hbrings⟩)
      obtain ⟨_, a, ⟨⟩, ha, harriving⟩ := exists_arriving hcons hlive hstart hinflow hslot
      by_cases hne : a = .merge e.target slot
      · -- a path with fewer edges leads to the block
        subst hne
        obtain ⟨x, hx, hmention⟩ := merge_of_brings hcons hbrings
          (ValueFrame.mem_labels_of_slot ha)
        obtain ⟨c, hc, m, hm, d', hpath⟩ := early_of_merge hsolve hsource hx hmention
        obtain rfl := Fin.ext hc
        exact ih m (Nat.lt_succ_of_le hm) hpath
      · exact ⟨a, harriving, hne⟩

/-- **Where the label of a meeting stands, the facts that flow in differ.** -/
theorem differ_of_merge (hv : At g numLocals maxStack s b 0 v)
    (hmerge : v.slots[slot]? = some (.merge b slot)) :
    ∃ a ∈ arriving (analysis g numLocals maxStack) s.table b slot,
      ∃ a' ∈ arriving (analysis g numLocals maxStack) s.table b slot, a ≠ a' := by
  have hslot : slot < v.numSlots := ValueFrame.lt_numSlots hmerge
  obtain ⟨-, n, hpath⟩ := arrives_of_frame hsolve (Nat.zero_le _) hv
  obtain ⟨a, harriving, hne⟩ := exists_arriving_ne hsolve hpath hv hslot
  by_contra hall
  push Not at hall
  have hsame := start_slot (FlowAnalysis.solve_consistent rfl hsolve)
    (FlowAnalysis.solve_live pointInvariant_wellShaped rfl hsolve) (startOf_table hsolve hv) hslot
    fun a' harriving' => hall a' harriving' a harriving
  exact hne (Option.some.inj (hsame.symm.trans hmerge))

/-! ### Loops -/

/-- A block that does not store to a local variable keeps its label. -/
lemma slot_within (hslot : slot < numLocals) (hstore : .store slot ∉ g.ops b) {index : Nat}
    (hindex : index ≤ (g.instructions b).length) (hf : At g numLocals maxStack s b index f) :
    ∃ v, At g numLocals maxStack s b 0 v ∧ f.slots[slot]? = v.slots[slot]? := by
  induction index generalizing f with
  | zero => exact ⟨f, hf, rfl⟩
  | succ index ih =>
      obtain ⟨f₀, hf₀, hstep⟩ := of_at_succ (List.getElem?_eq_getElem hindex) hf
      obtain ⟨v, hv, hkept⟩ := ih (by omega) hf₀
      have hne : (g.instructions b)[index].op ≠ .store slot := fun heq =>
        hstore (heq ▸ List.mem_map_of_mem (List.getElem_mem hindex))
      have hnum := (arrives_of_frame hsolve hindex hf).1
      have hnum₀ := (arrives_of_frame hsolve (by omega) hf₀).1
      refine ⟨v, hv, Eq.trans ?_ hkept⟩
      rw [ValueFrame.getElem?_slots (by omega), ValueFrame.getElem?_slots (by omega)]
      exact ValueFrame.getElem?_locals_step hstep hne

/-- A label is carried in a slot into a set of blocks, along an edge from outside or on entry to the
method. -/
inductive Entering {g : FlowGraph} (A : FlowAnalysis g OriginFact Unit)
    (t : FactTable g OriginFact Unit) (loop : Set g.Node) (slot : Nat) (a : ValueOrigin) : Prop
  | entry {v : ValueFrame ValueOrigin} : g.entry ∈ loop → A.entry = some v → v.slot? slot = some a →
      Entering A t loop slot a
  | edge {e : g.Arc} {v : ValueFrame ValueOrigin} : e ∈ g.edges → e.source ∉ loop → e.target ∈ loop →
      some v ∈ A.carriedAlong t e → v.slot? slot = some a → Entering A t loop slot a

/-- A label is that of a meeting at a block of a set, and stands in its slot at the start of the
block. -/
def MetIn (g : FlowGraph) (numLocals maxStack : Nat) (s : Solution g OriginFact Unit)
    (loop : Set g.Node) (slot : Nat) (a : ValueOrigin) : Prop :=
  ∃ c ∈ loop, a = .merge c slot ∧ ∃ v, At g numLocals maxStack s c 0 v ∧ v.slots[slot]? = some a

variable {loop : Set g.Node} {a : ValueOrigin}

/-- What a local variable holds at the start of a block of a loop that does not store to it. -/
lemma local_at_start (hslot : slot < numLocals) (hstore : ∀ b ∈ loop, .store slot ∉ g.ops b)
    (hb : b ∈ loop) (h : g.Arrives numLocals n b 0 depth) (hv : At g numLocals maxStack s b 0 v)
    (ha : v.slots[slot]? = some a) :
    Entering (analysis g numLocals maxStack) s.table loop slot a ∨
      MetIn g numLocals maxStack s loop slot a := by
  induction n using Nat.strong_induction_on generalizing b depth v with
  | _ n ih =>
    have hcons := FlowAnalysis.solve_consistent rfl hsolve
    rcases last_arrival hsolve h with rfl | ⟨e, he, rfl, k, d, u, rfl, hsource, hbrings⟩
    · obtain ⟨v', hv', hjoined⟩ := at_entry hsolve
      obtain rfl : v = v' := hv.unique hv'
      rcases hjoined.slots slot a ha with hentry | rfl
      · exact .inl (.entry hb rfl hentry)
      · exact .inr ⟨g.entry, hb, rfl, v, hv, ha⟩
    · obtain ⟨_, v', ⟨⟩, hv', hjoined⟩ := FlowAnalysis.flow_bound pointInvariant_wellShaped
        joinBound_joined rfl hsolve he hsource.reachable hbrings
      obtain rfl : v = v' := hv.unique hv'
      rcases hjoined.slots slot a ha with hcarried | rfl
      · by_cases hinside : e.source ∈ loop
        · -- the source has kept the label since its start, to which a path with fewer edges leads
          obtain ⟨index, hindex, x, hx, hu⟩ := exists_within_of_brings hcons hbrings
          obtain ⟨x₀, hx₀, hkept⟩ := slot_within hsolve hslot (hstore e.source hinside) hindex hx
          refine ih k (Nat.lt_succ_self k) hinside hsource hx₀ (hkept.symm.trans ?_)
          rcases hu with hu | ⟨-, hu⟩
          · rwa [Option.some.inj hu] at hcarried
          · have hnum := (arrives_of_frame hsolve hindex hx).1
            rwa [Option.some.inj hu, slots_handlerFrame (by omega)] at hcarried
        · exact .inl (.edge he hinside hb (FlowAnalysis.mem_carriedAlong.2 hbrings) hcarried)
      · exact .inr ⟨e.target, hb, rfl, v, hv, ha⟩

/-- **What a local variable holds in a loop that does not store to it**: something that it holds on
a way into the loop, or what has met there. -/
theorem local_in_loop (hslot : slot < numLocals) (hstore : ∀ b ∈ loop, .store slot ∉ g.ops b)
    (hb : b ∈ loop) {index : Nat} (hindex : index ≤ (g.instructions b).length)
    (hf : At g numLocals maxStack s b index f) :
    ∃ a, f.slots[slot]? = some a ∧ (Entering (analysis g numLocals maxStack) s.table loop slot a ∨
      MetIn g numLocals maxStack s loop slot a) := by
  obtain ⟨v, hv, hkept⟩ := slot_within hsolve hslot (hstore b hb) hindex hf
  obtain ⟨hnum, n, hpath⟩ := arrives_of_frame hsolve (Nat.zero_le _) hv
  have hlt : slot < v.numSlots := (hslot.trans_eq hnum.symm).trans_le (Nat.le_add_right _ _)
  obtain ⟨a, ha⟩ := ValueFrame.exists_label hlt
  exact ⟨a, hkept.trans ha, local_at_start hsolve hslot hstore hb hpath hv ha⟩

end

/-! ### Numbers -/

/-- The numbers that the facts flowing into a block carry in a slot. -/
def arrivingNumbers {g : FlowGraph} (A : FlowAnalysis g OriginFact Unit)
    (s : Solution g OriginFact Unit) (t : FactTable g OriginFact Unit) (b : g.Node) (slot : Nat) :
    List Nat :=
  (arriving A t b slot).map (numberOf (numbering A s))

/-- The number of what meets in a slot at the start of a block. -/
def mergeNumber {g : FlowGraph} (A : FlowAnalysis g OriginFact Unit) (s : Solution g OriginFact Unit)
    (b : g.Node) (slot : Nat) : Nat :=
  numberOf (numbering A s) (.merge b slot)

/-- The number of a slot is that of its label. -/
lemma Numbers.slot?_eq_some [DescriptorReader] {g : FlowGraph} {numLocals maxStack : Nat}
    {t : ValueTable g}
    {s : Solution g OriginFact Unit} {order : List ValueOrigin}
    (hn : Numbers t numLocals maxStack s order) {b : g.Node} {index : Nat}
    (hindex : index ≤ (g.instructions b).length) {f : NumberedFrame} (hf : t.factAt? b index = some f)
    {slot number : Nat} (hslot : f.slot? slot = some number) :
    ∃ v a, At g numLocals maxStack s b index v ∧ v.slots[slot]? = some a ∧ a ∈ order ∧
      numberOf order a = number := by
  obtain ⟨v, hv, rfl⟩ := (hn.factAt?_eq_some_iff hindex).1 hf
  rw [ValueFrame.slot?, ValueFrame.slots_map, List.getElem?_map, Option.map_eq_some_iff] at hslot
  obtain ⟨a, ha, hnumber⟩ := hslot
  have hmem := hn.mem_order hindex hv (ValueFrame.mem_labels_of_slot ha)
  exact ⟨v, a, hv, ha, hmem, hnumber⟩

end ValueNumbering

namespace ValueTable

open ValueNumbering

section

variable [DescriptorReader] {g : FlowGraph} {numLocals maxStack : Nat} {t : ValueTable g}

/-- **Where a number of a meeting comes from.** If the start of a block has the number of the
meeting in a slot, then facts that flow in have two different numbers there, and at some visit two
have had different numbers other than that of the meeting. In a loop that does not store to a local
variable, the variable has a number that it has on a way into the loop, or that of a meeting at a
block of the loop. -/
theorem merge_numbers (h : ValueTable.ofGraph g numLocals maxStack = .ok t) :
    ∃ s vs, (analysis g numLocals maxStack).solve = .ok s ∧
      (analysis g numLocals maxStack).visits s.passes (analysis g numLocals maxStack).initialTable
        = .ok vs ∧
      (∀ b slot start, t.startFact? b = some start →
        start.slot? slot = some (mergeNumber (analysis g numLocals maxStack) s b slot) →
        (∃ n ∈ arrivingNumbers (analysis g numLocals maxStack) s s.table b slot,
          ∃ n' ∈ arrivingNumbers (analysis g numLocals maxStack) s s.table b slot, n ≠ n') ∧
        ∃ visited, (b, visited) ∈ vs ∧
          ∃ n ∈ arrivingNumbers (analysis g numLocals maxStack) s visited b slot,
            ∃ n' ∈ arrivingNumbers (analysis g numLocals maxStack) s visited b slot, n ≠ n' ∧
              n ≠ mergeNumber (analysis g numLocals maxStack) s b slot ∧
              n' ≠ mergeNumber (analysis g numLocals maxStack) s b slot) ∧
      ∀ (loop : Set g.Node) (slot : Nat), slot < numLocals → (∀ b ∈ loop, .store slot ∉ g.ops b) →
        ∀ b ∈ loop, ∀ index ≤ (g.instructions b).length, ∀ f, t.factAt? b index = some f →
          ∃ n, f.slot? slot = some n ∧
            ((∃ a, Entering (analysis g numLocals maxStack) s.table loop slot a ∧
              numberOf (numbering (analysis g numLocals maxStack) s) a = n) ∨
            ∃ c ∈ loop, mergeNumber (analysis g numLocals maxStack) s c slot = n ∧
              ∃ start, t.startFact? c = some start ∧ start.slot? slot = some n) := by
  obtain ⟨s, hn⟩ := numbers_numbering h
  obtain ⟨vs, hvs, hvisited, hlast⟩ := FlowAnalysis.solve_visited rfl hn.solve
  have hdiffer : ∀ {visited b slot a a'}, (b, visited) ∈ vs →
      a ∈ arriving (analysis g numLocals maxStack) visited b slot → a ≠ a' →
      numberOf (numbering (analysis g numLocals maxStack) s) a
        ≠ numberOf (numbering (analysis g numLocals maxStack) s) a' :=
    fun hmem ha hne heq => hne (numberOf_injective (arriving_numbered hvs hvisited hmem ha) heq)
  refine ⟨s, vs, hn.solve, hvs, fun b slot start hstart hslot => ?_,
    fun loop slot hlt hstore b hb index hindex f hf => ?_⟩
  · obtain ⟨v, label, hv, hlabel, hlisted, hnumber⟩ :=
      hn.slot?_eq_some (Nat.zero_le _) hstart hslot
    obtain rfl : label = .merge b slot := numberOf_injective hlisted hnumber
    refine ⟨?_, ?_⟩
    · obtain ⟨-, n, hpath⟩ := arrives_of_frame hn.solve (Nat.zero_le _) hv
      obtain ⟨a, ha, a', ha', hne⟩ := differ_of_merge hn.solve hv hlabel
      exact ⟨_, List.mem_map_of_mem ha, _, List.mem_map_of_mem ha',
        hdiffer (hlast b hpath.reachable) ha hne⟩
    · obtain ⟨c, visited, hmem, hc, a, ha, a', ha', hne, hnot, hnot'⟩ := disagree_of_merge hvisited hv
        (ValueFrame.mem_labels_of_slot hlabel)
      obtain rfl := Fin.ext hc
      exact ⟨visited, hmem, _, List.mem_map_of_mem ha, _, List.mem_map_of_mem ha',
        hdiffer hmem ha hne, hdiffer hmem ha hnot, hdiffer hmem ha' hnot'⟩
  · obtain ⟨v, hv, rfl⟩ := (hn.factAt?_eq_some_iff hindex).1 hf
    obtain ⟨a, ha, hfrom⟩ := local_in_loop hn.solve hlt hstore hb hindex hv
    refine ⟨_, ValueFrame.slot?_map _ v ha, hfrom.imp (fun hentering => ⟨a, hentering, rfl⟩) ?_⟩
    rintro ⟨c, hc, rfl, w, hw, hlabel⟩
    exact ⟨c, hc, rfl, _, (hn.factAt?_eq_some_iff (Nat.zero_le _)).2 ⟨w, hw, rfl⟩,
      ValueFrame.slot?_map _ w hlabel⟩

end

/-- The body of a method with two loops, one in the other. A round of the outer loop stores to a
local variable, the inner loop does not. -/
def nestedLoopsBody : Body where
  entry := 0
  exit := 4
  blocks := [⟨0, [⟨0, .nop⟩]⟩, ⟨1, [⟨1, .load 1⟩, ⟨2, .ifEq⟩]⟩, ⟨2, [⟨3, .load 1⟩, ⟨4, .ifEq⟩]⟩,
    ⟨3, [⟨5, .constPrimitive⟩, ⟨6, .store 0⟩, ⟨7, .goto⟩]⟩, ⟨4, []⟩]
  edges := [⟨0, 1, .fallThrough⟩, ⟨1, 4, .branch⟩, ⟨1, 2, .fallThrough⟩, ⟨2, 2, .branch⟩,
    ⟨2, 3, .fallThrough⟩, ⟨3, 1, .branch⟩]

/-- The flow graph of this body. -/
def nestedLoops : FlowGraph :=
  (FlowGraph.ofBody nestedLoopsBody).toOption.get (by decide +kernel)

/-- The block where a round of the outer loop begins. -/
def outerLoop : nestedLoops.Node := ⟨1, by decide +kernel⟩

/-- The block that is the inner loop. -/
def innerLoop : nestedLoops.Node := ⟨2, by decide +kernel⟩

/-- At some visit to the inner loop, what came from outside and what came around differed. -/
theorem merge_numbers_nestedLoops : ∃ t s vs, ValueTable.ofGraph nestedLoops 2 1 = .ok t ∧
    (analysis nestedLoops 2 1).solve = .ok s ∧
    (analysis nestedLoops 2 1).visits s.passes (analysis nestedLoops 2 1).initialTable = .ok vs ∧
    ∃ visited, (innerLoop, visited) ∈ vs ∧
      ∃ n ∈ arrivingNumbers (analysis nestedLoops 2 1) s visited innerLoop 0,
        ∃ n' ∈ arrivingNumbers (analysis nestedLoops 2 1) s visited innerLoop 0, n ≠ n' ∧
          n ≠ mergeNumber (analysis nestedLoops 2 1) s innerLoop 0 ∧
          n' ≠ mergeNumber (analysis nestedLoops 2 1) s innerLoop 0 := by
  have ht : ValueTable.ofGraph nestedLoops 2 1
      = .ok ((ValueTable.ofGraph nestedLoops 2 1).toOption.get (by decide +kernel)) := eq_ok_get _
  have hsolve : (analysis nestedLoops 2 1).solve
      = .ok ((analysis nestedLoops 2 1).solve.toOption.get (by decide +kernel)) := eq_ok_get _
  obtain ⟨s, vs, hs, hvs, hmerge, -⟩ := merge_numbers ht
  obtain rfl := Except.ok.inj (hsolve.symm.trans hs)
  obtain ⟨start, hstart, hslot⟩ : ∃ f, ((ValueTable.ofGraph nestedLoops 2 1).toOption.get
      (by decide +kernel)).startFact? innerLoop = some f ∧
        decide (f.slot? 0 = some (mergeNumber (analysis nestedLoops 2 1)
          ((analysis nestedLoops 2 1).solve.toOption.get (by decide +kernel)) innerLoop 0)) = true :=
    Option.map_eq_some_iff.1 (by decide +kernel)
  exact ⟨_, _, vs, ht, hs, hvs, (hmerge _ 0 start hstart (of_decide_eq_true hslot)).2⟩

/-- **A number of a meeting stays when the facts come to agree.** The inner loop does not store to
the variable, and all facts from outside carry one number, but inside the loop it has another. -/
theorem merge_kept_nestedLoops : ∃ t s, ValueTable.ofGraph nestedLoops 2 1 = .ok t ∧
    (analysis nestedLoops 2 1).solve = .ok s ∧ ∃ start before,
      t.startFact? innerLoop = some start ∧ t.factAt? outerLoop 2 = some before ∧
      start.slot? 0 = some (mergeNumber (analysis nestedLoops 2 1) s innerLoop 0) ∧
      (¬ ∃ n ∈ arrivingNumbers (analysis nestedLoops 2 1) s s.table innerLoop 0,
        ∃ n' ∈ arrivingNumbers (analysis nestedLoops 2 1) s s.table innerLoop 0, n ≠ n' ∧
          n ≠ mergeNumber (analysis nestedLoops 2 1) s innerLoop 0 ∧
          n' ≠ mergeNumber (analysis nestedLoops 2 1) s innerLoop 0) ∧
      .store 0 ∉ nestedLoops.ops innerLoop ∧
      (∀ e ∈ nestedLoops.edges, e.target = innerLoop → e.source ≠ innerLoop →
        e.source = outerLoop) ∧ start.slot? 0 ≠ before.slot? 0 := by
  have ht : ValueTable.ofGraph nestedLoops 2 1
      = .ok ((ValueTable.ofGraph nestedLoops 2 1).toOption.get (by decide +kernel)) := eq_ok_get _
  have hsolve : (analysis nestedLoops 2 1).solve
      = .ok ((analysis nestedLoops 2 1).solve.toOption.get (by decide +kernel)) := eq_ok_get _
  obtain ⟨start, hstart, hmerge⟩ : ∃ f, ((ValueTable.ofGraph nestedLoops 2 1).toOption.get
      (by decide +kernel)).startFact? innerLoop = some f ∧ decide (f.slot? 0 = some 4) = true :=
    Option.map_eq_some_iff.1 (by decide +kernel)
  obtain ⟨before, hbefore, hentry⟩ : ∃ f, ((ValueTable.ofGraph nestedLoops 2 1).toOption.get
      (by decide +kernel)).factAt? outerLoop 2 = some f ∧ decide (f.slot? 0 = some 3) = true :=
    Option.map_eq_some_iff.1 (by decide +kernel)
  have hnumber : mergeNumber (analysis nestedLoops 2 1)
      ((analysis nestedLoops 2 1).solve.toOption.get (by decide +kernel)) innerLoop 0 = 4 := by
    decide +kernel
  refine ⟨_, _, ht, hsolve, start, before, hstart, hbefore, ?_, by decide +kernel,
    by decide +kernel, by decide +kernel, ?_⟩
  · rw [hnumber]
    exact of_decide_eq_true hmerge
  · rw [of_decide_eq_true hmerge, of_decide_eq_true hentry]
    decide

end ValueTable

end Nullness
