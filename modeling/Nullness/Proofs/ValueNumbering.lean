import Mathlib.Tactic
import Nullness.Descriptor.Reader
import Nullness.Proofs.Meaning
import Nullness.Proofs.Provenance
import Nullness.Proofs.Solution
import Nullness.ValueNumber.Table

/-!
# Equal numbers denote equal values

The facts of value numbering are followed along a run of the machine. Each label means the value that
its event produced last; by then no earlier value of the event is mentioned any more
(`Births.not_mentioned`, `Births.not_stray`), so the frames keep modelling the states.

* `ValueNumbering.Joined`: what the frame at the start of a block says of a frame that arrives there;
* `ValueNumbering.models_step`, `ValueNumbering.models_jump`: from one point of a run to the next;
* `ValueTable.equal_numbers`: **slots with equal numbers hold equal values.**
-/

namespace Nullness

open Machine

namespace ValueNumbering

/-! ### Where frames meet -/

/-- What the frame at the start of a block keeps of a frame that arrives there: its shape, its labels
in those slots that have not got a label of the block, and some of its available loads. -/
structure Joined (block : Nat) (carried start : ValueFrame ValueOrigin) : Prop where
  numLocals_eq : start.numLocals = carried.numLocals
  depth_eq : start.depth = carried.depth
  slots : ∀ (i : Nat) (a : ValueOrigin), start.slots[i]? = some a →
    carried.slots[i]? = some a ∨ a = .merge block i
  loads : ∀ l label, start.available? l = some label → carried.available? l = some label

/-- A label that is mentioned at the start of a block, but not as the label that a slot has got
there. -/
def StrayIn (block : Nat) (f : ValueFrame ValueOrigin) (a : ValueOrigin) : Prop :=
  (∃ i, f.slots[i]? = some a ∧ a ≠ .merge block i) ∨
    ∃ l label, f.available? l = some label ∧ (a ∈ l.labels ∨ a = label)

namespace Joined

variable {block : Nat} {f f' f'' : ValueFrame ValueOrigin}

lemma refl (block : Nat) (f : ValueFrame ValueOrigin) : Joined block f f :=
  ⟨rfl, rfl, fun _ _ h => .inl h, fun _ _ h => h⟩

lemma trans (h : Joined block f f') (h' : Joined block f' f'') : Joined block f f'' where
  numLocals_eq := h'.numLocals_eq.trans h.numLocals_eq
  depth_eq := h'.depth_eq.trans h.depth_eq
  slots i a ha := (h'.slots i a ha).elim (h.slots i a) .inr
  loads l label hl := h.loads l label (h'.loads l label hl)

/-- A stray label has arrived with the frame. -/
lemma stray (h : Joined block f f') {a : ValueOrigin} (ha : StrayIn block f' a) : a ∈ f.labels := by
  rcases ha with ⟨i, hi, hne⟩ | ⟨l, label, hl, ha | rfl⟩
  · have hslot := (h.slots i a hi).resolve_right hne
    exact ValueFrame.mem_labels_of_slot hslot
  · exact ValueFrame.mem_labels_of_load (h.loads l label hl) ha
  · exact ValueFrame.mem_labels_of_available (h.loads l a hl)

/-- The frame at the start of a block models the state that arrives, once the labels of the block
mean what their slots hold. -/
lemma models {V : Type} (h : Joined block f f')
    (hstray : ∀ slot, ¬ StrayIn block f' (.merge block slot)) {ρ : ValueOrigin → V} {s : State V}
    (hm : f.Models ρ s) :
    ∃ ρ', AgreeBut (fun a => ∃ slot, a = .merge block slot) ρ ρ' ∧ f'.Models ρ' s := by
  have hinj : Function.Injective (ValueOrigin.merge block) := fun i j hij => by
    simpa using hij
  obtain ⟨ρ', hagree, hmeans⟩ := exists_meaning hinj ρ s.slots
  have hagree : AgreeBut (fun a => ∃ slot, a = .merge block slot) ρ ρ' :=
    hagree.mono fun a ⟨slot, _, ha⟩ => ⟨slot, ha⟩
  have hold : ∀ a, StrayIn block f' a → ρ' a = ρ a := fun a ha =>
    hagree a fun ⟨slot, hslot⟩ => hstray slot (hslot ▸ ha)
  refine ⟨ρ', hagree, .of_slots ?_ ?_ fun l label hl => ?_⟩
  · rw [h.numLocals_eq, hm.length_locals]
  · apply List.ext_getElem
    · rw [List.length_map, ← hm.slots_eq, List.length_map, ValueFrame.length_slots,
        ValueFrame.length_slots, ValueFrame.numSlots, ValueFrame.numSlots, h.numLocals_eq,
        h.depth_eq]
    · intro i hi hi'
      have hlt : i < f'.slots.length := by simpa using hi
      have hget : f'.slots[i]? = some f'.slots[i] := List.getElem?_eq_getElem hlt
      rw [List.getElem_map]
      by_cases hne : f'.slots[i] = .merge block i
      · rw [hne]
        exact hmeans i _ (List.getElem?_eq_getElem hi')
      · have hcarried := (h.slots i _ hget).resolve_right hne
        have hvalue : s.slots[i]? = some (ρ f'.slots[i]) := by
          rw [← hm.slots_eq, List.getElem?_map, hcarried]; rfl
        rw [hold _ (.inl ⟨i, hget, hne⟩)]
        rw [List.getElem?_eq_getElem hi'] at hvalue
        exact (Option.some.inj hvalue).symm
  · rw [Load.map_congr fun a ha => hold a (.inr ⟨l, label, hl, .inl ha⟩),
      hold label (.inr ⟨l, label, hl, .inr rfl⟩)]
    exact hm.loads l label (h.loads l label hl)

end Joined

/-- A label that is mentioned at the start of a block is stray there, or the label that a slot has got
there. -/
lemma stray_or_own (block : Nat) {f : ValueFrame ValueOrigin} {a : ValueOrigin} (ha : a ∈ f.labels) :
    StrayIn block f a ∨ ∃ slot, a = .merge block slot ∧ f.slots[slot]? = some a := by
  rcases List.mem_append.1 ha with hslot | hload
  · obtain ⟨i, hi⟩ := List.mem_iff_getElem?.1 hslot
    by_cases hne : a = .merge block i
    · exact .inr ⟨i, hne, hi⟩
    · exact .inl (.inl ⟨i, hi, hne⟩)
  · obtain ⟨⟨l, label⟩, hmem, ha⟩ := List.mem_flatMap.1 hload
    have hl : f.available? l = some label := SortedMap.get?_eq_some_iff.2 hmem
    exact .inl (.inr ⟨l, label, hl, by simpa using ha⟩)

lemma stray_or_merge (block : Nat) {f : ValueFrame ValueOrigin} {a : ValueOrigin}
    (ha : a ∈ f.labels) : StrayIn block f a ∨ ∃ slot, a = .merge block slot :=
  (stray_or_own block ha).imp_right fun ⟨slot, hown, _⟩ => ⟨slot, hown⟩

/-- Of the frames that meet at a block the start of the block keeps what it keeps of an arrival. -/
lemma meetFrames_joined {block : Nat} {sofar carried f : ValueFrame ValueOrigin}
    (hlocals : sofar.numLocals = carried.numLocals) (h : meetFrames block sofar carried = .ok f) :
    Joined block sofar f ∧ Joined block carried f := by
  unfold meetFrames at h
  split at h
  · cases h
  rename_i hcount
  rw [ne_eq, not_not] at hcount
  simp only [Except.ok.injEq] at h
  have hlen : ((sofar.slots.zip carried.slots).mapIdx fun slot labels =>
      meetLabel block slot labels.1 labels.2).length = sofar.numSlots := by simp [hcount]
  have hnumLocals : f.numLocals = sofar.numLocals := by
    rw [← h, ValueFrame.numLocals_ofSlots]
    rw [hlen, ValueFrame.numSlots]
    omega
  have hnumSlots : f.numSlots = sofar.numSlots := by
    rw [← ValueFrame.length_slots, ← h, ValueFrame.slots_ofSlots, hlen]
  have hslots : ∀ i a, f.slots[i]? = some a → ∃ mine theirs, sofar.slots[i]? = some mine ∧
      carried.slots[i]? = some theirs ∧ a = meetLabel block i mine theirs := by
    intro i a ha
    rw [← h, ValueFrame.slots_ofSlots, List.getElem?_mapIdx, Option.map_eq_some_iff] at ha
    obtain ⟨⟨mine, theirs⟩, hzip, rfl⟩ := ha
    rw [List.getElem?_zip_eq_some] at hzip
    exact ⟨mine, theirs, hzip.1, hzip.2, rfl⟩
  have hloads : ∀ l label, f.available? l = some label →
      sofar.available? l = some label ∧ carried.available? l = some label := by
    intro l label hl
    rw [← h, ValueFrame.available?, ValueFrame.ofSlots, SortedMap.get?_filter,
      Option.filter_eq_some_iff] at hl
    exact ⟨hl.1, of_decide_eq_true hl.2⟩
  have hdepth : sofar.depth = carried.depth ∧ f.depth = sofar.depth := by
    simp only [ValueFrame.numSlots] at hcount hnumSlots
    omega
  refine ⟨⟨hnumLocals, hdepth.2, fun i a ha => ?_, fun l label hl => (hloads l label hl).1⟩,
    ⟨hnumLocals.trans hlocals, hdepth.2.trans hdepth.1, fun i a ha => ?_,
      fun l label hl => (hloads l label hl).2⟩⟩
  all_goals
    obtain ⟨mine, theirs, hmine, htheirs, rfl⟩ := hslots i a ha
    unfold meetLabel
    split
    · rename_i heq
      exact .inl (by simp [hmine, htheirs, heq])
    · exact .inr rfl

/-! ### The solved analysis -/

section

variable [DescriptorReader] {g : FlowGraph} {numLocals maxStack : Nat}

/-- A fact is a frame with the locals of the method. -/
def WellShaped (numLocals : Nat) (_ : g.Node) (_ : Nat) (f : OriginFact) : Prop :=
  ∃ v, f = some v ∧ v.numLocals = numLocals

lemma isTop_eq_false_iff {f : OriginFact} :
    (analysis g numLocals maxStack).isTop f = false ↔ ∃ v, f = some v := by
  simp [analysis, Option.isNone_eq_false_iff, Option.isSome_iff_exists]

omit [DescriptorReader] in
/-- What meets is a fact and none, or two frames. -/
lemma meetFacts_eq_ok {block : Nat} {sofar carried f : OriginFact}
    (h : meetFacts block sofar carried = .ok f) :
    carried = none ∧ f = sofar ∨ sofar = none ∧ f = carried ∨
      ∃ u v w, sofar = some u ∧ carried = some v ∧ f = some w ∧ meetFrames block u v = .ok w := by
  cases carried with
  | none => exact .inl ⟨rfl, by simpa [meetFacts, eq_comm] using h⟩
  | some v =>
      cases sofar with
      | none => exact .inr (.inl ⟨rfl, by simpa [meetFacts, eq_comm] using h⟩)
      | some u =>
          cases hmeet : meetFrames block u v with
          | error e => simp [meetFacts, hmeet, Except.map] at h
          | ok w =>
              have hf : some w = f := by simpa [meetFacts, hmeet, Except.map] using h
              exact .inr (.inr ⟨u, v, w, rfl, rfl, hf.symm, hmeet⟩)

lemma pointInvariant_wellShaped :
    (analysis g numLocals maxStack).PointInvariant (WellShaped numLocals) where
  entry := ⟨_, rfl, by simp [entryFrame, ValueFrame.numLocals]⟩
  step := by
    rintro b index i _ f' - - ⟨v, rfl, hv⟩ hstep -
    obtain ⟨v', hv', rfl⟩ : ∃ v', v.step (.produced b index) i.op = .ok v' ∧ some v' = f' := by
      cases h : v.step (.produced b index) i.op with
      | error e => simp [analysis, h, Except.map] at hstep
      | ok v' => exact ⟨v', rfl, by simpa [analysis, h, Except.map] using hstep⟩
    obtain ⟨_, hshape⟩ := ValueFrame.step_shaped hv'
    exact ⟨v', rfl, hshape.numLocals_eq.trans hv⟩
  flow _ _ _ h := h
  refine _ _ _ h _ := h
  handler := by
    rintro e index _ f' - - - ⟨v, rfl, hv⟩ henter -
    obtain rfl : some (handlerFrame e.target v) = f' := by simpa [analysis] using henter
    exact ⟨_, rfl, hv⟩
  join := by
    intro e sofar f f' _ hsofar hf hjoin htop
    rcases meetFacts_eq_ok hjoin with ⟨rfl, rfl⟩ | ⟨rfl, rfl⟩ | ⟨u, v, w, rfl, rfl, rfl, hmeet⟩
    · exact hsofar htop
    · exact hf htop
    · obtain ⟨_, ⟨⟩, hu⟩ := hsofar rfl
      obtain ⟨_, ⟨⟩, hv⟩ := hf rfl
      have := (meetFrames_joined (hu.trans hv.symm) hmeet).1.numLocals_eq
      exact ⟨w, rfl, this.trans hu⟩

/-- The fact at the start of a block keeps what it keeps of each arrival. -/
lemma joinBound_joined : (analysis g numLocals maxStack).JoinBound (WellShaped numLocals)
    (fun b carried start => ∃ f f', carried = some f ∧ start = some f' ∧ Joined b f f') where
  arrive := by
    intro e sofar f f' _ hsofar htop hf hjoin
    obtain ⟨v, rfl, hv⟩ := hf
    rcases meetFacts_eq_ok hjoin with ⟨h, -⟩ | ⟨rfl, rfl⟩ | ⟨u, _, w, rfl, ⟨⟩, rfl, hmeet⟩
    · cases h
    · exact ⟨v, v, rfl, rfl, .refl _ v⟩
    · obtain ⟨_, ⟨⟩, hu⟩ := hsofar rfl
      exact ⟨v, w, rfl, rfl, (meetFrames_joined (hu.trans hv.symm) hmeet).2⟩
  stay := by
    rintro e sofar f f' c - hsofar hf hjoin ⟨c, u, rfl, rfl, hc⟩
    rcases meetFacts_eq_ok hjoin with ⟨-, rfl⟩ | ⟨h, -⟩ | ⟨_, v, w, ⟨⟩, rfl, rfl, hmeet⟩
    · exact ⟨c, u, rfl, rfl, hc⟩
    · cases h
    · obtain ⟨_, ⟨⟩, hu⟩ := hsofar rfl
      obtain ⟨_, ⟨⟩, hv⟩ := hf rfl
      exact ⟨c, w, rfl, rfl, hc.trans (meetFrames_joined (hu.trans hv.symm) hmeet).1⟩

/-- A handler is entered with a frame. -/
lemma entered_not_top (e : g.Arc) (x f : OriginFact)
    (htop : (analysis g numLocals maxStack).isTop x = false)
    (henter : (analysis g numLocals maxStack).enterHandler e x = .ok f) :
    (analysis g numLocals maxStack).isTop f = false := by
  obtain ⟨x, rfl⟩ := isTop_eq_false_iff.1 htop
  obtain rfl := Except.ok.inj henter
  rfl

/-- A property that meeting frames keep holds at the start of a block if all frames that arrive have
it. -/
lemma startOf_frame {t : FactTable g OriginFact Unit} {b : g.Node} {v : ValueFrame ValueOrigin}
    {Q : ValueFrame ValueOrigin → Prop}
    (hinitial : ∀ u, (analysis g numLocals maxStack).initial b = some u → Q u)
    (hbrings : ∀ e ∈ g.edges, e.target = b → ∀ u,
      (analysis g numLocals maxStack).Brings t e (some u) → Q u)
    (hmeet : ∀ u w f, meetFrames b u w = .ok f → Q u → Q w → Q f)
    (h : (analysis g numLocals maxStack).startOf t b = .ok (some v)) : Q v := by
  refine FlowAnalysis.startOf_keeps (A := analysis g numLocals maxStack)
    (Q := fun f => ∀ u, f = some u → Q u) entered_not_top
    (fun e he ht f hf sofar f' hsofar hjoin => ?_) hinitial h v rfl
  subst ht
  rcases meetFacts_eq_ok hjoin with ⟨-, rfl⟩ | ⟨-, rfl⟩ | ⟨u, w, x, rfl, rfl, rfl, hframes⟩
  · exact hsofar
  · rintro u rfl
    exact hbrings e he rfl u hf
  · rintro _ ⟨⟩
    exact hmeet u w x hframes (hsofar u rfl) (hbrings e he rfl w hf)

/-! ### Along a run -/

variable {s : Solution g OriginFact Unit}

/-- The frame at a point. -/
def At (g : FlowGraph) (numLocals maxStack : Nat) (s : Solution g OriginFact Unit) (b : g.Node)
    (index : Nat) (f : ValueFrame ValueOrigin) : Prop :=
  (analysis g numLocals maxStack).factAt s b index = some f

/-- There is one frame at a point. -/
lemma At.unique {b : g.Node} {index : Nat} {f f' : ValueFrame ValueOrigin}
    (hf : At g numLocals maxStack s b index f) (hf' : At g numLocals maxStack s b index f') :
    f = f' :=
  Option.some.inj (hf.symm.trans hf')

/-- One instruction further, by its effect. -/
lemma within_step {b : g.Node} {start : OriginFact} {index : Nat} {i : Instruction}
    {f f' : ValueFrame ValueOrigin} (hi : (g.instructions b)[index]? = some i)
    (hf : (analysis g numLocals maxStack).within b start index = some f)
    (hstep : f.step (.produced b index) i.op = .ok f') :
    (analysis g numLocals maxStack).within b start (index + 1) = some f' := by
  have hstep' : (analysis g numLocals maxStack).step b index i
      ((analysis g numLocals maxStack).within b start index) = .ok (some f') := by
    rw [hf]
    simp [analysis, hstep, Except.map]
  exact FlowAnalysis.within_succ_of_step _ hi (isTop_eq_false_iff.2 ⟨f, hf⟩) hstep'

lemma at_succ {b : g.Node} {index : Nat} {i : Instruction} {f f' : ValueFrame ValueOrigin}
    (hi : (g.instructions b)[index]? = some i) (hf : At g numLocals maxStack s b index f)
    (hstep : f.step (.produced b index) i.op = .ok f') :
    At g numLocals maxStack s b (index + 1) f' :=
  within_step hi hf hstep

/-- The frame after an instruction comes from the frame before it. -/
lemma of_within_succ {b : g.Node} {start : OriginFact} {index : Nat} {i : Instruction}
    {f' : ValueFrame ValueOrigin} (hi : (g.instructions b)[index]? = some i)
    (hf : (analysis g numLocals maxStack).within b start (index + 1) = some f') :
    ∃ f, (analysis g numLocals maxStack).within b start index = some f ∧
      f.step (.produced b index) i.op = .ok f' := by
  rw [FlowAnalysis.within_succ _ hi] at hf
  split at hf
  · rename_i htop
    rw [hf] at htop
    cases htop
  · rename_i htop
    obtain ⟨f, hbefore⟩ := isTop_eq_false_iff.1 (Bool.eq_false_iff.2 htop)
    refine ⟨f, hbefore, ?_⟩
    rw [hbefore, FlowAnalysis.advance] at hf
    cases hstep : f.step (.produced b index) i.op with
    | error e => simp [analysis, hstep, Except.map] at hf
    | ok f'' => simpa [analysis, hstep, Except.map] using hf

lemma of_at_succ {b : g.Node} {index : Nat} {i : Instruction} {f' : ValueFrame ValueOrigin}
    (hi : (g.instructions b)[index]? = some i)
    (hf : At g numLocals maxStack s b (index + 1) f') :
    ∃ f, At g numLocals maxStack s b index f ∧ f.step (.produced b index) i.op = .ok f' :=
  of_within_succ hi hf

/-- A normal edge carries the frame at the end of its source. -/
lemma carried?_eq {t : FactTable g OriginFact Unit}
    (hcons : (analysis g numLocals maxStack).Consistent t) (e : g.Arc) :
    (analysis g numLocals maxStack).carried? e (t.get e.source)
      = (t.get e.source).result.map some := by
  have hdecision : (t.get e.source).decision = none := by
    rw [hcons e.source, FlowAnalysis.through]
    simp only
    split
    · rfl
    · cases ((analysis g numLocals maxStack).traverse e.source 0 (g.instructions e.source)
        (t.get e.source).start).1.reverse <;> rfl
  rw [FlowAnalysis.carried?, hdecision]
  cases (t.get e.source).result <;> rfl

lemma brings_result {t : FactTable g OriginFact Unit}
    (hcons : (analysis g numLocals maxStack).Consistent t) {e : g.Arc}
    (hkind : e.kind.isException = false) {f : ValueFrame ValueOrigin}
    (hf : (analysis g numLocals maxStack).within e.source (t.get e.source).start
      (g.instructions e.source).length = some f) :
    (analysis g numLocals maxStack).Brings t e (some f) := by
  refine .normal hkind ?_
  rw [carried?_eq hcons, hcons.result, hf]
  rfl

/-- Where control is seen to enter a block, its exception edges carry a frame. -/
lemma exists_thrown_frame {t : FactTable g OriginFact Unit}
    (hcons : (analysis g numLocals maxStack).Consistent t) {b : g.Node} {f : ValueFrame ValueOrigin}
    (hstart : (t.get b).start = some f) : ∃ x, some x ∈ (t.get b).thrown := by
  obtain ⟨x, hx, htop⟩ := hcons.exists_thrown (by rw [hstart]; rfl)
  obtain ⟨x, rfl⟩ := isTop_eq_false_iff.1 htop
  exact ⟨x, hx⟩

/-- An edge on which control is seen to leave its source without an exception. -/
def Crossed (g : FlowGraph) (numLocals maxStack : Nat) (s : Solution g OriginFact Unit)
    (e : g.Arc) : Prop :=
  e.kind.isException = false ∧ g.Reachable e.source ∧
    ∃ f, At g numLocals maxStack s e.source (g.instructions e.source).length f

variable (hsolve : (analysis g numLocals maxStack).solve = .ok s)

include hsolve

/-- What the frame at the start of a block keeps of the frame at the end of a predecessor. -/
lemma at_jump {e : g.Arc} (he : e ∈ g.edges) (hcrossed : Crossed g numLocals maxStack s e) :
    ∃ f f', At g numLocals maxStack s e.source (g.instructions e.source).length f ∧
      At g numLocals maxStack s e.target 0 f' ∧ Joined e.target f f' := by
  obtain ⟨hkind, hreach, f, hf⟩ := hcrossed
  have hbrings := brings_result (FlowAnalysis.solve_consistent rfl hsolve) hkind hf
  obtain ⟨_, f', ⟨⟩, hf', hjoined⟩ := FlowAnalysis.flow_bound pointInvariant_wellShaped
    joinBound_joined rfl hsolve he hreach hbrings
  exact ⟨f, f', hf, hf', hjoined⟩

lemma at_entry : ∃ f', At g numLocals maxStack s g.entry 0 f' ∧
    Joined g.entry (entryFrame numLocals) f' := by
  obtain ⟨_, f', ⟨⟩, hf', hjoined⟩ := FlowAnalysis.entry_bound pointInvariant_wellShaped
    joinBound_joined rfl hsolve ⟨_, _, rfl, rfl, .refl _ (entryFrame numLocals)⟩
  exact ⟨f', hf', hjoined⟩

omit [DescriptorReader] in
omit hsolve in
lemma labels_entryFrame {a : ValueOrigin} (ha : a ∈ (entryFrame numLocals).labels) :
    ∃ slot, a = .entry slot := by
  rcases ValueFrame.mem_labels.1 ha with h | h | ⟨l, label, h, -⟩
  · obtain ⟨slot, -, rfl⟩ := List.mem_map.1 h
    exact ⟨slot, rfl⟩
  · cases h
  · cases h

/-- The labels that the frames mention are born as they should be. -/
lemma births : Births g (fun b index => ∃ f, At g numLocals maxStack s b index f)
    (Crossed g numLocals maxStack s)
    (fun b index a => ∃ f, At g numLocals maxStack s b index f ∧ a ∈ f.labels)
    (fun b a => ∃ f, At g numLocals maxStack s b 0 f ∧ StrayIn b f a) where
  entry := by
    rintro a ⟨f, hf, ha⟩
    obtain ⟨f', hf', hjoined⟩ := at_entry hsolve
    obtain rfl : f = f' := hf.unique hf'
    rcases stray_or_merge g.entry ha with hstray | hmerge
    · exact .inl (labels_entryFrame (hjoined.stray hstray))
    · exact .inr hmerge
  entry_stray := by
    rintro a ⟨f, hf, ha⟩
    obtain ⟨f', hf', hjoined⟩ := at_entry hsolve
    obtain rfl : f = f' := hf.unique hf'
    exact labels_entryFrame (hjoined.stray ha)
  step := by
    rintro b index a hlt - ⟨f', hf', ha⟩
    obtain ⟨f, hf, hstep⟩ := of_at_succ (List.getElem?_eq_getElem hlt) hf'
    exact (ValueFrame.labels_step hstep a ha).imp_left fun ha => ⟨f, hf, ha⟩
  jump := by
    rintro e a he hcrossed ⟨f', hf', ha⟩
    obtain ⟨f, f'', hf, hf'', hjoined⟩ := at_jump hsolve he hcrossed
    obtain rfl : f' = f'' := hf'.unique hf''
    exact (stray_or_merge e.target ha).imp_left fun ha => ⟨f, hf, hjoined.stray ha⟩
  jump_stray := by
    rintro e a he hcrossed ⟨f', hf', ha⟩
    obtain ⟨f, f'', hf, hf'', hjoined⟩ := at_jump hsolve he hcrossed
    obtain rfl : f' = f'' := hf'.unique hf''
    exact ⟨f, hf, hjoined.stray ha⟩

variable {V : Type} {ρ : ValueOrigin → V} {σ σ' : State V}

omit hsolve in
/-- From a point to the next one in a block. -/
lemma models_step [DecidableEq V] {b : g.Node} {index : Nat} {i : Instruction}
    {f : ValueFrame ValueOrigin} (hi : (g.instructions b)[index]? = some i)
    (hf : At g numLocals maxStack s b index f) (hm : f.Models ρ σ)
    (hfresh : ∀ k, .produced b index k ∉ f.labels) (hexec : Exec i.op σ σ') :
    ∃ f' ρ', At g numLocals maxStack s b (index + 1) f' ∧
      f.step (.produced b index) i.op = .ok f' ∧
      AgreeBut (i.op.IsResult (.produced b index)) ρ ρ' ∧ f'.Models ρ' σ' := by
  obtain ⟨effect, hfits, -⟩ := hexec.fits
  rw [hm.length_locals, hm.length_stack] at hfits
  obtain ⟨f', hstep⟩ : ∃ f', f.step (.produced b index) i.op = .ok f' :=
    ValueFrame.step_succeeds hfits
  have hinj : Function.Injective (ValueOrigin.produced b index) := fun i j hij => by
    simpa using hij
  obtain ⟨ρ', hagree, hm'⟩ := hm.step hinj hfresh hstep hexec
  exact ⟨f', ρ', at_succ hi hf hstep, hstep, hagree, hm'⟩

/-- From the end of a block to the start of the next one. -/
lemma models_jump {e : g.Arc} {f : ValueFrame ValueOrigin} (he : e ∈ g.edges)
    (hcrossed : Crossed g numLocals maxStack s e)
    (hf : At g numLocals maxStack s e.source (g.instructions e.source).length f)
    (hm : f.Models ρ σ) (hstray : ∀ f' slot, At g numLocals maxStack s e.target 0 f' →
      ¬ StrayIn e.target f' (.merge e.target slot)) :
    ∃ f' ρ', At g numLocals maxStack s e.target 0 f' ∧ Joined e.target f f' ∧
      AgreeBut (fun a => ∃ slot, a = .merge e.target slot) ρ ρ' ∧ f'.Models ρ' σ := by
  obtain ⟨_, f', hf₁, hf', hjoined⟩ := at_jump hsolve he hcrossed
  obtain rfl := Option.some.inj (hf.symm.trans hf₁)
  obtain ⟨ρ', hagree, hm'⟩ := hjoined.models (fun slot => hstray f' slot hf') hm
  exact ⟨f', ρ', hf', hjoined, hagree, hm'⟩

/-- On entry every local means what it holds. -/
lemma models_entry (hlocals : σ.locals.length = numLocals) (hstack : σ.stack = [])
    (hstray : ∀ f' slot, At g numLocals maxStack s g.entry 0 f' →
      ¬ StrayIn g.entry f' (.merge g.entry slot)) :
    ∃ f' ρ, At g numLocals maxStack s g.entry 0 f' ∧ f'.Models ρ σ := by
  obtain ⟨f', hf', hjoined⟩ := at_entry hsolve
  -- the heap has a cell, so there is a value to fill up the meaning with
  let ρ₀ : ValueOrigin → V := fun a =>
    match a with
    | .entry slot => (σ.locals[slot]?).getD (σ.heap (.field none default))
    | _ => σ.heap (.field none default)
  have hm : (entryFrame numLocals).Models ρ₀ σ := by
    refine ⟨?_, hstack.symm, fun l label h => by cases h⟩
    apply List.ext_getElem
    · simp [entryFrame, hlocals]
    · intro i hi hi'
      simp [entryFrame, ρ₀, hi']
  obtain ⟨ρ, -, hm'⟩ := hjoined.models (fun slot => hstray f' slot hf') hm
  exact ⟨f', ρ, hf', hm'⟩

/-- A run walks along frames that model its states. -/
lemma run_models [DecidableEq V] {first : State V} (hlocals : first.locals.length = numLocals)
    (hstack : first.stack = []) {b : g.Node} {index : Nat} (hrun : Run g first b index σ) :
    (∃ n, Walk g (fun b index => ∃ f, At g numLocals maxStack s b index f)
        (Crossed g numLocals maxStack s) n b index) ∧
      ∃ f ρ, At g numLocals maxStack s b index f ∧ f.Models ρ σ := by
  have hbirths := births hsolve
  induction hrun with
  | entry =>
      refine ⟨⟨0, .entry⟩, models_entry hsolve hlocals hstack fun f' slot hf' hstray => ?_⟩
      exact hbirths.not_stray .entry slot ⟨f', hf', hstray⟩
  | @step b index i σ σ' _ hi hexec ih =>
      obtain ⟨⟨n, hwalk⟩, f, ρ, hf, hm⟩ := ih
      obtain ⟨f', ρ', hf', -, -, hm'⟩ := models_step hi hf hm
        (fun k hk => hbirths.not_mentioned hwalk k ⟨f, hf, hk⟩) hexec
      exact ⟨⟨n + 1, .step hwalk (List.getElem?_eq_some_iff.1 hi).1 ⟨f', hf'⟩⟩, f', ρ', hf', hm'⟩
  | @jump e σ _ he hkind ih =>
      obtain ⟨⟨n, hwalk⟩, f, ρ, hf, hm⟩ := ih
      have hcrossed : Crossed g numLocals maxStack s e := ⟨hkind, hwalk.reachable, f, hf⟩
      obtain ⟨f', ρ', hf', -, -, hm'⟩ := models_jump hsolve he hcrossed hf hm
        fun f' slot hf' hstray =>
          hbirths.not_stray (.jump hwalk he hcrossed) slot ⟨f', hf', hstray⟩
      exact ⟨⟨n + 1, .jump hwalk he hcrossed⟩, f', ρ', hf', hm'⟩

end

/-! ### Numbered facts -/

section

variable [DescriptorReader] {g : FlowGraph} {numLocals maxStack : Nat} {t : ValueTable g}

/-- The numbers of a table stand for the labels of a solution. -/
structure Numbers (t : ValueTable g) (numLocals maxStack : Nat) (s : Solution g OriginFact Unit)
    (order : List ValueOrigin) : Prop where
  solve : (analysis g numLocals maxStack).solve = .ok s
  factAt? : ∀ {b index}, index ≤ (g.instructions b).length →
    t.factAt? b index
      = ((analysis g numLocals maxStack).factAt s b index).map (·.map (numberOf order))
  mem_order : ∀ {b index f a}, index ≤ (g.instructions b).length →
    At g numLocals maxStack s b index f → a ∈ f.labels → a ∈ order

lemma numbers_numbering (h : ValueTable.ofGraph g numLocals maxStack = .ok t) :
    ∃ s, Numbers t numLocals maxStack s (numbering (analysis g numLocals maxStack) s) := by
  unfold ValueTable.ofGraph at h
  simp only [bind_eq_ok_iff, inContext_eq_ok, pure_eq_ok_iff] at h
  obtain ⟨s, hsolve, rfl⟩ := h
  refine ⟨s, hsolve, fun {b index} hindex => ?_,
    fun {b index f a} hindex hf ha => ?_⟩
  · have hget : ∀ F : g.Node → List (Option NumberedFrame), (Vector.ofFn F).get b = F b :=
      fun F => Vector.getElem_ofFn b.isLt
    rw [ValueTable.factAt?, hget, List.getElem?_map, FlowAnalysis.getElem?_blockFacts _ s b hindex]
    rfl
  · have hmem : some f ∈ (analysis g numLocals maxStack).blockFacts s b :=
      List.mem_of_getElem? ((FlowAnalysis.getElem?_blockFacts _ s b hindex).trans (congrArg some hf))
    exact facts_numbered _ s hmem ha

lemma numbers_ofGraph (h : ValueTable.ofGraph g numLocals maxStack = .ok t) :
    ∃ s order, Numbers t numLocals maxStack s order := by
  obtain ⟨s, hn⟩ := numbers_numbering h
  exact ⟨s, _, hn⟩

/-- The numbered frame of a point is the frame there, with its labels numbered. -/
lemma Numbers.factAt?_eq_some_iff {s : Solution g OriginFact Unit} {order : List ValueOrigin}
    (hn : Numbers t numLocals maxStack s order) {b : g.Node} {index : Nat}
    (hindex : index ≤ (g.instructions b).length) {numbers : NumberedFrame} :
    t.factAt? b index = some numbers ↔
      ∃ f, At g numLocals maxStack s b index f ∧ f.map (numberOf order) = numbers := by
  rw [hn.factAt? hindex, Option.map_eq_some_iff]
  rfl

end

end ValueNumbering

namespace ValueTable

open ValueNumbering

section

variable [DescriptorReader] {g : FlowGraph} {numLocals maxStack : Nat} {t : ValueTable g}

/-- **Slots with equal numbers hold equal values.** Wherever a run of a method comes to, its state has
a numbered frame of its shape there, and the number of a slot determines what the slot holds. -/
theorem equal_numbers {V : Type} [DecidableEq V]
    (h : ValueTable.ofGraph g numLocals maxStack = .ok t) {first σ : State V}
    (hlocals : first.locals.length = numLocals) (hstack : first.stack = []) {b : g.Node}
    {index : Nat} (hrun : Run g first b index σ) :
    ∃ f, t.factAt? b index = some f ∧ f.numLocals = σ.locals.length ∧
      f.depth = σ.stack.length ∧ ∀ i j : Nat, i < f.numSlots → j < f.numSlots →
        f.slot? i = f.slot? j → σ.slots[i]? = σ.slots[j]? := by
  obtain ⟨s, order, hn⟩ := numbers_ofGraph h
  obtain ⟨-, f, ρ, hf, hm⟩ := run_models hn.solve hlocals hstack hrun
  refine ⟨f.map (numberOf order), ?_, ?_, ?_, fun i j hi hj hij => ?_⟩
  · rw [hn.factAt? hrun.index_le, show _ = some f from hf]; rfl
  · rw [hm.length_locals, ValueFrame.numLocals_map]
  · rw [hm.length_stack, ValueFrame.depth_map]
  · have hslot : ∀ k, k < f.numSlots → ∃ a ∈ order, (f.map (numberOf order)).slot? k
        = some (numberOf order a) ∧ σ.slots[k]? = some (ρ a) := by
      intro k hk
      obtain ⟨a, hget⟩ : ∃ a, f.slots[k]? = some a :=
        ⟨_, List.getElem?_eq_getElem (by simpa using hk)⟩
      refine ⟨a, hn.mem_order hrun.index_le hf
        (List.mem_append_left _ (List.mem_of_getElem? hget)), ?_, ?_⟩
      · rw [ValueFrame.slot?, ValueFrame.slots_map, List.getElem?_map, hget]; rfl
      · rw [← hm.slots_eq, List.getElem?_map, hget]; rfl
    rw [ValueFrame.numSlots_map] at hi hj
    obtain ⟨a, ha, hai, hvi⟩ := hslot i hi
    obtain ⟨a', -, haj, hvj⟩ := hslot j hj
    rw [hai, haj, Option.some.injEq] at hij
    rw [hvi, hvj, numberOf_injective ha hij]

end

/-- A loop that in each round makes a value and keeps it in both locals. -/
def renewal : FlowGraph where
  size := 4
  entry := 0
  exit := 3
  code := ⟨#[[⟨0, .constNull⟩, ⟨1, .store 1⟩], [⟨2, .load 0⟩, ⟨3, .ifNull⟩],
    [⟨4, .constReference⟩, ⟨5, .store 0⟩, ⟨6, .load 0⟩, ⟨7, .store 1⟩, ⟨8, .goto⟩], []], rfl⟩
  edges := [⟨0, 1, .fallThrough⟩, ⟨1, 3, .branch⟩, ⟨1, 2, .fallThrough⟩, ⟨2, 1, .branch⟩]
  exit_final := by decide

/-- In the second round of the loop both locals hold what that round has made. -/
theorem equal_numbers_renewal :
    ∃ t, ValueTable.ofGraph renewal 2 1 = .ok t ∧
      ∃ f, t.factAt? ⟨2, by decide⟩ 4 = some f ∧ f.numLocals = 2 ∧ f.depth = 0 ∧
        ∀ i j : Nat, i < f.numSlots → j < f.numSlots → f.slot? i = f.slot? j →
          [12, 12][i]? = [12, 12][j]? := by
  obtain ⟨t, ht⟩ : ∃ t, ValueTable.ofGraph renewal 2 1 = .ok t :=
    ⟨_, eq_ok_get (by decide +kernel)⟩
  let state (locals stack : List Nat) : State Nat := ⟨locals, stack, fun _ => 0⟩
  have round : ∀ v w x, Run renewal (state [5, 7] []) ⟨1, by decide⟩ 0 (state [v, w] []) →
      Run renewal (state [5, 7] []) ⟨2, by decide⟩ 4 (state [x, x] []) := by
    intro v w x h
    have h := h.step (i := ⟨2, .load 0⟩) rfl ⟨v, rfl, rfl⟩
    have h := h.step (i := ⟨3, .ifNull⟩) rfl ⟨_, [], rfl, Nat.le_refl 1, rfl, rfl⟩
    have h := Run.jump (e := ⟨⟨1, by decide⟩, ⟨2, by decide⟩, .fallThrough⟩) h (by decide) rfl
    have h := h.step (i := ⟨4, .constReference⟩) rfl ⟨_, [x], rfl, Nat.zero_le 0, rfl, rfl⟩
    have h := h.step (i := ⟨5, .store 0⟩) rfl ⟨x, [], rfl, Nat.zero_lt_two, rfl⟩
    have h := h.step (i := ⟨6, .load 0⟩) rfl ⟨x, rfl, rfl⟩
    exact h.step (i := ⟨7, .store 1⟩) rfl ⟨x, [], rfl, Nat.one_lt_two, rfl⟩
  have h : Run renewal (state [5, 7] []) ⟨0, by decide⟩ 0 (state [5, 7] []) := .entry
  have h := h.step (i := ⟨0, .constNull⟩) rfl ⟨_, [9], rfl, Nat.zero_le 0, rfl, rfl⟩
  have h := h.step (i := ⟨1, .store 1⟩) rfl ⟨9, [], rfl, Nat.one_lt_two, rfl⟩
  have h := Run.jump (e := ⟨⟨0, by decide⟩, ⟨1, by decide⟩, .fallThrough⟩) h (by decide) rfl
  have h := (round 5 9 11 h).step (i := ⟨8, .goto⟩) rfl rfl
  have h := Run.jump (e := ⟨⟨2, by decide⟩, ⟨1, by decide⟩, .branch⟩) h (by decide) rfl
  exact ⟨t, ht, equal_numbers ht rfl rfl (round 11 11 12 h)⟩

end ValueTable

end Nullness
