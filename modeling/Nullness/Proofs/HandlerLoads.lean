import Mathlib.Tactic
import Nullness.Descriptor.Reader
import Nullness.Proofs.AvailableLoads

/-!
# Available loads where edges meet

A load is available at the start of a block if it is available, under one label, in all facts that
the edges into the block carry there. An exception edge carries the facts in front of the
instructions that may throw, with their loads. A call kills all loads, but only behind it: a handler
is entered with the loads from in front of the call, as far as the other facts that arrive there
have them too.

* `FlowGraph.Leaves`: the facts that leave a block along an edge;
* `ValueTable.available_start_iff`: **the loads available at the start of a block are those
  available in all facts that arrive;**
* `ValueTable.loads_behind_call`: **which loads a call leaves available**, where it returns and
  where it throws.
-/

namespace Nullness

/-! ### What leaves a block -/

namespace FlowGraph

variable {F F' : Type} {g : FlowGraph}

/-- A fact that leaves a block along an edge: the fact at its end, and along an exception edge the
facts in front of the instructions that may throw. If control is seen to reach none of these, it is
the fact at the start of the block. -/
inductive Leaves (g : FlowGraph) (fact? : g.Node → Nat → Option F) (e : g.Arc) (f : F) : Prop
  | done : e.kind.isException = false → fact? e.source (g.instructions e.source).length = some f →
      Leaves g fact? e f
  | raised {index : Nat} {i : Instruction} : e.kind.isException = true →
      (g.instructions e.source)[index]? = some i → i.op.mayThrow = true →
      fact? e.source index = some f → Leaves g fact? e f
  | calm : e.kind.isException = true → (∀ index i, (g.instructions e.source)[index]? = some i →
      i.op.mayThrow = true → fact? e.source index = none) → fact? e.source 0 = some f →
      Leaves g fact? e f

variable {fact? : g.Node → Nat → Option F} {fact'? : g.Node → Nat → Option F'} {e : g.Arc}

/-- What leaves a block is the fact at a point of it. -/
lemma Leaves.point {f : F} (h : g.Leaves fact? e f) :
    ∃ index ≤ (g.instructions e.source).length, fact? e.source index = some f := by
  cases h with
  | done _ hf => exact ⟨_, le_rfl, hf⟩
  | raised _ hi _ hf => exact ⟨_, (List.getElem?_eq_some_iff.1 hi).1.le, hf⟩
  | calm _ _ hf => exact ⟨0, Nat.zero_le _, hf⟩

/-- Renamed facts leave a block as they are. -/
lemma leaves_map {r : F → F'} (hmap : ∀ b index, index ≤ (g.instructions b).length →
      fact'? b index = (fact? b index).map r) {f' : F'} :
    g.Leaves fact'? e f' ↔ ∃ f, g.Leaves fact? e f ∧ r f = f' := by
  constructor
  · rintro (⟨hkind, hf⟩ | ⟨hkind, hi, hthrow, hf⟩ | ⟨hkind, hcalm, hf⟩)
    · rw [hmap _ _ le_rfl] at hf
      obtain ⟨f, hfact, rfl⟩ := Option.map_eq_some_iff.1 hf
      exact ⟨f, .done hkind hfact, rfl⟩
    · rw [hmap _ _ (List.getElem?_eq_some_iff.1 hi).1.le] at hf
      obtain ⟨f, hfact, rfl⟩ := Option.map_eq_some_iff.1 hf
      exact ⟨f, .raised hkind hi hthrow hfact, rfl⟩
    · rw [hmap _ _ (Nat.zero_le _)] at hf
      obtain ⟨f, hfact, rfl⟩ := Option.map_eq_some_iff.1 hf
      refine ⟨f, .calm hkind (fun index i hi hthrow => ?_) hfact, rfl⟩
      have hnone := hcalm index i hi hthrow
      rwa [hmap _ _ (List.getElem?_eq_some_iff.1 hi).1.le, Option.map_eq_none_iff] at hnone
  · rintro ⟨f, ⟨hkind, hf⟩ | ⟨hkind, hi, hthrow, hf⟩ | ⟨hkind, hcalm, hf⟩, rfl⟩
    · exact .done hkind (by rw [hmap _ _ le_rfl, hf]; rfl)
    · refine .raised hkind hi hthrow ?_
      rw [hmap _ _ (List.getElem?_eq_some_iff.1 hi).1.le, hf]
      rfl
    · refine .calm hkind (fun index i hi hthrow => ?_) (by rw [hmap _ _ (Nat.zero_le _), hf]; rfl)
      rw [hmap _ _ (List.getElem?_eq_some_iff.1 hi).1.le, hcalm index i hi hthrow]
      rfl

end FlowGraph

/-! ### What edges bring -/

namespace ValueNumbering

open FlowGraph

variable [DescriptorReader] {g : FlowGraph} {numLocals maxStack : Nat}
  {s : Solution g OriginFact Unit} {b : g.Node} {e : g.Arc} {f : ValueFrame ValueOrigin}
  {l : Load ValueOrigin} {label : ValueOrigin}

/-- The frames that a visit keeps of the instructions that may throw. -/
lemma mem_throwing (hcons : (analysis g numLocals maxStack).Consistent s.table) :
    some f ∈ (s.table.get b).throwing ↔ ∃ index i, (g.instructions b)[index]? = some i ∧
      i.op.mayThrow = true ∧ At g numLocals maxStack s b index f := by
  rw [hcons b, FlowAnalysis.mem_throwing]
  simp only [At, FlowAnalysis.factAt_eq_within]
  exact exists_congr fun index => exists_congr fun i => and_congr_right fun _ =>
    and_congr_right fun _ => ⟨fun h => h.1.symm, fun h => ⟨h.symm, rfl⟩⟩

/-- A visit that keeps nothing of the instructions that may throw has reached none. -/
lemma throwing_eq_nil_iff (hcons : (analysis g numLocals maxStack).Consistent s.table) :
    (s.table.get b).throwing = [] ↔ ∀ index i, (g.instructions b)[index]? = some i →
      i.op.mayThrow = true → (analysis g numLocals maxStack).factAt s b index = none := by
  constructor
  · intro hnil index i hi hthrow
    refine Option.eq_none_iff_forall_ne_some.2 fun v hv => ?_
    exact absurd (hnil ▸ (mem_throwing hcons).2 ⟨index, i, hi, hthrow, hv⟩) List.not_mem_nil
  · intro hcalm
    refine List.eq_nil_iff_forall_not_mem.2 fun x hx => ?_
    have hreached := hx
    rw [hcons b] at hreached
    obtain ⟨_, _, _, _, -, htop⟩ := (FlowAnalysis.mem_throwing _).1 hreached
    obtain ⟨v, rfl⟩ := isTop_eq_false_iff.1 htop
    obtain ⟨index, i, hi, hthrow, hv⟩ := (mem_throwing hcons).1 hx
    exact absurd (hv.symm.trans (hcalm index i hi hthrow)) (by simp)

/-- The frames that exception edges carry out of a block. -/
lemma mem_thrown (hcons : (analysis g numLocals maxStack).Consistent s.table) :
    some f ∈ (s.table.get b).thrown ↔
      (∃ index i, (g.instructions b)[index]? = some i ∧ i.op.mayThrow = true ∧
        At g numLocals maxStack s b index f) ∨
      (∀ index i, (g.instructions b)[index]? = some i → i.op.mayThrow = true →
        (analysis g numLocals maxStack).factAt s b index = none) ∧
        At g numLocals maxStack s b 0 f := by
  rw [← mem_throwing hcons, ← throwing_eq_nil_iff hcons]
  have hstart : At g numLocals maxStack s b 0 f ↔ some f = (s.table.get b).start := by
    rw [At, FlowAnalysis.factAt_eq_within, FlowAnalysis.within_zero, eq_comm]
    rfl
  unfold BlockFacts.thrown
  split
  · rename_i hempty
    rw [List.isEmpty_iff] at hempty
    simp [hempty, hstart]
  · rename_i hempty
    rw [List.isEmpty_iff] at hempty
    simp [hempty]

/-- What leaves a block along an edge is brought to the target, with its available loads. -/
lemma brings_of_leaves (hcons : (analysis g numLocals maxStack).Consistent s.table)
    (h : g.Leaves ((analysis g numLocals maxStack).factAt s) e f) :
    ∃ v, (analysis g numLocals maxStack).Brings s.table e (some v) ∧ v.loads = f.loads := by
  have thrown : e.kind.isException = true → some f ∈ (s.table.get e.source).thrown →
      ∃ v, (analysis g numLocals maxStack).Brings s.table e (some v) ∧ v.loads = f.loads :=
    fun hkind hmem => ⟨handlerFrame e.target f, .thrown hkind hmem rfl rfl rfl, rfl⟩
  cases h with
  | done hkind hf => exact ⟨f, brings_result hcons hkind hf, rfl⟩
  | raised hkind hi hthrow hf =>
      exact thrown hkind ((mem_thrown hcons).2 (.inl ⟨_, _, hi, hthrow, hf⟩))
  | calm hkind hcalm hf => exact thrown hkind ((mem_thrown hcons).2 (.inr ⟨hcalm, hf⟩))

/-- What is brought to the target of an edge has left its source. -/
lemma leaves_of_brings (hcons : (analysis g numLocals maxStack).Consistent s.table) {x : OriginFact}
    (h : (analysis g numLocals maxStack).Brings s.table e x) :
    ∃ v f, x = some v ∧ g.Leaves ((analysis g numLocals maxStack).factAt s) e f ∧
      v.loads = f.loads := by
  cases h with
  | normal hkind hcarried =>
      rw [carried?_eq hcons, Option.map_eq_some_iff] at hcarried
      obtain ⟨f, hf, rfl⟩ := hcarried
      exact ⟨f, f, rfl, .done hkind ((hcons.result e.source).symm.trans hf), rfl⟩
  | @thrown x' hkind hmem htop henter _ =>
      obtain ⟨f, rfl⟩ := isTop_eq_false_iff.1 htop
      obtain rfl : some (handlerFrame e.target f) = x := Except.ok.inj henter
      refine ⟨_, f, rfl, ?_, rfl⟩
      rcases (mem_thrown hcons).1 hmem with ⟨index, i, hi, hthrow, hf⟩ | ⟨hcalm, hf⟩
      · exact .raised hkind hi hthrow hf
      · exact .calm hkind hcalm hf

omit [DescriptorReader] in
/-- Of two frames that meet the available loads stay that both have under one label. -/
lemma available?_meetFrames {block : Nat} {sofar carried : ValueFrame ValueOrigin}
    (h : meetFrames block sofar carried = .ok f) (hsofar : sofar.available? l = some label)
    (hcarried : carried.available? l = some label) : f.available? l = some label := by
  unfold meetFrames at h
  split at h
  · cases h
  rw [← Except.ok.inj h, ValueFrame.available?, ValueFrame.ofSlots, SortedMap.get?_filter,
    Option.filter_eq_some_iff]
  exact ⟨hsofar, decide_eq_true hcarried⟩

section

variable (hsolve : (analysis g numLocals maxStack).solve = .ok s)

include hsolve

/-- Something has left a block for each block but the entry that control is seen to reach. -/
lemma exists_leaves (hf : At g numLocals maxStack s b 0 f) (hb : b ≠ g.entry) :
    ∃ e ∈ g.edges, e.target = b ∧ ∃ f, g.Leaves ((analysis g numLocals maxStack).factAt s) e f := by
  obtain ⟨-, n, harrives⟩ := arrives_of_frame hsolve (Nat.zero_le _) hf
  obtain ⟨e, he, ht, _, _, u, -, -, hbrings⟩ := (last_arrival hsolve harrives).resolve_left hb
  obtain ⟨_, f, -, hleaves, -⟩ :=
    leaves_of_brings (FlowAnalysis.solve_consistent rfl hsolve) hbrings
  exact ⟨e, he, ht, f, hleaves⟩

/-- **The loads available at the start of a block are those available in all facts that arrive.** -/
theorem available_start_iff (hf : At g numLocals maxStack s b 0 f) :
    f.available? l = some label ↔ b ≠ g.entry ∧ ∀ e ∈ g.edges, e.target = b →
      ∀ f', g.Leaves ((analysis g numLocals maxStack).factAt s) e f' →
        f'.available? l = some label := by
  have hcons := FlowAnalysis.solve_consistent rfl hsolve
  obtain ⟨-, n, harrives⟩ := arrives_of_frame hsolve (Nat.zero_le _) hf
  constructor
  · intro hl
    refine ⟨?_, ?_⟩
    · rintro rfl
      obtain ⟨f', hf', hjoined⟩ := at_entry hsolve
      obtain rfl : f = f' := hf.unique hf'
      cases hjoined.loads l label hl
    · rintro e he rfl f' hleaves
      obtain ⟨v, hbrings, hloads⟩ := brings_of_leaves hcons hleaves
      obtain ⟨n, d, hsource⟩ : ∃ n d, g.Arrives numLocals n e.source 0 d := by
        obtain ⟨index, hindex, hpoint⟩ := hleaves.point
        obtain ⟨-, n, hpath⟩ := arrives_of_frame hsolve hindex hpoint
        exact ⟨n, hpath.start⟩
      obtain ⟨_, f'', ⟨⟩, hf'', hjoined⟩ := FlowAnalysis.flow_bound pointInvariant_wellShaped
        joinBound_joined rfl hsolve he hsource.reachable hbrings
      obtain rfl : f = f'' := hf.unique hf''
      rw [ValueFrame.available?, ← hloads]
      exact hjoined.loads l label hl
  · rintro ⟨hb, hall⟩
    have hstart := FlowAnalysis.solve_solves rfl hsolve harrives.reachable
    rw [show s.startFact b = some f from hf] at hstart
    refine startOf_frame (fun u hu => ?_) (fun e he ht u hbrings => ?_)
      (fun u w f hmeet => available?_meetFrames hmeet) hstart
    · rw [FlowAnalysis.initial, if_neg hb] at hu
      cases hu
    · obtain ⟨_, f', ⟨⟩, hleaves, hloads⟩ := leaves_of_brings hcons hbrings
      rw [ValueFrame.available?, hloads]
      exact hall e he ht f' hleaves

end

omit [DescriptorReader] in
/-- Numbers tell loads apart as their labels do. -/
lemma available?_numbered {order : List ValueOrigin} (hlabels : ∀ a ∈ f.labels, a ∈ order) :
    (f.map (numberOf order)).available? (l.map (numberOf order)) = some (numberOf order label) ↔
      f.available? l = some label := by
  constructor
  · intro h
    obtain ⟨l', label', hl', hload, hlabel⟩ := ValueFrame.available?_map h
    obtain rfl : l' = l := Load.map_injOn (fun a ha _ _ heq =>
      numberOf_injective (hlabels a (ValueFrame.mem_labels_of_load hl' ha)) heq) hload
    rw [hl', numberOf_injective (hlabels _ (ValueFrame.mem_labels_of_available hl')) hlabel]
  · exact ValueFrame.available?_map_of fun a ha _ _ heq => numberOf_injective (hlabels a ha) heq

end ValueNumbering

/-! ### Numbered facts -/

namespace ValueTable

open ValueNumbering FlowGraph

section

variable [DescriptorReader] {g : FlowGraph} {numLocals maxStack : Nat} {t : ValueTable g}
  {b : g.Node}

/-- **The loads available at the start of a block are those available in all facts that arrive.**
The entry starts without any. -/
theorem available_start_iff (h : ValueTable.ofGraph g numLocals maxStack = .ok t)
    {start : NumberedFrame} (hstart : t.startFact? b = some start) {l : Load Nat} {number : Nat} :
    start.available? l = some number ↔ b ≠ g.entry ∧ ∀ e ∈ g.edges, e.target = b →
      ∀ f, g.Leaves t.factAt? e f → f.available? l = some number := by
  obtain ⟨s, order, hn⟩ := numbers_ofGraph h
  have hleaves : ∀ {e : g.Arc} {f : NumberedFrame}, g.Leaves t.factAt? e f ↔
      ∃ v, g.Leaves ((analysis g numLocals maxStack).factAt s) e v ∧ v.map (numberOf order) = f :=
    leaves_map fun _ _ hindex => hn.factAt? hindex
  have hlabels : ∀ {e : g.Arc} {v : ValueFrame ValueOrigin},
      g.Leaves ((analysis g numLocals maxStack).factAt s) e v → ∀ a ∈ v.labels, a ∈ order := by
    intro e v hv a ha
    obtain ⟨index, hindex, hpoint⟩ := hv.point
    exact hn.mem_order hindex hpoint ha
  obtain ⟨f, hf, rfl⟩ := (hn.factAt?_eq_some_iff (Nat.zero_le _)).1 hstart
  constructor
  · intro hl
    obtain ⟨l, label, hlabel, rfl, rfl⟩ := ValueFrame.available?_map hl
    obtain ⟨hb, hall⟩ := (ValueNumbering.available_start_iff hn.solve hf).1 hlabel
    refine ⟨hb, fun e he ht _ hnumbered => ?_⟩
    obtain ⟨v, hv, rfl⟩ := hleaves.1 hnumbered
    exact (available?_numbered (hlabels hv)).2 (hall e he ht v hv)
  · rintro ⟨hb, hall⟩
    -- the numbers of one arrival name the labels of all
    obtain ⟨e, he, ht, v, hv⟩ := exists_leaves hn.solve hf hb
    obtain ⟨l, label, -, rfl, rfl⟩ :=
      ValueFrame.available?_map (hall e he ht _ (hleaves.2 ⟨v, hv, rfl⟩))
    refine (available?_numbered fun a ha => hn.mem_order (Nat.zero_le _) hf ha).2 ?_
    refine (ValueNumbering.available_start_iff hn.solve hf).2 ⟨hb, fun e he ht v hv => ?_⟩
    exact (available?_numbered (hlabels hv)).1 (hall e he ht _ (hleaves.2 ⟨v, hv, rfl⟩))

/-! ### Behind a call -/

/-- Where a call has returned no load is available. -/
lemma loads_after_invoke (h : ValueTable.ofGraph g numLocals maxStack = .ok t) {index : Nat}
    {i : Instruction} (hi : (g.instructions b)[index]? = some i) {call : CallSite}
    (hcall : i.op = .invoke call) {after : NumberedFrame}
    (hafter : t.factAfter? b index = some after) : after.loads = .empty := by
  obtain ⟨s, order, hn⟩ := numbers_ofGraph h
  have hlt : index < (g.instructions b).length := (List.getElem?_eq_some_iff.1 hi).1
  obtain ⟨f', hf', rfl⟩ := (hn.factAt?_eq_some_iff hlt).1 hafter
  obtain ⟨f, -, hstep⟩ := of_at_succ hi hf'
  rw [hcall] at hstep
  cases ValueFrame.step_eq_ok_iff.1 hstep with
  | invoke => rfl
  | plain hplain => cases hplain

omit [DescriptorReader] in
lemma loads_eq_empty_iff {f : NumberedFrame} :
    f.loads = .empty ↔ ∀ l number, f.available? l ≠ some number := by
  constructor
  · intro h l number hl
    rw [ValueFrame.available?, h] at hl
    cases hl
  · intro h
    refine SortedMap.ext_get? fun l => ?_
    exact Option.eq_none_iff_forall_ne_some.2 fun number => h l number

/-- Control is seen to enter the handlers of a block that it is seen to reach. -/
lemma exists_start_of_exception (h : ValueTable.ofGraph g numLocals maxStack = .ok t) {e : g.Arc}
    (he : e ∈ g.edges) (hkind : e.kind.isException = true) {index : Nat}
    (hindex : index ≤ (g.instructions e.source).length) {f : NumberedFrame}
    (hf : t.factAt? e.source index = some f) : ∃ start, t.startFact? e.target = some start := by
  obtain ⟨s, order, hn⟩ := numbers_ofGraph h
  obtain ⟨v, hv, -⟩ := (hn.factAt?_eq_some_iff hindex).1 hf
  obtain ⟨-, n, hpath⟩ := arrives_of_frame hn.solve hindex hv
  obtain ⟨_, hsource⟩ := hpath.start
  obtain ⟨start, hstart, -⟩ := frame_of_arrives hn.solve (.throw hsource he hkind)
  exact ⟨_, (hn.factAt?_eq_some_iff (Nat.zero_le _)).2 ⟨start, hstart, rfl⟩⟩

/-- **Which loads a call leaves available.** Where a call has returned, none. A handler of its block
is entered without loads exactly when each load available in front of the call is unavailable, or
has another number, in some fact that arrives at the handler, or when the handler is the entry. -/
theorem loads_behind_call (h : ValueTable.ofGraph g numLocals maxStack = .ok t) {e : g.Arc}
    (he : e ∈ g.edges) (hkind : e.kind = .handledException) {index : Nat} {i : Instruction}
    (hi : (g.instructions e.source)[index]? = some i) {call : CallSite}
    (hcall : i.op = .invoke call) {before : NumberedFrame}
    (hbefore : t.factAt? e.source index = some before) :
    (∀ after, t.factAfter? e.source index = some after → after.loads = .empty) ∧
    ∃ start, t.startFact? e.target = some start ∧
      (start.loads = .empty ↔ e.target = g.entry ∨
        ∀ l number, before.available? l = some number → ∃ e' ∈ g.edges, e'.target = e.target ∧
          ∃ f, g.Leaves t.factAt? e' f ∧ f.available? l ≠ some number) := by
  have hexception : e.kind.isException = true := by rw [hkind]; rfl
  have hleaves : g.Leaves t.factAt? e before := .raised hexception hi (by rw [hcall]; rfl) hbefore
  obtain ⟨start, hstart⟩ := exists_start_of_exception h he hexception
    (List.getElem?_eq_some_iff.1 hi).1.le hbefore
  refine ⟨fun after => loads_after_invoke h hi hcall, start, hstart, ?_⟩
  rw [loads_eq_empty_iff]
  constructor
  · intro hempty
    rw [or_iff_not_imp_left]
    intro hentry l number _
    by_contra hall
    push Not at hall
    exact hempty l number ((available_start_iff h hstart).2 ⟨hentry, hall⟩)
  · rintro hlost l number hl
    obtain ⟨hentry, hall⟩ := (available_start_iff h hstart).1 hl
    obtain ⟨e', he', ht, f, hf, hne⟩ :=
      hlost.resolve_left hentry l number (hall e he rfl before hleaves)
    exact hne (hall e' he' ht f hf)

end

/-- The body of a method that reads a static field, and then calls another method under a handler.
-/
def callUnderHandlerBody : Body where
  entry := 0
  exit := 4
  blocks := [⟨0, [⟨0, .getStatic ⟨"A", "f", "LA;"⟩⟩, ⟨1, .pop⟩]⟩,
    ⟨1, [⟨2, .invoke ⟨"A", "m", "()V", .static⟩⟩, ⟨3, .goto⟩]⟩, ⟨2, [⟨4, .pop⟩]⟩,
    ⟨3, [⟨5, .return⟩]⟩, ⟨4, []⟩]
  edges := [⟨0, 1, .fallThrough⟩, ⟨1, 3, .branch⟩, ⟨1, 2, .handledException⟩,
    ⟨2, 3, .fallThrough⟩, ⟨3, 4, .fallThrough⟩]

/-- The flow graph of this body. -/
def callUnderHandler : FlowGraph :=
  (FlowGraph.ofBody callUnderHandlerBody).toOption.get (by decide +kernel)

/-- The same, where the handler covers the read as well. -/
def readUnderHandler : FlowGraph :=
  (FlowGraph.ofBody { callUnderHandlerBody with
    edges := ⟨0, 2, .handledException⟩ :: callUnderHandlerBody.edges }).toOption.get
      (by decide +kernel)

/-- A handler that covers the read is entered without loads: in front of the read there was none. -/
theorem loads_behind_call_readUnderHandler : ∃ t, ValueTable.ofGraph readUnderHandler 0 1 = .ok t ∧
    ∃ before, t.factAt? ⟨1, by decide +kernel⟩ 0 = some before ∧ before.loads ≠ .empty ∧
      ∃ start, t.startFact? ⟨2, by decide +kernel⟩ = some start ∧ start.loads = .empty := by
  have ht : ValueTable.ofGraph readUnderHandler 0 1
      = .ok ((ValueTable.ofGraph readUnderHandler 0 1).toOption.get (by decide +kernel)) :=
    eq_ok_get _
  set t := (ValueTable.ofGraph readUnderHandler 0 1).toOption.get (by decide +kernel) with htable
  let read : readUnderHandler.Arc :=
    ⟨⟨0, by decide +kernel⟩, ⟨2, by decide +kernel⟩, .handledException⟩
  let call : readUnderHandler.Arc :=
    ⟨⟨1, by decide +kernel⟩, ⟨2, by decide +kernel⟩, .handledException⟩
  obtain ⟨f, hf, hempty⟩ : ∃ f, t.factAt? read.source 0 = some f ∧
      decide (f.loads = .empty) = true := Option.map_eq_some_iff.1 (by rw [htable]; decide +kernel)
  obtain ⟨before, hbefore, hloads⟩ : ∃ f, t.factAt? call.source 0 = some f ∧
      decide (f.loads = .empty) = false := Option.map_eq_some_iff.1 (by rw [htable]; decide +kernel)
  have hcall : (readUnderHandler.instructions call.source)[0]?
      = some ⟨2, .invoke ⟨"A", "m", "()V", .static⟩⟩ := by decide +kernel
  have hread : (readUnderHandler.instructions read.source)[0]?
      = some ⟨0, .getStatic ⟨"A", "f", "LA;"⟩⟩ := by decide +kernel
  obtain ⟨-, start, hstart, hiff⟩ :=
    loads_behind_call ht (e := call) (by decide +kernel) rfl hcall rfl hbefore
  refine ⟨t, ht, before, hbefore, of_decide_eq_false hloads, start, hstart, hiff.2 (.inr ?_)⟩
  intro l number _
  have hnone := loads_eq_empty_iff.1 (of_decide_eq_true hempty) l number
  exact ⟨read, by decide +kernel, rfl, f, .raised rfl hread rfl hf, hnone⟩

/-- **A load survives a call that throws.** -/
theorem loads_callUnderHandler : ∃ t, ValueTable.ofGraph callUnderHandler 0 1 = .ok t ∧
    ∃ e ∈ callUnderHandler.edges, e.kind = .handledException ∧
      (∃ i call, (callUnderHandler.instructions e.source)[0]? = some i ∧ i.op = .invoke call) ∧
      (t.factAt? e.source 0).isSome = true ∧
      ∃ start, t.startFact? e.target = some start ∧ start.loads ≠ .empty := by
  let e : callUnderHandler.Arc :=
    ⟨⟨1, by decide +kernel⟩, ⟨2, by decide +kernel⟩, .handledException⟩
  obtain ⟨start, hstart, hloads⟩ : ∃ f, ((ValueTable.ofGraph callUnderHandler 0 1).toOption.get
      (by decide +kernel)).startFact? e.target = some f ∧ decide (f.loads = .empty) = false :=
    Option.map_eq_some_iff.1 (by decide +kernel)
  exact ⟨_, eq_ok_get _, e, by decide +kernel, rfl,
    ⟨⟨2, .invoke ⟨"A", "m", "()V", .static⟩⟩, _, by decide +kernel, rfl⟩, by decide +kernel, start,
    hstart, of_decide_eq_false hloads⟩

end ValueTable

end Nullness
