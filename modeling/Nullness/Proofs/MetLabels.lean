import Mathlib.Tactic
import Nullness.Proofs.MergeLabels
import Nullness.Proofs.Passes

/-!
# Labels that visits meet

The facts that flow into a block are what its visits join. All labels in their slots get numbers:
the numbering follows the visits, and each fact that an edge carries has been computed by the visit
itself or by one before it.

* `FlowAnalysis.inflows`: the facts that flow into a block;
* `ValueNumbering.edgesTrace_of_foldlM`: what the trace of a visit holds;
* `ValueNumbering.arriving_numbered`: **the labels that flow into a block have numbers.**
-/

namespace Nullness

lemma toOption_eq_some_iff {ε α : Type} {x : Except ε α} {a : α} :
    x.toOption = some a ↔ x = .ok a := by
  cases x <;> simp [Except.toOption]

namespace FlowAnalysis

variable {g : FlowGraph} {Fact Decision : Type}

/-! ### What flows into a block -/

/-- The facts that an edge carries to its target. -/
def carriedAlong (A : FlowAnalysis g Fact Decision) (t : FactTable g Fact Decision) (e : g.Arc) :
    List Fact :=
  if e.kind.isException then
    ((t.get e.source).thrown.filter fun x => !A.isTop x).filterMap fun x =>
      (A.enterHandler e x).toOption.filter fun f => !A.isTop f
  else (A.carried? e (t.get e.source)).toList

/-- The facts that flow into a block. For the entry the fact on entry to the method counts as one.
-/
def inflows (A : FlowAnalysis g Fact Decision) (t : FactTable g Fact Decision) (b : g.Node) :
    List Fact :=
  [A.initial b].filter (fun f => !A.isTop f) ++ (g.incoming b).flatMap (A.carriedAlong t)

variable {A : FlowAnalysis g Fact Decision} {t : FactTable g Fact Decision} {f : Fact}

lemma mem_carriedAlong {e : g.Arc} : f ∈ A.carriedAlong t e ↔ A.Brings t e f := by
  unfold carriedAlong
  split
  · rename_i hkind
    simp only [List.mem_filterMap, List.mem_filter, Bool.not_eq_true', Option.filter_eq_some_iff]
    constructor
    · rintro ⟨x, ⟨hx, htop⟩, henter, hentered⟩
      exact .thrown hkind hx htop (toOption_eq_some_iff.1 henter) hentered
    · rintro (⟨hne, -⟩ | ⟨-, hx, htop, henter, hentered⟩)
      · exact absurd (hkind.symm.trans hne) (by decide)
      · exact ⟨_, ⟨hx, htop⟩, by rw [henter]; rfl, hentered⟩
  · rename_i hkind
    rw [Bool.not_eq_true] at hkind
    rw [Option.mem_toList]
    constructor
    · exact .normal hkind
    · rintro (⟨-, hcarried⟩ | ⟨hne, -⟩)
      · exact hcarried
      · exact absurd (hkind.symm.trans hne) (by decide)

lemma mem_inflows {b : g.Node} : f ∈ A.inflows t b ↔
    f = A.initial b ∧ A.isTop f = false ∨ ∃ e ∈ g.edges, e.target = b ∧ A.Brings t e f := by
  simp only [inflows, List.mem_append, List.mem_filter, List.mem_singleton, Bool.not_eq_true',
    List.mem_flatMap, FlowGraph.mem_incoming, mem_carriedAlong, and_assoc]

/-- Where control arrives a fact flows in. -/
lemma exists_inflow {b : g.Node} {start : Fact}
    (hhandler : ∀ e x f, A.isTop x = false → A.enterHandler e x = .ok f → A.isTop f = false)
    (h : A.startOf t b = .ok start) (htop : A.isTop start = false) : ∃ f, f ∈ A.inflows t b :=
  startOf_keeps (Q := fun f => A.isTop f = false → ∃ f, f ∈ A.inflows t b) hhandler
    (fun e he ht f hbrings _ _ _ _ _ => ⟨f, mem_inflows.2 (.inr ⟨e, he, ht, hbrings⟩)⟩)
    (fun hinitial => ⟨_, mem_inflows.2 (.inl ⟨rfl, hinitial⟩)⟩) h htop

end FlowAnalysis

namespace ValueNumbering

variable {g : FlowGraph}

/-- The labels that the facts flowing into a block carry in a slot. -/
def arriving (A : FlowAnalysis g OriginFact Unit) (t : FactTable g OriginFact Unit) (b : g.Node)
    (slot : Nat) : List ValueOrigin :=
  (A.inflows t b).filterMap fun f => f.bind fun v => v.slot? slot

lemma mem_arriving {A : FlowAnalysis g OriginFact Unit} {t : FactTable g OriginFact Unit}
    {b : g.Node} {slot : Nat} {a : ValueOrigin} :
    a ∈ arriving A t b slot ↔ ∃ v, some v ∈ A.inflows t b ∧ v.slots[slot]? = some a := by
  simp only [arriving, List.mem_filterMap, Option.bind_eq_some_iff, ValueFrame.slot?]
  constructor
  · rintro ⟨_, hmem, v, rfl, hslot⟩
    exact ⟨v, hmem, hslot⟩
  · rintro ⟨v, hmem, hslot⟩
    exact ⟨some v, hmem, v, rfl, hslot⟩

/-! ### Traces -/

section

variable {A : FlowAnalysis g OriginFact Unit} {t : FactTable g OriginFact Unit} {e : g.Arc}

/-- The trace of an exception edge holds all facts that enter the handler. -/
lemma thrownTrace_of_foldlM :
    ∀ {xs : List OriginFact} {sofar f : OriginFact}, xs.foldlM (A.joinThrown e) sofar = .ok f →
      ∃ facts, thrownTrace A e xs sofar = .ok (facts, f) ∧
        ∀ x ∈ xs, A.isTop x = false → ∀ u, A.enterHandler e x = .ok u → u ∈ facts
  | [], sofar, f, h => by
      obtain rfl : sofar = f := by simpa using h
      exact ⟨[], rfl, fun x hx => absurd hx List.not_mem_nil⟩
  | x :: xs, sofar, f, h => by
      rw [List.foldlM_cons, bind_eq_ok_iff] at h
      obtain ⟨joined, hjoin, hrest⟩ := h
      obtain ⟨later, hlater, hmem⟩ := thrownTrace_of_foldlM hrest
      rw [FlowAnalysis.joinThrown] at hjoin
      cases htop : A.isTop x with
      | true =>
          rw [if_pos htop] at hjoin
          obtain rfl := Except.ok.inj hjoin
          refine ⟨later, ?_, fun y hy hne u henter => ?_⟩
          · rw [thrownTrace, if_pos htop, hlater]
          · rcases List.mem_cons.1 hy with rfl | hy
            · exact absurd (htop.symm.trans hne) (by decide)
            · exact hmem y hy hne u henter
      | false =>
          rw [if_neg (by rw [htop]; decide), bind_eq_ok_iff] at hjoin
          obtain ⟨entered, henter, hjoin⟩ := hjoin
          refine ⟨entered :: joined :: later, ?_, fun y hy hne u henter' => ?_⟩
          · rw [thrownTrace, if_neg (by rw [htop]; decide)]
            exact bind_eq_ok_iff.2 ⟨_, henter, bind_eq_ok_iff.2 ⟨_, hjoin,
              bind_eq_ok_iff.2 ⟨_, hlater, rfl⟩⟩⟩
          · rcases List.mem_cons.1 hy with rfl | hy
            · obtain rfl := Except.ok.inj (henter.symm.trans henter')
              exact List.mem_cons_self
            · exact List.mem_cons_of_mem _ (List.mem_cons_of_mem _ (hmem y hy hne u henter'))

/-- The trace of the edges into a block holds all facts that enter the block as a handler. -/
lemma edgesTrace_of_foldlM :
    ∀ {es : List g.Arc} {sofar f : OriginFact}, es.foldlM (A.joinAlong t) sofar = .ok f →
      ∃ facts, edgesTrace A t es sofar = .ok (facts, f) ∧
        ∀ e ∈ es, e.kind.isException = true → ∀ u, A.Brings t e u → u ∈ facts
  | [], sofar, f, h => by
      obtain rfl : sofar = f := by simpa using h
      exact ⟨[], rfl, fun e he => absurd he List.not_mem_nil⟩
  | e :: es, sofar, f, h => by
      rw [List.foldlM_cons, bind_eq_ok_iff] at h
      obtain ⟨joined, hjoin, hrest⟩ := h
      obtain ⟨later, hlater, hmem⟩ := edgesTrace_of_foldlM hrest
      cases hkind : e.kind.isException with
      | true =>
          rw [FlowAnalysis.joinAlong, if_pos hkind] at hjoin
          obtain ⟨first, hfirst, hentered⟩ := thrownTrace_of_foldlM hjoin
          refine ⟨first ++ later, ?_, fun e' he' hkind' u hbrings => ?_⟩
          · rw [edgesTrace, if_pos hkind]
            exact bind_eq_ok_iff.2 ⟨_, hfirst, bind_eq_ok_iff.2 ⟨_, hlater, rfl⟩⟩
          · rcases List.mem_cons.1 he' with rfl | he'
            · cases hbrings with
              | normal hne => exact absurd (hkind.symm.trans hne) (by decide)
              | thrown _ hx htop henter _ =>
                  exact List.mem_append_left later (hentered _ hx htop u henter)
            · exact List.mem_append_right first (hmem e' he' hkind' u hbrings)
      | false =>
          refine ⟨joined :: later, ?_, fun e' he' hkind' u hbrings => ?_⟩
          · rw [edgesTrace, if_neg (by rw [hkind]; decide)]
            exact bind_eq_ok_iff.2 ⟨_, hjoin, bind_eq_ok_iff.2 ⟨_, rfl,
              bind_eq_ok_iff.2 ⟨_, hlater, rfl⟩⟩⟩
          · rcases List.mem_cons.1 he' with rfl | he'
            · exact absurd (hkind.symm.trans hkind') (by decide)
            · exact List.mem_cons_of_mem joined (hmem e' he' hkind' u hbrings)

/-- What the trace of a visit holds. -/
lemma visitTrace_of_startOf {b : g.Node} {start : OriginFact} (h : A.startOf t b = .ok start) :
    ∃ facts, visitTrace A t b = .ok facts ∧ A.initial b ∈ facts ∧
      (∀ e ∈ g.edges, e.target = b → e.kind.isException = true → ∀ u, A.Brings t e u → u ∈ facts) ∧
      ∀ index ≤ (g.instructions b).length, A.within b start index ∈ facts := by
  obtain ⟨joined, hjoined, hmem⟩ := edgesTrace_of_foldlM h
  refine ⟨_, bind_eq_ok_iff.2 ⟨_, hjoined, rfl⟩, by simp, fun e he ht hkind u hbrings => ?_,
    fun index hindex => ?_⟩
  · exact List.mem_append_left _ (List.mem_cons_of_mem _
      (hmem e (FlowGraph.mem_incoming.2 ⟨he, ht⟩) hkind u hbrings))
  · refine List.mem_append_right _ (List.mem_of_getElem? (i := index) ?_)
    exact A.getElem?_factsBetween b 0 (g.instructions b) start index hindex

/-! ### Numbered labels -/

lemma exists_mapM {ε α β : Type} {F : α → Except ε β} :
    ∀ {l : List α}, (∀ a ∈ l, ∃ b, F a = .ok b) →
      ∃ bs, l.mapM F = .ok bs ∧ ∀ a ∈ l, ∃ b ∈ bs, F a = .ok b
  | [], _ => ⟨[], rfl, fun _ ha => absurd ha List.not_mem_nil⟩
  | a :: l, h => by
      obtain ⟨b, hb⟩ := h a List.mem_cons_self
      obtain ⟨bs, hbs, hall⟩ := exists_mapM fun a' ha' => h a' (List.mem_cons_of_mem a ha')
      refine ⟨b :: bs, ?_, fun a' ha' => ?_⟩
      · rw [List.mapM_cons]
        exact bind_eq_ok_iff.2 ⟨_, hb, bind_eq_ok_iff.2 ⟨_, hbs, rfl⟩⟩
      · rcases List.mem_cons.1 ha' with rfl | ha'
        · exact ⟨b, List.mem_cons_self, hb⟩
        · obtain ⟨b', hmem, hb'⟩ := hall a' ha'
          exact ⟨b', List.mem_cons_of_mem b hmem, hb'⟩

variable {s : Solution g OriginFact Unit} {vs : List (g.Node × FactTable g OriginFact Unit)}
  {first last : FactTable g OriginFact Unit} {b : g.Node} {a : ValueOrigin}

/-- The labels in the slots of a fact that a visit computes are numbered. -/
lemma numbered_of_visitTrace (hvs : A.visits s.passes A.initialTable = .ok vs)
    (hvisited : A.Visited vs first last) (hmem : (b, t) ∈ vs) {facts : List OriginFact}
    (hfacts : visitTrace A t b = .ok facts) {f : OriginFact} (hf : f ∈ facts)
    (ha : a ∈ slotLabels f) : a ∈ numbering A s := by
  obtain ⟨traces, htraces, hall⟩ := exists_mapM (F := fun v => visitTrace A v.2 v.1) (l := vs)
    fun v hv => by
      obtain ⟨start, hstart⟩ := hvisited.succeeds hv
      obtain ⟨facts, hfacts, -⟩ := visitTrace_of_startOf hstart
      exact ⟨facts, hfacts⟩
  have htrace : trace A s.passes = .ok traces.flatten :=
    bind_eq_ok_iff.2 ⟨_, hvs, bind_eq_ok_iff.2 ⟨_, htraces, rfl⟩⟩
  obtain ⟨facts', hfacts', heq⟩ := hall _ hmem
  obtain rfl := Except.ok.inj (hfacts.symm.trans heq)
  rw [numbering, htrace, List.mem_eraseDups, List.mem_append]
  exact .inl (List.mem_flatMap.2 ⟨f, List.mem_flatten.2 ⟨facts, hfacts', hf⟩, ha⟩)

end

variable {numLocals maxStack : Nat} {s : Solution g OriginFact Unit}
  {vs : List (g.Node × FactTable g OriginFact Unit)} {last t : FactTable g OriginFact Unit}
  {b : g.Node} {slot : Nat} {a : ValueOrigin}

/-- All labels in the slots of the facts of a table are listed. -/
def SlotsIn (A : FlowAnalysis g OriginFact Unit) (order : List ValueOrigin)
    (t : FactTable g OriginFact Unit) : Prop :=
  ∀ c, ∀ index ≤ (g.instructions c).length,
    ∀ a ∈ slotLabels (A.within c (t.get c).start index), a ∈ order

/-- The facts that a table keeps while visits are made have been computed by visits. -/
lemma slotsIn_numbering [DescriptorReader]
    (hvs : (analysis g numLocals maxStack).visits s.passes
      (analysis g numLocals maxStack).initialTable = .ok vs)
    (hvisited : (analysis g numLocals maxStack).Visited vs
      (analysis g numLocals maxStack).initialTable last) (hmem : (b, t) ∈ vs) :
    (analysis g numLocals maxStack).Consistent t ∧
      SlotsIn (analysis g numLocals maxStack) (numbering (analysis g numLocals maxStack) s) t := by
  refine (hvisited.keeps (Q := fun t => (analysis g numLocals maxStack).Consistent t ∧
      SlotsIn (analysis g numLocals maxStack) (numbering (analysis g numLocals maxStack) s) t)
    (fun b t start hmem ⟨hcons, hknown⟩ hstart => ⟨hcons.set b start, ?_⟩)
    ⟨FlowAnalysis.consistent_initialTable rfl, ?_⟩).1 b t hmem
  · intro c index hindex a ha
    by_cases hc : c = b
    · subst hc
      obtain ⟨facts, hfacts, -, -, hwithin⟩ := visitTrace_of_startOf hstart
      rw [FlowAnalysis.get_set_self, FlowAnalysis.through_start] at ha
      exact numbered_of_visitTrace hvs hvisited hmem hfacts (hwithin index hindex) ha
    · rw [FlowAnalysis.get_set_of_ne t _ hc] at ha
      exact hknown c index hindex a ha
  · intro c index _ a ha
    rw [FlowAnalysis.get_initialTable] at ha
    have hstart : (analysis g numLocals maxStack).isTop
        ((analysis g numLocals maxStack).within c none 0) = true := rfl
    have hnone : (analysis g numLocals maxStack).within c none index = none :=
      Option.isNone_iff_eq_none.1
        ((analysis g numLocals maxStack).within_isTop_mono hstart (Nat.zero_le index))
    change a ∈ slotLabels ((analysis g numLocals maxStack).within c none index) at ha
    rw [hnone] at ha
    cases ha

/-- **The labels that flow into a block have numbers.** -/
theorem arriving_numbered [DescriptorReader]
    (hvs : (analysis g numLocals maxStack).visits s.passes
      (analysis g numLocals maxStack).initialTable = .ok vs)
    (hvisited : (analysis g numLocals maxStack).Visited vs
      (analysis g numLocals maxStack).initialTable last) (hmem : (b, t) ∈ vs)
    (ha : a ∈ arriving (analysis g numLocals maxStack) t b slot) :
    a ∈ numbering (analysis g numLocals maxStack) s := by
  obtain ⟨hcons, hknown⟩ := slotsIn_numbering hvs hvisited hmem
  obtain ⟨start, hstart⟩ := hvisited.succeeds hmem
  obtain ⟨facts, hfacts, hinitial, hthrown, -⟩ := visitTrace_of_startOf hstart
  obtain ⟨v, hv, hslot⟩ := mem_arriving.1 ha
  have hlabel : a ∈ slotLabels (some v) := List.mem_of_getElem? hslot
  rcases FlowAnalysis.mem_inflows.1 hv with ⟨heq, -⟩ | ⟨e, he, ht, hbrings⟩
  · exact numbered_of_visitTrace hvs hvisited hmem hfacts hinitial (heq ▸ hlabel)
  · obtain ⟨index, hindex, x, hx, hsource | ⟨hkind, -⟩⟩ := exists_within_of_brings hcons hbrings
    · exact hknown e.source index hindex a (by rwa [hx, ← hsource])
    · exact numbered_of_visitTrace hvs hvisited hmem hfacts (hthrown e he ht hkind _ hbrings) hlabel

end ValueNumbering

end Nullness
