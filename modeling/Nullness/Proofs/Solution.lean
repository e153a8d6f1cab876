import Mathlib.Tactic
import Nullness.Proofs.Dataflow

/-!
# Solutions of a forward dataflow analysis

What holds of the table that an iteration settles on, whatever the analysis.

* `FlowAnalysis.solve_solves`: the table solves the dataflow equations of all blocks that the entry
  leads to, and what it keeps of a block follows from the fact at the start (`Consistent`);
* `FlowAnalysis.solve_live`: what the steps, edges and joins of an analysis keep (`PointInvariant`)
  holds at every point that control is seen to reach;
* `FlowAnalysis.flow_bound`: the fact at the start of a block bounds all that edges carry there
  (`Brings`, `JoinBound`).
-/

namespace Nullness

namespace FlowAnalysis

variable {g : FlowGraph} {Fact Decision : Type} (A : FlowAnalysis g Fact Decision)

/-! ### Consistent tables -/

/-- What a table keeps of a block follows from the fact at its start. -/
def Consistent (t : FactTable g Fact Decision) : Prop :=
  ∀ b, t.get b = A.through b (t.get b).start

variable {A}

lemma visit_eq_ok_iff {t : FactTable g Fact Decision} {b : g.Node}
    {s : BlockFacts Fact Decision} :
    A.visit t b = .ok s ↔ ∃ start, A.startOf t b = .ok start ∧ A.through b start = s := by
  rw [visit, bind_eq_ok_iff]
  simp only [pure_eq_ok_iff]

lemma visit_eq_error_iff {t : FactTable g Fact Decision} {b : g.Node} {e : Error} :
    A.visit t b = .error e ↔ A.startOf t b = .error e := by
  rw [visit, bind_eq_error_iff]
  simp

/-- Nothing is known of a block whose start is top. -/
lemma through_top (htop : A.isTop A.top = true) (b : g.Node) :
    A.through b A.top = ⟨A.top, A.top, [], none⟩ := by
  have htraverse : A.traverse b 0 (g.instructions b) A.top = ([], A.top) := by
    cases g.instructions b with
    | nil => rfl
    | cons i rest => simp [traverse, htop]
  simp [through, htraverse, htop]

lemma consistent_initialTable (htop : A.isTop A.top = true) : A.Consistent A.initialTable := by
  intro b
  rw [get_initialTable]
  exact (through_top htop b).symm

/-- A visit keeps a table consistent. -/
lemma Consistent.set {t : FactTable g Fact Decision} (h : A.Consistent t) (b : g.Node)
    (start : Fact) : A.Consistent (t.set b (A.through b start) b.isLt) := by
  intro c
  by_cases hc : c = b
  · subst hc
    rw [get_set_self, through_start]
  · rw [get_set_of_ne t _ hc]
    exact h c

lemma Consistent.result {t : FactTable g Fact Decision} (h : A.Consistent t) (b : g.Node) :
    (t.get b).result = A.within b (t.get b).start (g.instructions b).length := by
  conv_lhs => rw [h b]
  exact A.through_result b _

/-! ### Along an iteration -/

section

variable [DecidableEq Fact]

/-- What every visit keeps, a sequence of visits keeps. -/
lemma visitAll_keeps {Q : FactTable g Fact Decision → Prop}
    (hvisit : ∀ t b start, Q t → A.startOf t b = .ok start → Q (t.set b (A.through b start) b.isLt)) :
    ∀ {blocks : List g.Node} {t t' : FactTable g Fact Decision} {changed changed' : Bool},
      Q t → A.visitAll blocks t changed = .ok (t', changed') → Q t'
  | [], t, t', changed, changed', ht, h => by
      simp only [visitAll, Except.ok.injEq, Prod.mk.injEq] at h
      exact h.1 ▸ ht
  | b :: rest, t, t', changed, changed', ht, h => by
      rw [visitAll, bind_eq_ok_iff] at h
      obtain ⟨s, hs, hrest⟩ := h
      obtain ⟨start, hstart, rfl⟩ := visit_eq_ok_iff.1 hs
      exact visitAll_keeps hvisit (hvisit t b start ht hstart) hrest

/-- Visits that change no fact leave the table as it was, and each of them has found the fact that
the table has. -/
lemma visitAll_unchanged :
    ∀ {blocks : List g.Node} {t t' : FactTable g Fact Decision} {changed : Bool},
      A.Consistent t → A.visitAll blocks t changed = .ok (t', false) →
        t' = t ∧ changed = false ∧ ∀ b ∈ blocks, A.startOf t b = .ok (t.get b).start
  | [], t, t', changed, _, h => by
      simp only [visitAll, Except.ok.injEq, Prod.mk.injEq] at h
      simp [h.1, h.2]
  | b :: rest, t, t', changed, ht, h => by
      rw [visitAll, bind_eq_ok_iff] at h
      obtain ⟨s, hs, hrest⟩ := h
      obtain ⟨start, hstart, rfl⟩ := visit_eq_ok_iff.1 hs
      obtain ⟨rfl, hchanged, hfound⟩ := visitAll_unchanged (ht.set b start) hrest
      obtain ⟨hold, hsame⟩ := Bool.or_eq_false_iff.1 hchanged
      have hstarts : start = (t.get b).start := by
        simp only [BlockFacts.differs, Bool.or_eq_false_iff, decide_eq_false_iff_not,
          not_not] at hsame
        exact hsame.1.1
      have hset : t.set b (A.through b start) b.isLt = t := by
        rw [hstarts, ← ht b]
        exact set_get_self t b
      rw [hset] at hfound ⊢
      refine ⟨rfl, hold, fun c hc => ?_⟩
      rcases List.mem_cons.1 hc with rfl | hc
      · exact hstarts ▸ hstart
      · exact hfound c hc

/-- What every visit keeps holds of the table that an iteration settles on. -/
lemma iterate_keeps {Q : FactTable g Fact Decision → Prop}
    (hvisit : ∀ t b start, Q t → A.startOf t b = .ok start → Q (t.set b (A.through b start) b.isLt)) :
    ∀ {remaining : Nat} {t : FactTable g Fact Decision} {s : Solution g Fact Decision},
      Q t → A.iterate remaining t = .ok s → Q s.table
  | 0, t, s, _, h => by simp [iterate] at h
  | remaining + 1, t, s, ht, h => by
      rw [iterate, bind_eq_ok_iff] at h
      obtain ⟨⟨t', changed⟩, hpass, hrest⟩ := h
      have ht' : Q t' := visitAll_keeps hvisit ht hpass
      cases changed with
      | true => exact iterate_keeps hvisit ht' hrest
      | false =>
          have : t' = s.table := by
            simp only [Bool.false_eq_true, if_false, pure_eq_ok_iff] at hrest
            exact congrArg Solution.table hrest
          exact this ▸ ht'

/-- The last pass of an iteration has changed nothing. -/
lemma iterate_last :
    ∀ {remaining : Nat} {t : FactTable g Fact Decision} {s : Solution g Fact Decision},
      A.Consistent t → A.iterate remaining t = .ok s →
        ∀ b ∈ g.reversePostorder, A.startOf s.table b = .ok (s.startFact b)
  | 0, t, s, _, h => by simp [iterate] at h
  | remaining + 1, t, s, ht, h => by
      rw [iterate, bind_eq_ok_iff] at h
      obtain ⟨⟨t', changed⟩, hpass, hrest⟩ := h
      cases changed with
      | true =>
          exact iterate_last (visitAll_keeps (fun t b start h _ => h.set b start) ht hpass) hrest
      | false =>
          obtain ⟨rfl, -, hfound⟩ := visitAll_unchanged ht hpass
          simp only [Bool.false_eq_true, if_false, pure_eq_ok_iff] at hrest
          subst hrest
          exact hfound

variable {s : Solution g Fact Decision}

lemma solve_consistent (htop : A.isTop A.top = true) (h : A.solve = .ok s) :
    A.Consistent s.table :=
  iterate_keeps (fun _ b start ht _ => ht.set b start) (consistent_initialTable htop) h

/-- **The table that an iteration settles on solves the dataflow equations.** -/
theorem solve_solves (htop : A.isTop A.top = true) (h : A.solve = .ok s) {b : g.Node}
    (hb : g.Reachable b) : A.startOf s.table b = .ok (s.startFact b) :=
  iterate_last (consistent_initialTable htop) h b (FlowGraph.mem_reversePostorder.2 hb)

end

/-! ### What holds at every point -/

/-- A property of facts by points that the steps, edges and joins of an analysis keep. It is asked
of facts that are not top only. -/
structure PointInvariant (A : FlowAnalysis g Fact Decision) (P : g.Node → Nat → Fact → Prop) :
    Prop where
  entry : P g.entry 0 A.entry
  step : ∀ {b index i f f'}, (g.instructions b)[index]? = some i → A.isTop f = false →
    P b index f → A.step b index i f = .ok f' → A.isTop f' = false → P b (index + 1) f'
  flow : ∀ {e f}, e ∈ g.edges → e.kind.isException = false → A.isTop f = false →
    P e.source (g.instructions e.source).length f → P e.target 0 f
  refine : ∀ {e d f}, e ∈ g.edges → e.kind.isException = false → A.isTop f = false →
    P e.source (g.instructions e.source).length f → A.isTop (A.refine e d f) = false →
    P e.target 0 (A.refine e d f)
  handler : ∀ {e index f f'}, e ∈ g.edges → e.kind.isException = true → A.isTop f = false →
    P e.source index f → A.enterHandler e f = .ok f' → A.isTop f' = false → P e.target 0 f'
  join : ∀ {e sofar f f'}, e ∈ g.edges → (A.isTop sofar = false → P e.target 0 sofar) →
    (A.isTop f = false → P e.target 0 f) → A.join e sofar f = .ok f' → A.isTop f' = false →
    P e.target 0 f'

/-- A property holds at every point of a table that control is seen to reach. -/
def Live (A : FlowAnalysis g Fact Decision) (P : g.Node → Nat → Fact → Prop)
    (t : FactTable g Fact Decision) : Prop :=
  ∀ b index, index ≤ (g.instructions b).length →
    A.isTop (A.within b (t.get b).start index) = false →
    P b index (A.within b (t.get b).start index)

/-- A fact at the start of a block bounds what its edges bring there. -/
structure JoinBound (A : FlowAnalysis g Fact Decision) (P : g.Node → Nat → Fact → Prop)
    (R : g.Node → (carried bound : Fact) → Prop) : Prop where
  arrive : ∀ {e sofar f f'}, e ∈ g.edges → (A.isTop sofar = false → P e.target 0 sofar) →
    A.isTop f = false → P e.target 0 f → A.join e sofar f = .ok f' → R e.target f f'
  stay : ∀ {e sofar f f' c}, e ∈ g.edges → (A.isTop sofar = false → P e.target 0 sofar) →
    (A.isTop f = false → P e.target 0 f) → A.join e sofar f = .ok f' → R e.target c sofar →
    R e.target c f'

/-- A fact that an edge carries to its target, under what a table knows of its source. -/
inductive Brings (A : FlowAnalysis g Fact Decision) (t : FactTable g Fact Decision) (e : g.Arc)
    (f : Fact) : Prop
  | normal : e.kind.isException = false → A.carried? e (t.get e.source) = some f → Brings A t e f
  | thrown {x : Fact} : e.kind.isException = true → x ∈ (t.get e.source).thrown →
      A.isTop x = false → A.enterHandler e x = .ok f → A.isTop f = false → Brings A t e f

/-- A join of facts into a fact: it keeps a property, what bounded the fact still bounds it, and the
joined facts are bounded. -/
structure Bounded (I : Fact → Prop) (R : Fact → Fact → Prop) (B : Fact → Prop)
    (sofar f' : Fact) : Prop where
  keeps : I f'
  stay : ∀ c, R c sofar → R c f'
  arrive : ∀ f, B f → R f f'

/-- Joins in turn are one join. -/
lemma foldlM_bounded {α : Type} {step : Fact → α → Except Error Fact} {I : Fact → Prop}
    {R : Fact → Fact → Prop} {B : α → Fact → Prop} :
    ∀ {l : List α} {sofar f' : Fact}, (∀ a ∈ l, ∀ sofar f', I sofar → step sofar a = .ok f' →
        Bounded I R (B a) sofar f') →
      I sofar → l.foldlM step sofar = .ok f' → Bounded I R (fun f => ∃ a ∈ l, B a f) sofar f'
  | [], sofar, f', _, hsofar, h => by
      obtain rfl : sofar = f' := by simpa using h
      exact ⟨hsofar, fun _ hc => hc, by simp⟩
  | a :: l, sofar, f', hstep, hsofar, h => by
      rw [List.foldlM_cons, bind_eq_ok_iff] at h
      obtain ⟨joined, hjoin, hrest⟩ := h
      have hfirst := hstep a List.mem_cons_self sofar joined hsofar hjoin
      have hlater := foldlM_bounded (fun a' ha' => hstep a' (List.mem_cons_of_mem a ha'))
        hfirst.keeps hrest
      refine ⟨hlater.keeps, fun c hc => hlater.stay c (hfirst.stay c hc), ?_⟩
      rintro f ⟨a', ha', hf⟩
      rcases List.mem_cons.1 ha' with rfl | ha'
      · exact hlater.stay f (hfirst.arrive f hf)
      · exact hlater.arrive f ⟨a', ha', hf⟩

section

variable {P : g.Node → Nat → Fact → Prop} {t : FactTable g Fact Decision}

/-- From the start of a block to every point in it. -/
lemma PointInvariant.within (hP : A.PointInvariant P) (htop : A.isTop A.top = true) {b : g.Node}
    {start : Fact} (hstart : A.isTop start = false → P b 0 start) (index : Nat)
    (hindex : index ≤ (g.instructions b).length)
    (hlive : A.isTop (A.within b start index) = false) : P b index (A.within b start index) := by
  induction index with
  | zero =>
      rw [within_zero] at hlive ⊢
      exact hstart hlive
  | succ index ih =>
      have hi := List.getElem?_eq_getElem (show index < (g.instructions b).length by omega)
      rw [A.within_succ hi] at hlive ⊢
      cases hbefore : A.isTop (A.within b start index) with
      | true => simp [hbefore] at hlive
      | false =>
          simp only [hbefore, Bool.false_eq_true, if_false, advance] at hlive ⊢
          cases hstep : A.step b index (g.instructions b)[index] (A.within b start index) with
          | error e => simp [hstep, htop] at hlive
          | ok f =>
              simp only [hstep] at hlive ⊢
              exact hP.step hi hbefore (ih (by omega) hbefore) hstep hlive

/-- What a normal edge carries. -/
lemma PointInvariant.carried (hP : A.PointInvariant P) (hcons : A.Consistent t) (hlive : A.Live P t)
    {e : g.Arc} (he : e ∈ g.edges) (hkind : e.kind.isException = false) {f : Fact}
    (hf : A.carried? e (t.get e.source) = some f) : A.isTop f = false ∧ P e.target 0 f := by
  unfold carried? at hf
  cases hres : A.isTop (t.get e.source).result with
  | true => simp [hres] at hf
  | false =>
      have hend : P e.source (g.instructions e.source).length (t.get e.source).result := by
        rw [hcons.result] at hres ⊢
        exact hlive e.source _ le_rfl hres
      simp only [hres, Bool.false_eq_true, if_false] at hf
      cases hd : (t.get e.source).decision with
      | none =>
          obtain rfl : (t.get e.source).result = f := by simpa [hd] using hf
          exact ⟨hres, hP.flow he hkind hres hend⟩
      | some d =>
          simp only [hd] at hf
          cases hrefined : A.isTop (A.refine e d (t.get e.source).result) with
          | true => simp [hrefined] at hf
          | false =>
              obtain rfl : A.refine e d (t.get e.source).result = f := by simpa [hrefined] using hf
              exact ⟨hrefined, hP.refine he hkind hres hend hrefined⟩

/-- What an exception edge carries is the fact at a point of its source. -/
lemma Consistent.thrown (hcons : A.Consistent t) {b : g.Node} {f : Fact}
    (hf : f ∈ (t.get b).thrown) : ∃ index, index ≤ (g.instructions b).length ∧
      f = A.within b (t.get b).start index := by
  unfold BlockFacts.thrown at hf
  split at hf
  · obtain rfl : f = (t.get b).start := by simpa using hf
    exact ⟨0, Nat.zero_le _, (A.within_zero b _).symm⟩
  · rw [hcons b] at hf
    obtain ⟨index, i, hi, -, rfl, -⟩ := A.mem_throwing.1 hf
    exact ⟨index, (List.getElem?_eq_some_iff.1 hi).1.le, rfl⟩

/-- Where control is seen to enter a block, its exception edges carry something. -/
lemma Consistent.exists_thrown (hcons : A.Consistent t) {b : g.Node}
    (h : A.isTop (t.get b).start = false) : ∃ x ∈ (t.get b).thrown, A.isTop x = false := by
  unfold BlockFacts.thrown
  split
  · exact ⟨_, List.mem_singleton_self _, h⟩
  · rename_i hthrowing
    obtain ⟨x, hx⟩ := List.exists_mem_of_ne_nil _ (mt List.isEmpty_iff.2 hthrowing)
    refine ⟨x, hx, ?_⟩
    rw [hcons b] at hx
    obtain ⟨_, _, _, _, _, htop⟩ := A.mem_throwing.1 hx
    exact htop

/-- What is carried along an edge has the property at its target. -/
lemma PointInvariant.brings (hP : A.PointInvariant P) (hcons : A.Consistent t) (hlive : A.Live P t)
    {e : g.Arc} (he : e ∈ g.edges) {f : Fact} (hf : A.Brings t e f) :
    A.isTop f = false ∧ P e.target 0 f := by
  cases hf with
  | normal hkind hcarried => exact hP.carried hcons hlive he hkind hcarried
  | thrown hkind hmem htop henter hentered =>
      obtain ⟨index, hindex, rfl⟩ := hcons.thrown hmem
      exact ⟨hentered, hP.handler he hkind htop (hlive _ index hindex htop) henter hentered⟩

/-- Joining a fact thrown along an edge keeps what a point invariant and a bound say. -/
lemma PointInvariant.join_thrown {R : g.Node → Fact → Fact → Prop} (hP : A.PointInvariant P)
    (hR : A.JoinBound P R) (hcons : A.Consistent t) (hlive : A.Live P t) {e : g.Arc}
    (he : e ∈ g.edges) (hkind : e.kind.isException = true) {x : Fact}
    (hx : x ∈ (t.get e.source).thrown) {sofar f' : Fact}
    (hsofar : A.isTop sofar = false → P e.target 0 sofar) (h : A.joinThrown e sofar x = .ok f') :
    Bounded (fun f => A.isTop f = false → P e.target 0 f) (R e.target)
      (fun f => A.isTop x = false ∧ A.enterHandler e x = .ok f ∧ A.isTop f = false) sofar f' := by
  unfold joinThrown at h
  split at h
  · rename_i htop
    obtain rfl : sofar = f' := by simpa using h
    refine ⟨hsofar, fun _ hc => hc, ?_⟩
    rintro f ⟨hne, -⟩
    exact absurd (htop.symm.trans hne) (by decide)
  · rename_i htop
    obtain ⟨entered, henter, hjoin⟩ := bind_eq_ok_iff.1 h
    have hentered : A.isTop entered = false → P e.target 0 entered := fun hentered =>
      (hP.brings hcons hlive he (.thrown hkind hx (Bool.eq_false_iff.2 htop) henter hentered)).2
    refine ⟨hP.join he hsofar hentered hjoin, fun c => hR.stay he hsofar hentered hjoin, ?_⟩
    rintro f ⟨-, henter', hne⟩
    obtain rfl : entered = f := by simpa [henter] using henter'
    exact hR.arrive he hsofar hne (hentered hne) hjoin

/-- Joining one edge into the fact at its target keeps what a point invariant and a bound say. -/
lemma PointInvariant.join_along {R : g.Node → Fact → Fact → Prop} (hP : A.PointInvariant P)
    (hR : A.JoinBound P R) (hcons : A.Consistent t) (hlive : A.Live P t) {e : g.Arc}
    (he : e ∈ g.edges) {sofar f' : Fact} (hsofar : A.isTop sofar = false → P e.target 0 sofar)
    (h : A.joinAlong t sofar e = .ok f') :
    Bounded (fun f => A.isTop f = false → P e.target 0 f) (R e.target) (A.Brings t e) sofar f' := by
  rw [joinAlong] at h
  cases hkind : e.kind.isException with
  | true =>
      simp only [hkind, if_true] at h
      -- every fact thrown along the edge is joined in turn
      have hfold := foldlM_bounded (fun x hx sofar f' => hP.join_thrown hR hcons hlive he hkind hx)
        hsofar h
      refine ⟨hfold.keeps, hfold.stay, fun f hf => ?_⟩
      cases hf with
      | normal hne => exact absurd (hkind.symm.trans hne) (by decide)
      | thrown _ hmem htop henter hentered => exact hfold.arrive f ⟨_, hmem, htop, henter, hentered⟩
  | false =>
      simp only [hkind, Bool.false_eq_true, if_false] at h
      cases hcarried : A.carried? e (t.get e.source) with
      | none =>
          obtain rfl : sofar = f' := by simpa [hcarried] using h
          refine ⟨hsofar, fun _ hc => hc, fun f hf => ?_⟩
          cases hf with
          | normal _ hf => exact absurd (hcarried.symm.trans hf) (by simp)
          | thrown hne => exact absurd (hkind.symm.trans hne) (by decide)
      | some f =>
          simp only [hcarried] at h
          obtain ⟨htopf, hf⟩ := hP.carried hcons hlive he hkind hcarried
          refine ⟨hP.join he hsofar (fun _ => hf) h, fun c => hR.stay he hsofar (fun _ => hf) h,
            fun f' hf' => ?_⟩
          cases hf' with
          | normal _ hf' =>
              obtain rfl := Option.some.inj (hcarried.symm.trans hf')
              exact hR.arrive he hsofar htopf hf h
          | thrown hne => exact absurd (hkind.symm.trans hne) (by decide)

lemma PointInvariant.initial (hP : A.PointInvariant P) (htop : A.isTop A.top = true) (b : g.Node)
    (h : A.isTop (A.initial b) = false) : P b 0 (A.initial b) := by
  unfold FlowAnalysis.initial at h ⊢
  split
  · rename_i hb
    exact hb ▸ hP.entry
  · rename_i hb
    rw [if_neg hb, htop] at h
    cases h

/-- The start of a block by its dataflow equation: what it is made of and what bounds it. -/
lemma PointInvariant.start_of {R : g.Node → Fact → Fact → Prop} (hP : A.PointInvariant P)
    (hR : A.JoinBound P R) (htop : A.isTop A.top = true) (hcons : A.Consistent t)
    (hlive : A.Live P t) {b : g.Node} {start : Fact} (h : A.startOf t b = .ok start) :
    Bounded (fun f => A.isTop f = false → P b 0 f) (R b)
      (fun f => ∃ e ∈ g.edges, e.target = b ∧ A.Brings t e f) (A.initial b) start := by
  have hstep : ∀ e ∈ g.incoming b, ∀ sofar f', (A.isTop sofar = false → P b 0 sofar) →
      A.joinAlong t sofar e = .ok f' →
      Bounded (fun f => A.isTop f = false → P b 0 f) (R b) (A.Brings t e) sofar f' := by
    intro e hmem sofar f' hsofar hjoin
    obtain ⟨he, rfl⟩ := FlowGraph.mem_incoming.1 hmem
    exact hP.join_along hR hcons hlive he hsofar hjoin
  have hfold := foldlM_bounded hstep (hP.initial htop b) h
  refine ⟨hfold.keeps, hfold.stay, ?_⟩
  rintro f ⟨e, he, ht, hf⟩
  exact hfold.arrive f ⟨e, FlowGraph.mem_incoming.2 ⟨he, ht⟩, hf⟩

/-- A visit that succeeds has entered its handlers. -/
lemma entered_of_startOf {b : g.Node} {start : Fact} (h : A.startOf t b = .ok start) {e : g.Arc}
    (he : e ∈ g.edges) (ht : e.target = b) (hkind : e.kind.isException = true) {x : Fact}
    (hx : x ∈ (t.get e.source).thrown) (htop : A.isTop x = false) :
    ∃ f, A.enterHandler e x = .ok f := by
  obtain ⟨_, _, hjoin⟩ := foldlM_mem h (FlowGraph.mem_incoming.2 ⟨he, ht⟩)
  rw [joinAlong, if_pos hkind] at hjoin
  obtain ⟨_, _, hjoin⟩ := foldlM_mem hjoin hx
  rw [joinThrown, if_neg (by rw [htop]; decide)] at hjoin
  obtain ⟨f, henter, -⟩ := bind_eq_ok_iff.1 hjoin
  exact ⟨f, henter⟩

/-- A property that all joins of brought facts keep holds at the start of a block. -/
lemma startOf_keeps {Q : Fact → Prop} {b : g.Node} {start : Fact}
    (hhandler : ∀ e x f, A.isTop x = false → A.enterHandler e x = .ok f → A.isTop f = false)
    (hjoin : ∀ e ∈ g.edges, e.target = b → ∀ f, A.Brings t e f → ∀ sofar f', Q sofar →
      A.join e sofar f = .ok f' → Q f')
    (hinitial : Q (A.initial b)) (h : A.startOf t b = .ok start) : Q start := by
  refine foldlM_ok (fun e he sofar f' hsofar halong => ?_) hinitial h
  obtain ⟨he, ht⟩ := FlowGraph.mem_incoming.1 he
  rw [joinAlong] at halong
  cases hkind : e.kind.isException with
  | true =>
      simp only [hkind, if_true] at halong
      refine foldlM_ok (fun x hx sofar f' hsofar hthrown => ?_) hsofar halong
      unfold joinThrown at hthrown
      split at hthrown
      · exact Except.ok.inj hthrown ▸ hsofar
      · rename_i htop
        rw [Bool.not_eq_true] at htop
        obtain ⟨f, henter, hthrown⟩ := bind_eq_ok_iff.1 hthrown
        exact hjoin e he ht f (.thrown hkind hx htop henter (hhandler e x f htop henter)) sofar f'
          hsofar hthrown
  | false =>
      simp only [hkind, Bool.false_eq_true, if_false] at halong
      cases hcarried : A.carried? e (t.get e.source) with
      | none =>
          simp only [hcarried] at halong
          exact Except.ok.inj halong ▸ hsofar
      | some f =>
          simp only [hcarried] at halong
          exact hjoin e he ht f (.normal hkind hcarried) sofar f' hsofar halong

lemma joinBound_true (A : FlowAnalysis g Fact Decision) (P : g.Node → Nat → Fact → Prop) :
    A.JoinBound P fun _ _ _ => True :=
  ⟨fun _ _ _ _ _ => trivial, fun _ _ _ _ _ => trivial⟩

/-- A visit keeps what holds at every point. -/
lemma Live.set (hlive : A.Live P t) (hP : A.PointInvariant P) (htop : A.isTop A.top = true)
    (hcons : A.Consistent t) {b : g.Node} {start : Fact} (h : A.startOf t b = .ok start) :
    A.Live P (t.set b (A.through b start) b.isLt) := by
  intro c index hindex
  by_cases hc : c = b
  · subst hc
    rw [get_set_self, through_start]
    have hstart := hP.start_of (joinBound_true A P) htop hcons hlive h
    exact hP.within htop hstart.keeps index hindex
  · rw [get_set_of_ne t _ hc]
    exact hlive c index hindex

lemma live_initialTable (htop : A.isTop A.top = true) : A.Live P A.initialTable := by
  intro b index _ h
  rw [get_initialTable] at h
  have : A.isTop (A.within b A.top index) = true :=
    A.within_isTop_mono (by rwa [within_zero]) (Nat.zero_le index)
  rw [this] at h
  cases h

variable [DecidableEq Fact] {s : Solution g Fact Decision}

/-- **What the steps, edges and joins of an analysis keep holds at every point** that control is
seen to reach. -/
theorem solve_live (hP : A.PointInvariant P) (htop : A.isTop A.top = true) (h : A.solve = .ok s) :
    A.Live P s.table :=
  (iterate_keeps (Q := fun t => A.Consistent t ∧ A.Live P t)
    (fun _ b start ht hstart => ⟨ht.1.set b start, ht.2.set hP htop ht.1 hstart⟩)
    ⟨consistent_initialTable htop, live_initialTable htop⟩ h).2

/-- **The fact at the start of a block bounds all that is carried there.** -/
theorem flow_bound {R : g.Node → Fact → Fact → Prop} (hP : A.PointInvariant P)
    (hR : A.JoinBound P R) (htop : A.isTop A.top = true) (h : A.solve = .ok s) {e : g.Arc}
    (he : e ∈ g.edges) (hb : g.Reachable e.source) {f : Fact} (hf : A.Brings s.table e f) :
    R e.target f (s.startFact e.target) :=
  (hP.start_of hR htop (solve_consistent htop h) (solve_live hP htop h)
    (solve_solves htop h (.step hb he))).arrive f ⟨e, he, rfl, hf⟩

/-- The fact at the start of the entry bounds the fact on entry to the method. -/
theorem entry_bound {R : g.Node → Fact → Fact → Prop} (hP : A.PointInvariant P)
    (hR : A.JoinBound P R) (htop : A.isTop A.top = true) (h : A.solve = .ok s)
    (hentry : R g.entry A.entry A.entry) : R g.entry A.entry (s.startFact g.entry) := by
  refine (hP.start_of hR htop (solve_consistent htop h) (solve_live hP htop h)
    (solve_solves htop h .entry)).stay A.entry ?_
  rwa [FlowAnalysis.initial, if_pos rfl]

end

end FlowAnalysis

end Nullness
