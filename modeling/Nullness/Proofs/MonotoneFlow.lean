import Mathlib.Order.KrullDimension
import Mathlib.Tactic
import Nullness.Proofs.Equations

/-!
# Monotone analyses

Where facts are joined to their least upper bound, and what an edge delivers grows with the fact at the
start of its source, the starts of blocks ascend from visit to visit, and stay below every solution of
the dataflow equations. So the iteration ends with the least solution, in whatever order it visits
blocks and joins edges.

* `FlowAnalysis.MonotoneFlow`: the conditions on an analysis;
* `FlowAnalysis.inflow`: the right-hand side of the equation of a block, and `startOf_eq_inflow`;
* `FlowAnalysis.MonotoneFlow.converges`: **the iteration ends in time** if facts ascend by few steps;
* `FlowAnalysis.MonotoneFlow.isLeast`: **it ends with the least solution**;
* `FlowAnalysis.least_solution`: both, for facts without long ascending chains and for every order of
  the edges.
-/

namespace Nullness

namespace FlowAnalysis

variable {g : FlowGraph} {Fact Decision : Type}

/-! ### What an edge delivers -/

/-- The facts that an edge carries, joined; top when it carries none. -/
def delivery (A : FlowAnalysis g Fact Decision) (e : g.Arc) (s : BlockFacts Fact Decision) :
    Except Error Fact :=
  if e.kind.isException then s.thrown.foldlM (A.joinThrown e) A.top
  else .ok ((A.carried? e s).getD A.top)

variable [SemilatticeSup Fact] [OrderBot Fact]

/-- Top is the least fact, facts are joined to their least upper bound, and an edge delivers a fact
that grows with the fact at the start of its source. -/
structure MonotoneFlow (A : FlowAnalysis g Fact Decision) (deliver : g.Arc → Fact → Fact) : Prop where
  top_eq : A.top = ⊥
  isTop_iff : ∀ f, A.isTop f = true ↔ f = ⊥
  join_eq : ∀ e ∈ g.edges, ∀ f f', A.join e f f' = .ok (f ⊔ f')
  delivers : ∀ e ∈ g.edges, ∀ start, A.delivery e (A.through e.source start) = .ok (deliver e start)
  monotone : ∀ e ∈ g.edges, Monotone (deliver e)

/-- The right-hand side of the equation of a block: its initial fact and all that its edges deliver. -/
def inflow (A : FlowAnalysis g Fact Decision) (deliver : g.Arc → Fact → Fact) (σ : g.Node → Fact)
    (b : g.Node) : Fact :=
  (g.incoming b).foldl (fun f e => f ⊔ deliver e (σ e.source)) (A.initial b)

variable {A : FlowAnalysis g Fact Decision} {deliver : g.Arc → Fact → Fact} {σ τ : g.Node → Fact}
  {b : g.Node}

omit [OrderBot Fact] in
lemma foldl_sup_le_iff {α : Type} {x : α → Fact} {f f' : Fact} :
    ∀ {l : List α}, l.foldl (fun f a => f ⊔ x a) f ≤ f' ↔ f ≤ f' ∧ ∀ a ∈ l, x a ≤ f'
  | [] => by simp
  | a :: l => by
      rw [List.foldl_cons, foldl_sup_le_iff, sup_le_iff, List.forall_mem_cons, and_assoc]

omit [OrderBot Fact] in
/-- What arrives is the least upper bound of the initial fact and what the edges deliver. -/
lemma inflow_le_iff {f : Fact} : A.inflow deliver σ b ≤ f ↔
    A.initial b ≤ f ∧ ∀ e ∈ g.edges, e.target = b → deliver e (σ e.source) ≤ f := by
  rw [inflow, foldl_sup_le_iff]
  simp only [FlowGraph.mem_incoming, and_imp]

/-- Facts that a visit does not lead out of, with ranks that ascend with them and are bounded. -/
structure Rank (A : FlowAnalysis g Fact Decision) (deliver : g.Arc → Fact → Fact) (P : Fact → Prop)
    (rank : Fact → Nat) (bound : Nat) : Prop where
  bot : P ⊥
  entry : P A.entry
  sup : ∀ {f f'}, P f → P f' → P (f ⊔ f')
  deliver : ∀ e ∈ g.edges, ∀ {f}, P f → P (deliver e f)
  le : ∀ {f}, P f → rank f ≤ bound
  lt : ∀ {f f'}, P f → P f' → f < f' → rank f < rank f'

variable {P : Fact → Prop} {rank : Fact → Nat} {bound : Nat}

lemma Rank.inflow (h : A.MonotoneFlow deliver) (hrank : A.Rank deliver P rank bound)
    (hσ : ∀ b, P (σ b)) (b : g.Node) : P (A.inflow deliver σ b) := by
  have hinitial : P (A.initial b) := by
    unfold initial
    split
    · exact hrank.entry
    · rw [h.top_eq]
      exact hrank.bot
  refine List.foldlRecOn (g.incoming b) _ hinitial fun f hf e he => ?_
  exact hrank.sup hf (hrank.deliver e (FlowGraph.mem_incoming.1 he).1 (hσ e.source))

namespace MonotoneFlow

lemma isTop_top (h : A.MonotoneFlow deliver) : A.isTop A.top = true := (h.isTop_iff _).2 h.top_eq

/-- More at the starts lets more arrive. -/
lemma inflow_mono (h : A.MonotoneFlow deliver) (hστ : σ ≤ τ) (b : g.Node) :
    A.inflow deliver σ b ≤ A.inflow deliver τ b := by
  obtain ⟨hinitial, hedges⟩ := inflow_le_iff.1 (le_refl (A.inflow deliver τ b))
  exact inflow_le_iff.2 ⟨hinitial, fun e he ht =>
    (h.monotone e he (hστ e.source)).trans (hedges e he ht)⟩

/-- Where no control is seen to arrive nothing is delivered. -/
lemma deliver_bot (h : A.MonotoneFlow deliver) {e : g.Arc} (he : e ∈ g.edges) : deliver e ⊥ = ⊥ := by
  have hdelivers := h.delivers e he ⊥
  rw [← h.top_eq, through_top h.isTop_top] at hdelivers
  have hnothing : A.delivery e ⟨A.top, A.top, [], none⟩ = .ok A.top := by
    unfold delivery
    split
    · simp [BlockFacts.thrown, joinThrown, h.isTop_top]
    · simp [carried?, h.isTop_top]
  rw [hnothing] at hdelivers
  rw [← h.top_eq]
  exact (Except.ok.inj hdelivers).symm

/-- Facts of an exception edge are joined one after the other into what has arrived so far. -/
lemma foldlM_joinThrown (h : A.MonotoneFlow deliver) {e : g.Arc} (he : e ∈ g.edges) {f f' : Fact} :
    ∀ {thrown : List Fact} {sofar : Fact}, thrown.foldlM (A.joinThrown e) sofar = .ok f' →
      thrown.foldlM (A.joinThrown e) (f ⊔ sofar) = .ok (f ⊔ f')
  | [], sofar, hfold => by
      obtain rfl : sofar = f' := by simpa using hfold
      rfl
  | x :: thrown, sofar, hfold => by
      rw [List.foldlM_cons, bind_eq_ok_iff] at hfold ⊢
      obtain ⟨joined, hjoin, hrest⟩ := hfold
      refine ⟨f ⊔ joined, ?_, h.foldlM_joinThrown he hrest⟩
      unfold joinThrown at hjoin ⊢
      split at hjoin
      · rename_i htop
        obtain rfl : sofar = joined := by simpa using hjoin
        rw [if_pos htop]
      · rename_i htop
        rw [if_neg htop]
        obtain ⟨entered, henter, hjoin⟩ := bind_eq_ok_iff.1 hjoin
        refine bind_eq_ok_iff.2 ⟨entered, henter, ?_⟩
        rw [h.join_eq e he] at hjoin ⊢
        rw [sup_assoc, Except.ok.inj hjoin]

/-- Joining an edge adds what it delivers. -/
lemma joinAlong_eq (h : A.MonotoneFlow deliver) {t : FactTable g Fact Decision} (hcons : A.Consistent t)
    {e : g.Arc} (he : e ∈ g.edges) (sofar : Fact) :
    A.joinAlong t sofar e = .ok (sofar ⊔ deliver e (starts t e.source)) := by
  have hdelivers : A.delivery e (t.get e.source) = .ok (deliver e (starts t e.source)) := by
    rw [hcons e.source]
    exact h.delivers e he _
  unfold delivery at hdelivers
  unfold joinAlong
  split at hdelivers
  · rename_i hkind
    have hfold := h.foldlM_joinThrown he (f := sofar) hdelivers
    rw [h.top_eq, sup_bot_eq] at hfold
    simp only [hkind, if_true]
    exact hfold
  · rename_i hkind
    have hcarried := Except.ok.inj hdelivers
    simp only [hkind, Bool.false_eq_true, if_false]
    rw [← hcarried]
    cases A.carried? e (t.get e.source) with
    | none => simp [h.top_eq]
    | some f => simp [h.join_eq e he]

/-- **The start of a block is what arrives there.** -/
lemma startOf_eq_inflow (h : A.MonotoneFlow deliver) {t : FactTable g Fact Decision}
    (hcons : A.Consistent t) (b : g.Node) : A.startOf t b = .ok (A.inflow deliver (starts t) b) :=
  foldlM_eq_foldl fun _ he => h.joinAlong_eq hcons (FlowGraph.mem_incoming.1 he).1

/-- Solutions are what arrives under them. -/
lemma solves_iff (h : A.MonotoneFlow deliver) : A.Solves σ ↔ ∀ b, A.inflow deliver σ b = σ b := by
  refine forall_congr' fun b => ?_
  rw [h.startOf_eq_inflow (consistent_tableOf σ), starts_tableOf, Except.ok.injEq]

/-! ### Ascending tables -/

/-- A consistent table that is not above what arrives under it. -/
structure Rising (A : FlowAnalysis g Fact Decision) (deliver : g.Arc → Fact → Fact)
    (t : FactTable g Fact Decision) : Prop where
  consistent : A.Consistent t
  le_inflow : ∀ b, starts t b ≤ A.inflow deliver (starts t) b

lemma rising_initialTable (h : A.MonotoneFlow deliver) : Rising A deliver A.initialTable where
  consistent := consistent_initialTable h.isTop_top
  le_inflow b := by
    rw [starts, get_initialTable, h.top_eq]
    exact bot_le

omit [SemilatticeSup Fact] [OrderBot Fact] in
lemma starts_set (t : FactTable g Fact Decision) (b : g.Node) (start : Fact) :
    starts (t.set b (A.through b start) b.isLt) = Function.update (starts t) b start := by
  funext c
  by_cases hc : c = b
  · subst hc
    rw [starts, get_set_self, through_start, Function.update_self]
  · rw [starts, get_set_of_ne t _ hc, Function.update_of_ne hc]
    rfl

/-- A visit raises the start of its block, and the table stays below what arrives. -/
lemma Rising.visit (h : A.MonotoneFlow deliver) {t : FactTable g Fact Decision}
    (ht : Rising A deliver t) {b : g.Node} {start : Fact} (hstart : A.startOf t b = .ok start) :
    Rising A deliver (t.set b (A.through b start) b.isLt) ∧
      starts t ≤ starts (t.set b (A.through b start) b.isLt) := by
  obtain rfl : A.inflow deliver (starts t) b = start :=
    Except.ok.inj ((h.startOf_eq_inflow ht.consistent b).symm.trans hstart)
  have hle : starts t ≤ starts (t.set b (A.through b (A.inflow deliver (starts t) b)) b.isLt) := by
    rw [starts_set]
    exact le_update_self_iff.2 (ht.le_inflow b)
  refine ⟨⟨ht.consistent.set b _, fun c => ?_⟩, hle⟩
  refine le_trans ?_ (h.inflow_mono hle c)
  rw [starts_set]
  by_cases hc : c = b
  · rw [hc, Function.update_self]
  · rw [Function.update_of_ne hc]
    exact ht.le_inflow c

/-- A visit keeps the starts below every solution, and below everything under which no more
arrives. -/
lemma visit_le (h : A.MonotoneFlow deliver) (hσ : ∀ b, A.inflow deliver σ b ≤ σ b)
    {t : FactTable g Fact Decision} (hcons : A.Consistent t) (ht : starts t ≤ σ) {b : g.Node}
    {start : Fact} (hstart : A.startOf t b = .ok start) :
    starts (t.set b (A.through b start) b.isLt) ≤ σ := by
  obtain rfl : A.inflow deliver (starts t) b = start :=
    Except.ok.inj ((h.startOf_eq_inflow hcons b).symm.trans hstart)
  rw [starts_set]
  exact update_le_iff.2 ⟨(h.inflow_mono ht b).trans (hσ b), fun c _ => ht c⟩

/-! ### The iteration -/

variable [DecidableEq Fact] {s : Solution g Fact Decision} {t t' : FactTable g Fact Decision}
  {n : Nat}

lemma rising_after (h : A.MonotoneFlow deliver) (hafter : A.After n t) : Rising A deliver t :=
  hafter.keeps (fun _ _ _ ht hstart => (ht.visit h hstart).1) h.rising_initialTable

/-- All starts are ranked. -/
lemma ranked_after (h : A.MonotoneFlow deliver) (hrank : A.Rank deliver P rank bound)
    (hafter : A.After n t) : ∀ b, P (t.get b).start := by
  have hkept := hafter.keeps (Q := fun t => A.Consistent t ∧ ∀ b, P (t.get b).start)
    (fun t b start ht hstart => ⟨ht.1.set b start, fun c => ?_⟩)
    ⟨consistent_initialTable h.isTop_top, fun b => by rw [get_initialTable, h.top_eq]; exact hrank.bot⟩
  · exact hkept.2
  · rw [h.startOf_eq_inflow ht.1] at hstart
    change P (starts (t.set b (A.through b start) b.isLt) c)
    rw [starts_set, ← Except.ok.inj hstart]
    by_cases hc : c = b
    · rw [hc, Function.update_self]
      exact hrank.inflow h ht.2 b
    · rw [Function.update_of_ne hc]
      exact ht.2 c

/-- **No start drops in a pass.** -/
lemma starts_le_pass (h : A.MonotoneFlow deliver) (ht : Rising A deliver t) {changed : Bool}
    (hpass : A.pass t = .ok (t', changed)) : starts t ≤ starts t' :=
  (visitAll_keeps (Q := fun t' => Rising A deliver t' ∧ starts t ≤ starts t')
    (fun _ _ _ hu hstart =>
      have hvisit := hu.1.visit h hstart
      ⟨hvisit.1, hu.2.trans hvisit.2⟩)
    ⟨ht, le_rfl⟩ hpass).2

lemma pass_ne_error (h : A.MonotoneFlow deliver) (hcons : A.Consistent t) {err : Error} :
    A.pass t ≠ .error err := by
  intro herr
  obtain ⟨t', b, hcons', hstart⟩ :=
    visitAll_error (Q := A.Consistent) (fun _ b start ht _ => ht.set b start) hcons herr
  rw [h.startOf_eq_inflow hcons'] at hstart
  cases hstart

/-- Passes that each change a fact raise the ranks of the starts. -/
lemma after_le_sum (h : A.MonotoneFlow deliver) (hrank : A.Rank deliver P rank bound)
    (hafter : A.After n t) : n ≤ ∑ b, rank (t.get b).start := by
  induction hafter with
  | nothing => exact Nat.zero_le _
  | @pass n t t' hafter hpass ih =>
      have ht := h.rising_after hafter
      have hle := h.starts_le_pass ht hpass
      refine Nat.lt_of_le_of_lt ih (sum_lt_of_pass ht.consistent hpass fun b hne => ?_)
      exact hrank.lt (h.ranked_after hrank hafter b) (h.ranked_after hrank (hafter.pass hpass) b)
        (lt_of_le_of_ne (hle b) hne)

/-- **The iteration ends in time** if facts ascend by few steps. -/
theorem converges (h : A.MonotoneFlow deliver) (hrank : A.Rank deliver P rank bound)
    (hbound : bound ≤ A.height) : ∃ s, A.solve = .ok s ∧ s.passes ≤ g.size * bound + 1 := by
  have hsteps : ∀ {n t}, A.After n t → n ≤ g.size * bound := fun hafter =>
    (h.after_le_sum hrank hafter).trans
      (sum_le_of_le fun b => hrank.le (h.ranked_after hrank hafter b))
  have hlimit : g.size * bound < A.passLimit :=
    Nat.lt_succ_of_le (Nat.mul_le_mul (le_max_left _ _) (hbound.trans (Nat.le_succ _)))
  cases hsolve : A.solve with
  | error err =>
      exfalso
      rcases solve_error_cases hsolve with ⟨n, t, -, hafter, hpass⟩ | ⟨-, t, hafter⟩
      · exact h.pass_ne_error (h.rising_after hafter).consistent hpass
      · exact absurd (hsteps hafter) (not_le.2 hlimit)
  | ok s =>
      obtain ⟨k, t, hpasses, hafter, -⟩ := solve_last_pass hsolve
      refine ⟨s, rfl, ?_⟩
      rw [hpasses]
      exact Nat.succ_le_succ (hsteps hafter)

/-- The starts stay below everything under which no more arrives. -/
lemma startFact_le (h : A.MonotoneFlow deliver) (hsolve : A.solve = .ok s)
    (hσ : ∀ b, A.inflow deliver σ b ≤ σ b) : s.startFact ≤ σ := by
  have hinitial : starts A.initialTable ≤ σ := fun b => by
    rw [starts, get_initialTable, h.top_eq]
    exact bot_le
  exact (iterate_keeps (Q := fun t => A.Consistent t ∧ starts t ≤ σ)
    (fun _ b start ht hstart => ⟨ht.1.set b start, h.visit_le hσ ht.1 ht.2 hstart⟩)
    ⟨consistent_initialTable h.isTop_top, hinitial⟩ hsolve).2

omit [DecidableEq Fact] in
/-- At a block that the entry does not lead to nothing arrives. -/
lemma inflow_unreached (h : A.MonotoneFlow deliver) (hσ : ∀ b, ¬ g.Reachable b → σ b = ⊥)
    (hb : ¬ g.Reachable b) : A.inflow deliver σ b = ⊥ := by
  refine le_bot_iff.1 (inflow_le_iff.2 ⟨?_, fun e he ht => ?_⟩)
  · have hentry : b ≠ g.entry := fun heq => hb (heq ▸ .entry)
    rw [initial, if_neg hentry, h.top_eq]
  · have hsource : ¬ g.Reachable e.source := fun hsource => hb (ht ▸ .step hsource he)
    rw [hσ _ hsource, h.deliver_bot he]

/-- The starts that an iteration settles on satisfy the equations of all blocks. -/
lemma inflow_startFact (h : A.MonotoneFlow deliver) (hsolve : A.solve = .ok s) (b : g.Node) :
    A.inflow deliver s.startFact b = s.startFact b := by
  by_cases hb : g.Reachable b
  · have hstart := solve_solves h.isTop_top hsolve hb
    rw [h.startOf_eq_inflow (solve_consistent h.isTop_top hsolve)] at hstart
    exact Except.ok.inj hstart
  · have hbot : ∀ b, ¬ g.Reachable b → s.startFact b = ⊥ := fun b hb => by
      rw [Solution.startFact, solve_unreached hsolve hb, h.top_eq]
    rw [h.inflow_unreached hbot hb, hbot b hb]

/-- **The iteration ends with the least solution.** -/
theorem isLeast (h : A.MonotoneFlow deliver) (hsolve : A.solve = .ok s) :
    IsLeast {σ | A.Solves σ} s.startFact :=
  ⟨h.solves_iff.2 (h.inflow_startFact hsolve), fun _ hσ =>
    h.startFact_le hsolve fun b => (h.solves_iff.1 hσ b).le⟩

end MonotoneFlow

/-! ### Facts without long ascending chains -/

/-- Where ascending chains are short, the longest chain below a fact ranks it. -/
lemma rank_height (hchains : ∀ c : LTSeries Fact, c.length ≤ A.height) :
    A.Rank deliver (fun _ => True) (fun f => (Order.height f).toNat) A.height := by
  have hle : ∀ f : Fact, Order.height f ≤ A.height := fun f =>
    Order.height_le fun c _ => by exact_mod_cast hchains c
  have hfinite : ∀ f : Fact, Order.height f < ⊤ := fun f => (hle f).trans_lt (ENat.natCast_lt_top _)
  refine ⟨trivial, trivial, fun _ _ => trivial, fun _ _ _ _ => trivial, fun {f} _ => ?_,
    fun {f f'} _ _ hlt => ?_⟩
  · exact ENat.toNat_le_of_le_natCast (hle f)
  · have hheight := Order.height_strictMono hlt (hfinite f)
    rw [← ENat.natCast_toNat (hfinite f).ne, ← ENat.natCast_toNat (hfinite f').ne] at hheight
    exact_mod_cast hheight

end FlowAnalysis

/-! ### Edges in another order -/

/-- The graph with its edges listed in another order. Its blocks are those of the graph. -/
abbrev FlowGraph.relist (g : FlowGraph) (edges : List g.Arc) (h : edges.Perm g.edges) : FlowGraph where
  size := g.size
  entry := g.entry
  exit := g.exit
  code := g.code
  edges := edges
  exit_final e he := g.exit_final e (h.mem_iff.1 he)

namespace FlowAnalysis

variable {g : FlowGraph} {Fact Decision : Type} {A : FlowAnalysis g Fact Decision}
  {deliver : g.Arc → Fact → Fact}

/-- The analysis of the graph with its edges in another order. -/
abbrev relist (A : FlowAnalysis g Fact Decision) {edges : List g.Arc} (h : edges.Perm g.edges) :
    FlowAnalysis (g.relist edges h) Fact Decision where
  top := A.top
  isTop := A.isTop
  entry := A.entry
  height := A.height
  step := A.step
  decide := A.decide
  refine := A.refine
  enterHandler := A.enterHandler
  join := A.join

lemma traverse_relist {edges : List g.Arc} (h : edges.Perm g.edges) (b : g.Node) :
    ∀ (index : Nat) (code : List Instruction) (f : Fact),
      (A.relist h).traverse b index code f = A.traverse b index code f
  | _, [], _ => rfl
  | index, i :: rest, f => by
      simp only [traverse, traverse_relist h b (index + 1) rest]
      rfl

lemma through_relist {edges : List g.Arc} (h : edges.Perm g.edges) (b : g.Node) (start : Fact) :
    (A.relist h).through b start = A.through b start := by
  unfold through
  rw [traverse_relist h b]
  rfl

variable [SemilatticeSup Fact] [OrderBot Fact]

lemma MonotoneFlow.relist (h : A.MonotoneFlow deliver) {edges : List g.Arc}
    (hperm : edges.Perm g.edges) : (A.relist hperm).MonotoneFlow deliver where
  top_eq := h.top_eq
  isTop_iff := h.isTop_iff
  join_eq e he := h.join_eq e (hperm.mem_iff.1 he)
  delivers e he start := by
    rw [through_relist]
    exact h.delivers e (hperm.mem_iff.1 he) start
  monotone e he := h.monotone e (hperm.mem_iff.1 he)

omit [OrderBot Fact] in
/-- What arrives at a block does not depend on the order of its edges. -/
lemma inflow_relist {edges : List g.Arc} (hperm : edges.Perm g.edges) (σ : g.Node → Fact)
    (b : g.Node) : (A.relist hperm).inflow deliver σ b = A.inflow deliver σ b := by
  refine eq_of_forall_ge_iff fun f => ?_
  rw [inflow_le_iff, inflow_le_iff]
  exact and_congr_right fun _ => forall_congr' fun e => imp_congr hperm.mem_iff Iff.rfl

lemma MonotoneFlow.solves_relist (h : A.MonotoneFlow deliver) {edges : List g.Arc}
    (hperm : edges.Perm g.edges) {σ : g.Node → Fact} : (A.relist hperm).Solves σ ↔ A.Solves σ := by
  rw [(h.relist hperm).solves_iff, h.solves_iff]
  exact forall_congr' fun b => by rw [inflow_relist]

/-! ### The least solution -/

variable [DecidableEq Fact]

lemma MonotoneFlow.execute_within (h : A.MonotoneFlow deliver)
    (hchains : ∀ c : LTSeries Fact, c.length ≤ A.height) (hlimit : A.passLimit < wordSize) :
    ∃ s, A.execute = .ok s ∧ s.passes ≤ g.size * A.height + 1 := by
  rw [A.execute_eq_solve hlimit]
  exact h.converges (rank_height hchains) le_rfl

/-- **A monotone analysis converges to the least solution.** If facts are joined to their least upper
bound, each edge delivers more when more is known at the start of its source, and no chain of facts
ascends by more steps than the height, then the iteration ends within as many passes as there are
blocks times the height, and one more; what it ends with solves the dataflow equations, and lies below
every other solution at every block. The edges may be listed in any order. The limit on the passes
has to be a machine word. -/
theorem least_solution (h : A.MonotoneFlow deliver)
    (hchains : ∀ c : LTSeries Fact, c.length ≤ A.height) (hlimit : A.passLimit < wordSize) :
    ∃ s, A.execute = .ok s ∧ s.passes ≤ g.size * A.height + 1 ∧
      IsLeast {σ | A.Solves σ} s.startFact ∧
      ∀ (edges : List g.Arc) (hperm : edges.Perm g.edges),
        ∃ s', (A.relist hperm).execute = .ok s' ∧
          s'.passes ≤ g.size * A.height + 1 ∧ s'.startFact = s.startFact := by
  obtain ⟨s, hexecute, hpasses⟩ := h.execute_within hchains hlimit
  have hleast := h.isLeast (A.execute_eq_ok_iff.1 hexecute).2
  refine ⟨s, hexecute, hpasses, hleast, fun edges hperm => ?_⟩
  obtain ⟨s', hexecute', hpasses'⟩ := (h.relist hperm).execute_within hchains hlimit
  have hleast' := (h.relist hperm).isLeast ((A.relist hperm).execute_eq_ok_iff.1 hexecute').2
  simp only [h.solves_relist] at hleast'
  exact ⟨s', hexecute', hpasses', hleast'.unique hleast⟩

/-- What an edge of the loop delivers when its source starts with some number of loads. -/
def loadsDelivered (e : loadingLoop.Arc) (start : Fin 5) : Fin 5 :=
  let facts := (loadCount loadingLoop).through e.source start
  ((loadCount loadingLoop).delivery e facts).toOption.getD (loadCount loadingLoop).top

/-- Counting loads is monotone, and counts ascend by four steps at most. -/
theorem least_solution_loadCount : ∃ s, (loadCount loadingLoop).execute = .ok s ∧ s.passes ≤ 25 ∧
    IsLeast {σ | (loadCount loadingLoop).Solves σ} s.startFact ∧
    ∀ (edges : List loadingLoop.Arc) (hperm : edges.Perm loadingLoop.edges),
      ∃ s', ((loadCount loadingLoop).relist hperm).execute = .ok s' ∧
        s'.passes ≤ 25 ∧ s'.startFact = s.startFact := by
  have hmono : (loadCount loadingLoop).MonotoneFlow loadsDelivered :=
    { top_eq := rfl
      isTop_iff := by decide
      join_eq := fun _ _ _ _ => rfl
      delivers := by decide +kernel
      monotone := by decide +kernel }
  exact least_solution hmono (fun c => Nat.le_of_lt_succ c.length_lt_card) (by decide +kernel)

end FlowAnalysis

end Nullness
