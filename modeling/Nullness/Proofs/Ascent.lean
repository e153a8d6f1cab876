import Mathlib.Tactic
import Mathlib.Algebra.Order.BigOperators.Group.Finset
import Nullness.Proofs.Passes

/-!
# Iterations that ascend

An iteration computes the start of a block from scratch in every visit, so a fact may drop from one
pass to the next. It ends in time where none does.

* `FlowAnalysis.Drops`: a pass after which the start of some block does not lie above what it was;
* `FlowAnalysis.Potential`: a measure of facts that grows wherever the start of a block ascends;
* `FlowAnalysis.Potential.drops`: among more passes than the potential of a table allows, a fact
  drops in one;
* `FlowAnalysis.Potential.notConverged_iff`: **an iteration gives up exactly when all its passes
  succeed and change a fact, and in one of them a fact drops.**
-/

namespace Nullness

namespace FlowAnalysis

variable {g : FlowGraph} {Fact Decision : Type} {A : FlowAnalysis g Fact Decision}
  [DecidableEq Fact] {t t' : FactTable g Fact Decision}

/-! ### Passes that change a fact -/

lemma visitAll_get_of_notMem {blocks : List g.Node} {changed changed' : Bool} {b : g.Node}
    (h : A.visitAll blocks t changed = .ok (t', changed')) (hb : b ∉ blocks) :
    t'.get b = t.get b := by
  induction blocks generalizing t changed with
  | nil =>
      simp only [visitAll, Except.ok.injEq, Prod.mk.injEq] at h
      rw [h.1]
  | cons c rest ih =>
      rw [visitAll, bind_eq_ok_iff] at h
      obtain ⟨s, -, hrest⟩ := h
      rw [List.mem_cons, not_or] at hb
      rw [ih hrest hb.2, get_set_of_ne t s hb.1]

/-- Visits that leave all starts as they were have changed nothing. -/
lemma visitAll_unchanged_of_starts {blocks : List g.Node} {changed changed' : Bool}
    (hnodup : blocks.Nodup) (hcons : A.Consistent t)
    (h : A.visitAll blocks t changed = .ok (t', changed'))
    (hstarts : ∀ b, (t'.get b).start = (t.get b).start) : changed' = changed := by
  induction blocks generalizing t changed with
  | nil =>
      simp only [visitAll, Except.ok.injEq, Prod.mk.injEq] at h
      exact h.2.symm
  | cons b rest ih =>
      obtain ⟨hb, hnodup⟩ := List.nodup_cons.1 hnodup
      rw [visitAll, bind_eq_ok_iff] at h
      obtain ⟨s, hs, hrest⟩ := h
      obtain ⟨start, -, rfl⟩ := visit_eq_ok_iff.1 hs
      -- the block is not visited again, so its start is the one that has been found
      have hstart : start = (t.get b).start := by
        have hget := visitAll_get_of_notMem hrest hb
        rw [get_set_self] at hget
        rw [← hstarts b, hget, through_start]
      have hsame : A.through b start = t.get b := by rw [hstart, ← hcons b]
      have hset : t.set b (A.through b start) b.isLt = t := by rw [hsame, set_get_self]
      rw [hset] at hrest
      rw [ih hnodup hcons hrest hstarts, hsame]
      simp [BlockFacts.differs]

/-- A pass that changes a fact changes the start of a block. -/
lemma pass_changed (hcons : A.Consistent t) (h : A.pass t = .ok (t', true)) :
    ∃ b, (t.get b).start ≠ (t'.get b).start := by
  by_contra hnone
  push Not at hnone
  have hfalse := visitAll_unchanged_of_starts (FlowGraph.nodup_reversePostorder g) hcons h
    fun b => (hnone b).symm
  cases hfalse

/-! ### Potentials of a table -/

omit [DecidableEq Fact] in
lemma sum_le_of_le {μ : Fact → Nat} {bound : Nat} (h : ∀ b, μ (t.get b).start ≤ bound) :
    ∑ b, μ (t.get b).start ≤ g.size * bound := by
  have hle := Finset.sum_le_card_nsmul Finset.univ (fun b : g.Node => μ (t.get b).start) bound
    fun b _ => h b
  simpa using hle

/-- A pass that raises the potential of every fact that it changes raises the potential of the
table. -/
lemma sum_lt_of_pass {μ : Fact → Nat} (hcons : A.Consistent t) (hpass : A.pass t = .ok (t', true))
    (hlt : ∀ b, (t.get b).start ≠ (t'.get b).start → μ (t.get b).start < μ (t'.get b).start) :
    ∑ b, μ (t.get b).start < ∑ b, μ (t'.get b).start := by
  obtain ⟨b, hne⟩ := pass_changed hcons hpass
  refine Finset.sum_lt_sum (fun c _ => ?_) ⟨b, Finset.mem_univ b, hlt b hne⟩
  by_cases hc : (t.get c).start = (t'.get c).start
  · rw [hc]
  · exact (hlt c hc).le

/-! ### Facts that drop -/

/-- After a pass that has changed something, the start of some block does not lie above what it was. -/
def Drops (A : FlowAnalysis g Fact Decision) (R : Fact → Fact → Prop) (n : Nat) : Prop :=
  ∃ t t', A.After n t ∧ A.pass t = .ok (t', true) ∧ ∃ b, ¬ R (t.get b).start (t'.get b).start

omit [DecidableEq Fact] in
/-- The start of a block is top, in one way only, or it has what holds at every point. -/
def Settled (A : FlowAnalysis g Fact Decision) (P : g.Node → Nat → Fact → Prop) (b : g.Node)
    (f : Fact) : Prop :=
  (A.isTop f = true → f = A.top) ∧ (A.isTop f = false → P b 0 f)

/-- A measure of facts that is bounded, and grows wherever the start of a block ascends. -/
structure Potential (A : FlowAnalysis g Fact Decision) (P : g.Node → Nat → Fact → Prop)
    (R : Fact → Fact → Prop) (μ : Fact → Nat) (bound : Nat) : Prop where
  top : ∀ {t b f}, A.startOf t b = .ok f → A.isTop f = true → f = A.top
  le : ∀ {b f}, A.Settled P b f → μ f ≤ bound
  lt : ∀ {b f f'}, A.Settled P b f → A.Settled P b f' → R f f' → f ≠ f' → μ f < μ f'

namespace Potential

variable {P : g.Node → Nat → Fact → Prop} {R : Fact → Fact → Prop} {μ : Fact → Nat} {bound n : Nat}

lemma settled (hμ : A.Potential P R μ bound) (hP : A.PointInvariant P) (htop : A.isTop A.top = true)
    (h : A.After n t) (b : g.Node) : A.Settled P b (t.get b).start := by
  have hall : ∀ b, A.isTop (t.get b).start = true → (t.get b).start = A.top := by
    refine h.keeps (Q := fun t => ∀ b, A.isTop (t.get b).start = true → (t.get b).start = A.top)
      (fun t b start ht hstart c => ?_) fun b => by simp
    by_cases hc : c = b
    · subst hc
      rw [get_set_self, through_start]
      exact hμ.top hstart
    · rw [get_set_of_ne t _ hc]
      exact ht c
  refine ⟨hall b, fun hne => ?_⟩
  have hlive := (h.sound hP htop).2 b 0 (Nat.zero_le _)
  rw [within_zero] at hlive
  exact hlive hne

/-- The potential of a table. -/
lemma sum_le (hμ : A.Potential P R μ bound) (hP : A.PointInvariant P) (htop : A.isTop A.top = true)
    (h : A.After n t) : ∑ b, μ (t.get b).start ≤ g.size * bound :=
  sum_le_of_le fun b => hμ.le (hμ.settled hP htop h b)

/-- A pass in which no fact drops raises the potential of the table. -/
lemma sum_lt (hμ : A.Potential P R μ bound) (hP : A.PointInvariant P) (htop : A.isTop A.top = true)
    (h : A.After n t) (hpass : A.pass t = .ok (t', true))
    (hR : ∀ b, R (t.get b).start (t'.get b).start) :
    ∑ b, μ (t.get b).start < ∑ b, μ (t'.get b).start := by
  refine sum_lt_of_pass (h.sound hP htop).1 hpass fun b hne => ?_
  exact hμ.lt (hμ.settled hP htop h b) (hμ.settled hP htop (h.pass hpass) b) (hR b) hne

/-- Each pass lets a fact drop or raises the potential of the table. -/
lemma drops_or_le (hμ : A.Potential P R μ bound) (hP : A.PointInvariant P)
    (htop : A.isTop A.top = true) (n : Nat) : ∀ {k : Nat} {t : FactTable g Fact Decision},
      A.After (n + k) t →
        (∃ j, n ≤ j ∧ j < n + k ∧ A.Drops R j) ∨ k ≤ ∑ b, μ (t.get b).start
  | 0, _, _ => .inr (Nat.zero_le _)
  | k + 1, t', h => by
      cases h with
      | @pass _ t _ hafter hpass =>
          rcases hμ.drops_or_le hP htop n hafter with ⟨j, hn, hj, hdrops⟩ | hle
          · exact .inl ⟨j, hn, by omega, hdrops⟩
          by_cases hR : ∀ b, R (t.get b).start (t'.get b).start
          · exact .inr (hle.trans_lt (hμ.sum_lt hP htop hafter hpass hR))
          · push Not at hR
            exact .inl ⟨n + k, by omega, by omega, t, t', hafter, hpass, hR⟩

/-- Among more passes than the potential of a table allows, a fact drops in one. -/
lemma drops (hμ : A.Potential P R μ bound) (hP : A.PointInvariant P) (htop : A.isTop A.top = true)
    {k : Nat} (hk : g.size * bound < k) (h : A.After (n + k) t) :
    ∃ j, n ≤ j ∧ j < n + k ∧ A.Drops R j :=
  (hμ.drops_or_le hP htop n h).resolve_right fun hle =>
    absurd (hle.trans (hμ.sum_le hP htop h)) (not_le.2 hk)

/-- **An iteration gives up exactly when all its passes succeed and change a fact, and in one of them a
fact drops.** -/
theorem notConverged_iff (hμ : A.Potential P R μ bound) (hP : A.PointInvariant P)
    (htop : A.isTop A.top = true) (hlimit : g.size * bound < A.passLimit)
    (hrefused : ∀ b limit, ¬ A.Refused P b (.notConverged limit)) :
    (∃ limit, A.solve = .error (.notConverged limit)) ↔
      (∃ t, A.After A.passLimit t) ∧ ∃ n < A.passLimit, A.Drops R n := by
  constructor
  · rintro ⟨limit, h⟩
    rcases solve_error_cases h with ⟨n, t, -, hafter, hpass⟩ | ⟨-, t, hafter⟩
    · obtain ⟨b, hb⟩ := pass_refused hP htop hafter hpass
      exact absurd hb (hrefused b limit)
    · rw [← Nat.zero_add A.passLimit] at hafter
      obtain ⟨j, -, hj, hdrops⟩ := hμ.drops hP htop hlimit hafter
      rw [Nat.zero_add] at hafter hj
      exact ⟨⟨t, hafter⟩, j, hj, hdrops⟩
  · rintro ⟨⟨t, hafter⟩, -⟩
    exact ⟨_, solve_of_after hafter⟩

/-- **Passes would go on for ever exactly when facts drop again and again.** -/
theorem endless_iff (hμ : A.Potential P R μ bound) (hP : A.PointInvariant P)
    (htop : A.isTop A.top = true) :
    (∀ n, ∃ t, A.After n t) ↔ ∀ n, ∃ k, n ≤ k ∧ A.Drops R k := by
  constructor
  · intro h n
    obtain ⟨t, ht⟩ := h (n + (g.size * bound + 1))
    obtain ⟨k, hn, -, hdrops⟩ := hμ.drops hP htop (Nat.lt_succ_self _) ht
    exact ⟨k, hn, hdrops⟩
  · intro h n
    obtain ⟨k, hn, t, -, hafter, -⟩ := h n
    exact hafter.earlier hn

end Potential

end FlowAnalysis

end Nullness
