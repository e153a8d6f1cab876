import Mathlib.Tactic
import Nullness.Proofs.Solution

/-!
# The passes of an iteration

What an iteration has established after so many passes, and how it can end without a solution.

* `FlowAnalysis.After`: the tables after passes of which each has changed a fact;
* `FlowAnalysis.solve_last_pass`: an iteration ends with the first pass that changes nothing;
* `FlowAnalysis.solve_visited`: the visits of an iteration lead to its solution;
* `FlowAnalysis.solve_error_cases`: an iteration fails in a pass, or it has made all passes that it is
  allowed;
* `FlowAnalysis.Progress`: what holds of the starts of the blocks after so many passes, and of a
  solution for any number of them;
* `FlowAnalysis.PointInvariant.refused`: a visit fails where facts meet or a handler is entered.
-/

namespace Nullness

namespace FlowAnalysis

variable {g : FlowGraph} {Fact Decision : Type} {A : FlowAnalysis g Fact Decision}

/-! ### Visits that fail -/

/-- Why a visit to a block fails: a fact cannot be joined, or a handler cannot be entered. -/
inductive Refused (A : FlowAnalysis g Fact Decision) (P : g.Node → Nat → Fact → Prop) (b : g.Node)
    (err : Error) : Prop
  | join {e : g.Arc} {sofar f : Fact} : e ∈ g.edges → e.target = b →
      (A.isTop sofar = false → P b 0 sofar) → (A.isTop f = false → P b 0 f) →
      A.join e sofar f = .error err → Refused A P b err
  | handler {e : g.Arc} {index : Nat} {x : Fact} : e ∈ g.edges → e.target = b →
      e.kind.isException = true → A.isTop x = false → P e.source index x →
      A.enterHandler e x = .error err → Refused A P b err

variable {P : g.Node → Nat → Fact → Prop} {t : FactTable g Fact Decision}

lemma foldlM_error {ε α β : Type} {f : α → β → Except ε α} {Q : α → Prop} {err : ε} :
    ∀ {l : List β} {a : α}, (∀ b ∈ l, ∀ x x', Q x → f x b = .ok x' → Q x') → Q a →
      l.foldlM f a = .error err → ∃ b ∈ l, ∃ x, Q x ∧ f x b = .error err
  | [], a, _, _, h => by simp at h
  | b :: l, a, hstep, ha, h => by
      rw [List.foldlM_cons, bind_eq_error_iff] at h
      rcases h with h | ⟨x, hx, hrest⟩
      · exact ⟨b, List.mem_cons_self, a, ha, h⟩
      · obtain ⟨b', hb', h'⟩ := foldlM_error (fun b' hb' => hstep b' (List.mem_cons_of_mem b hb'))
          (hstep b List.mem_cons_self a x ha hx) hrest
        exact ⟨b', List.mem_cons_of_mem b hb', h'⟩

/-- A visit fails where facts meet or a handler is entered. -/
lemma PointInvariant.refused (hP : A.PointInvariant P) (htop : A.isTop A.top = true)
    (hcons : A.Consistent t) (hlive : A.Live P t) {b : g.Node} {err : Error}
    (h : A.startOf t b = .error err) : A.Refused P b err := by
  obtain ⟨e, hmem, sofar, hsofar, hjoin⟩ := foldlM_error
    (Q := fun f => A.isTop f = false → P b 0 f) (fun e hmem sofar f' hsofar hjoin => by
      obtain ⟨he, rfl⟩ := FlowGraph.mem_incoming.1 hmem
      exact (hP.join_along (joinBound_true A P) hcons hlive he hsofar hjoin).keeps)
    (hP.initial htop b) h
  obtain ⟨he, rfl⟩ := FlowGraph.mem_incoming.1 hmem
  rw [joinAlong] at hjoin
  cases hkind : e.kind.isException with
  | true =>
      simp only [hkind, if_true] at hjoin
      obtain ⟨x, hx, sofar, hsofar, hjoin⟩ := foldlM_error
        (Q := fun f => A.isTop f = false → P e.target 0 f) (fun x hx sofar f' hsofar hjoin =>
          (hP.join_thrown (joinBound_true A P) hcons hlive he hkind hx hsofar hjoin).keeps)
        hsofar hjoin
      unfold joinThrown at hjoin
      split at hjoin
      · cases hjoin
      · rename_i htopx
        have htopx := Bool.eq_false_iff.2 htopx
        rcases bind_eq_error_iff.1 hjoin with henter | ⟨f, henter, hjoin⟩
        · obtain ⟨index, hindex, rfl⟩ := hcons.thrown hx
          exact .handler he rfl hkind htopx (hlive _ index hindex htopx) henter
        · exact .join he rfl hsofar
            (fun hf => (hP.brings hcons hlive he (.thrown hkind hx htopx henter hf)).2) hjoin
  | false =>
      simp only [hkind, Bool.false_eq_true, if_false] at hjoin
      cases hcarried : A.carried? e (t.get e.source) with
      | none => simp [hcarried] at hjoin
      | some f =>
          simp only [hcarried] at hjoin
          exact .join he rfl hsofar (fun _ => (hP.carried hcons hlive he hkind hcarried).2) hjoin

/-! ### Visits -/

/-- Visits that succeed one after the other, each listed with the table under which it is made, from
one table to another. -/
inductive Visited (A : FlowAnalysis g Fact Decision) :
    List (g.Node × FactTable g Fact Decision) → (first last : FactTable g Fact Decision) → Prop
  | nil (t : FactTable g Fact Decision) : Visited A [] t t
  | cons {b : g.Node} {t t' : FactTable g Fact Decision} {start : Fact}
      {later : List (g.Node × FactTable g Fact Decision)} : A.startOf t b = .ok start →
      Visited A later (t.set b (A.through b start) b.isLt) t' → Visited A ((b, t) :: later) t t'

namespace Visited

variable {vs vs' : List (g.Node × FactTable g Fact Decision)} {t₀ t₁ t₂ : FactTable g Fact Decision}

lemma append (h : A.Visited vs t₀ t₁) (h' : A.Visited vs' t₁ t₂) : A.Visited (vs ++ vs') t₀ t₂ := by
  induction h with
  | nil _ => exact h'
  | cons hstart _ ih => exact .cons hstart (ih h')

lemma succeeds (h : A.Visited vs t₀ t₁) {b : g.Node} (hmem : (b, t) ∈ vs) :
    ∃ start, A.startOf t b = .ok start := by
  induction h with
  | nil _ => cases hmem
  | cons hstart _ ih =>
      rcases List.mem_cons.1 hmem with heq | hmem
      · cases heq
        exact ⟨_, hstart⟩
      · exact ih hmem

/-- What each visit keeps holds of the tables of all visits, and of the last one. -/
lemma keeps {Q : FactTable g Fact Decision → Prop} (h : A.Visited vs t₀ t₁)
    (hvisit : ∀ b t start, (b, t) ∈ vs → Q t → A.startOf t b = .ok start →
      Q (t.set b (A.through b start) b.isLt)) (hfirst : Q t₀) :
    (∀ b t, (b, t) ∈ vs → Q t) ∧ Q t₁ := by
  induction h with
  | nil _ => exact ⟨fun _ _ hmem => absurd hmem List.not_mem_nil, hfirst⟩
  | @cons b t _ start _ hstart _ ih =>
      obtain ⟨hall, hlast⟩ := ih
        (fun c t' start' hmem => hvisit c t' start' (List.mem_cons_of_mem _ hmem))
        (hvisit b t start List.mem_cons_self hfirst hstart)
      refine ⟨fun c t' hmem => ?_, hlast⟩
      rcases List.mem_cons.1 hmem with heq | hmem
      · cases heq
        exact hfirst
      · exact hall c t' hmem

end Visited

/-! ### Passes -/

deriving instance DecidableEq for BlockFacts

variable [DecidableEq Fact]

/-- The tables after passes from the start of an iteration, of which each has changed a fact. -/
inductive After (A : FlowAnalysis g Fact Decision) : Nat → FactTable g Fact Decision → Prop
  | nothing : After A 0 A.initialTable
  | pass {n : Nat} {t t' : FactTable g Fact Decision} :
      After A n t → A.pass t = .ok (t', true) → After A (n + 1) t'

omit [DecidableEq Fact] in
/-- An iteration may make more passes than there are blocks. -/
lemma size_lt_passLimit (A : FlowAnalysis g Fact Decision) : g.size < A.passLimit := by
  have hheight : g.size ≤ max g.size 1 * (A.height + 1) :=
    (le_max_left _ _).trans (Nat.le_mul_of_pos_right _ (Nat.succ_pos _))
  exact Nat.lt_succ_of_le hheight

/-- How an iteration goes on after some passes. -/
lemma After.iterate_eq {n : Nat} (h : A.After n t) (remaining : Nat) :
    A.iterate (remaining + n) A.initialTable = A.iterate remaining t := by
  induction h generalizing remaining with
  | nothing => rfl
  | @pass n t t' _ hpass ih =>
      rw [← Nat.add_assoc, Nat.add_right_comm, ih (remaining + 1), iterate, hpass]
      rfl

/-- Passes come one after the other. -/
lemma After.earlier {n k : Nat} (h : A.After k t) (hn : n ≤ k) : ∃ t, A.After n t := by
  induction h with
  | nothing =>
      obtain rfl := Nat.le_zero.1 hn
      exact ⟨_, .nothing⟩
  | @pass k t t' hafter hpass ih =>
      rcases Nat.le_succ_iff.1 hn with hn | rfl
      · exact ih hn
      · exact ⟨t', .pass hafter hpass⟩

/-- Two passes that undo each other go on for ever. -/
lemma After.cycle {n : Nat} {t' : FactTable g Fact Decision} (h : A.After n t)
    (hthere : A.pass t = .ok (t', true)) (hback : A.pass t' = .ok (t, true)) (k : Nat) :
    A.After (n + 2 * k) t := by
  induction k with
  | zero => exact h
  | succ k ih => exact .pass (.pass ih hthere) hback

/-- What every visit keeps holds after every pass. -/
lemma After.keeps {Q : FactTable g Fact Decision → Prop} {n : Nat} (h : A.After n t)
    (hvisit : ∀ t b start, Q t → A.startOf t b = .ok start → Q (t.set b (A.through b start) b.isLt))
    (hinitial : Q A.initialTable) : Q t := by
  induction h with
  | nothing => exact hinitial
  | pass _ hpass ih => exact visitAll_keeps hvisit ih hpass

omit [DecidableEq Fact] in
/-- A visit keeps the tables that an iteration can come to. -/
lemma visit_sound (hP : A.PointInvariant P) (htop : A.isTop A.top = true)
    (t : FactTable g Fact Decision) (b : g.Node) (start : Fact) (ht : A.Consistent t ∧ A.Live P t)
    (h : A.startOf t b = .ok start) : A.Consistent (t.set b (A.through b start) b.isLt) ∧
      A.Live P (t.set b (A.through b start) b.isLt) :=
  ⟨ht.1.set b start, ht.2.set hP htop ht.1 h⟩

lemma After.sound {n : Nat} (h : A.After n t) (hP : A.PointInvariant P)
    (htop : A.isTop A.top = true) : A.Consistent t ∧ A.Live P t :=
  h.keeps (visit_sound hP htop) ⟨consistent_initialTable htop, live_initialTable htop⟩

lemma iterate_error_cases {err : Error} : ∀ {remaining n : Nat} {t : FactTable g Fact Decision},
    A.After n t → A.iterate remaining t = .error err →
      (∃ k t', k < n + remaining ∧ A.After k t' ∧ A.pass t' = .error err) ∨
        err = .notConverged A.passLimit ∧ ∃ t', A.After (n + remaining) t'
  | 0, n, t, h, herr => by
      obtain rfl : .notConverged A.passLimit = err := by simpa [iterate] using herr
      exact .inr ⟨rfl, t, h⟩
  | remaining + 1, n, t, h, herr => by
      rw [iterate, bind_eq_error_iff] at herr
      rcases herr with herr | ⟨⟨t', changed⟩, hpass, herr⟩
      · exact .inl ⟨n, t, by omega, h, herr⟩
      cases changed with
      | false => simp at herr
      | true =>
          rw [← Nat.add_assoc, Nat.add_right_comm]
          exact iterate_error_cases (h.pass hpass) herr

/-- **An iteration fails in a pass, or it has made all passes that it is allowed**, and each of them
has changed a fact. -/
theorem solve_error_cases {err : Error} (h : A.solve = .error err) :
    (∃ n t, n < A.passLimit ∧ A.After n t ∧ A.pass t = .error err) ∨
      err = .notConverged A.passLimit ∧ ∃ t, A.After A.passLimit t := by
  have hcases := iterate_error_cases .nothing h
  rwa [Nat.zero_add] at hcases

/-- An iteration that has made all passes it is allowed gives up. -/
lemma solve_of_after (h : A.After A.passLimit t) : A.solve = .error (.notConverged A.passLimit) := by
  have heq := h.iterate_eq 0
  rwa [Nat.zero_add] at heq

/-- An iteration that ends has made passes that change a fact, and after them one that changes none.
-/
lemma iterate_last_pass {s : Solution g Fact Decision} :
    ∀ {remaining n : Nat} {t : FactTable g Fact Decision}, A.After n t →
      n + remaining = A.passLimit → A.iterate remaining t = .ok s →
      ∃ k t', s.passes = k + 1 ∧ A.After k t' ∧ A.pass t' = .ok (s.table, false)
  | 0, n, t, _, _, h => by simp [iterate] at h
  | remaining + 1, n, t, hafter, hlimit, h => by
      rw [iterate, bind_eq_ok_iff] at h
      obtain ⟨⟨t', changed⟩, hpass, hrest⟩ := h
      cases changed with
      | true => exact iterate_last_pass (hafter.pass hpass) (by omega) hrest
      | false =>
          simp only [Bool.false_eq_true, if_false, pure_eq_ok_iff] at hrest
          subst hrest
          refine ⟨n, t, ?_, hafter, hpass⟩
          change A.passLimit - remaining = n + 1
          omega

/-- **An iteration ends with the first pass that changes nothing.** -/
theorem solve_last_pass {s : Solution g Fact Decision} (h : A.solve = .ok s) :
    ∃ k t, s.passes = k + 1 ∧ A.After k t ∧ A.pass t = .ok (s.table, false) :=
  iterate_last_pass .nothing (Nat.zero_add _) h

lemma visitAll_error {Q : FactTable g Fact Decision → Prop} {err : Error}
    (hvisit : ∀ t b start, Q t → A.startOf t b = .ok start → Q (t.set b (A.through b start) b.isLt)) :
    ∀ {blocks : List g.Node} {t : FactTable g Fact Decision} {changed : Bool},
      Q t → A.visitAll blocks t changed = .error err → ∃ t' b, Q t' ∧ A.startOf t' b = .error err
  | [], _, _, _, h => by simp [visitAll] at h
  | b :: rest, t, changed, ht, h => by
      rw [visitAll, bind_eq_error_iff] at h
      rcases h with h | ⟨s, hs, hrest⟩
      · exact ⟨t, b, ht, visit_eq_error_iff.1 h⟩
      · obtain ⟨start, hstart, rfl⟩ := visit_eq_ok_iff.1 hs
        exact visitAll_error hvisit (hvisit t b start ht hstart) hrest

/-- A pass fails where facts meet or a handler is entered. -/
lemma pass_refused (hP : A.PointInvariant P) (htop : A.isTop A.top = true) {n : Nat} {err : Error}
    (h : A.After n t) (herr : A.pass t = .error err) : ∃ b, A.Refused P b err := by
  obtain ⟨t', b, ⟨hcons, hlive⟩, hstart⟩ :=
    visitAll_error (visit_sound hP htop) (h.sound hP htop) herr
  exact ⟨b, hP.refused htop hcons hlive hstart⟩

/-! ### The visits of an iteration -/

/-- A pass makes its visits. Those of a pass that changes nothing are all made under one table. -/
lemma passVisits_of_visitAll :
    ∀ {blocks : List g.Node} {t t' : FactTable g Fact Decision} {changed changed' : Bool},
      A.visitAll blocks t changed = .ok (t', changed') →
        ∃ vs, visits.passVisits A blocks t = .ok (vs, t') ∧ A.Visited vs t t' ∧
          (A.Consistent t → changed' = false → ∀ b ∈ blocks, (b, t') ∈ vs)
  | [], t, t', changed, changed', h => by
      simp only [visitAll, Except.ok.injEq, Prod.mk.injEq] at h
      obtain ⟨rfl, -⟩ := h
      exact ⟨[], rfl, .nil t, fun _ _ _ hb => absurd hb List.not_mem_nil⟩
  | b :: rest, t, t', changed, changed', h => by
      have hunchanged : A.Consistent t → changed' = false → t' = t := by
        rintro hcons rfl
        exact (visitAll_unchanged hcons h).1
      rw [visitAll, bind_eq_ok_iff] at h
      obtain ⟨s, hs, hrest⟩ := h
      obtain ⟨start, hstart, rfl⟩ := visit_eq_ok_iff.1 hs
      obtain ⟨later, hlater, hvisited, hlast⟩ := passVisits_of_visitAll hrest
      refine ⟨(b, t) :: later, ?_, .cons hstart hvisited, fun hcons hfalse c hc => ?_⟩
      · exact bind_eq_ok_iff.2 ⟨_, hs, bind_eq_ok_iff.2 ⟨_, hlater, rfl⟩⟩
      · rcases List.mem_cons.1 hc with rfl | hc
        · rw [hunchanged hcons hfalse]
          exact List.mem_cons_self
        · exact List.mem_cons_of_mem _ (hlast (hcons.set b start) hfalse c hc)

lemma visits_of_iterate {s : Solution g Fact Decision} :
    ∀ {remaining : Nat} {t : FactTable g Fact Decision}, remaining ≤ A.passLimit →
      A.Consistent t → A.iterate remaining t = .ok s →
        ∃ n vs, s.passes = A.passLimit - remaining + n ∧ A.visits n t = .ok vs ∧
          A.Visited vs t s.table ∧ ∀ b ∈ g.reversePostorder, (b, s.table) ∈ vs
  | 0, t, _, _, h => by simp [iterate] at h
  | remaining + 1, t, hlimit, hcons, h => by
      rw [iterate, bind_eq_ok_iff] at h
      obtain ⟨⟨t', changed⟩, hpass, hrest⟩ := h
      obtain ⟨first, hfirst, hvisited, hlast⟩ := passVisits_of_visitAll hpass
      cases changed with
      | true =>
          have hcons' : A.Consistent t' :=
            visitAll_keeps (fun _ b start ht _ => ht.set b start) hcons hpass
          obtain ⟨n, later, hpasses, hlater, hvisited', hlast'⟩ :=
            visits_of_iterate (Nat.le_of_succ_le hlimit) hcons' hrest
          refine ⟨n + 1, first ++ later, by omega, ?_, hvisited.append hvisited',
            fun b hb => List.mem_append_right first (hlast' b hb)⟩
          exact bind_eq_ok_iff.2 ⟨_, hfirst, bind_eq_ok_iff.2 ⟨_, hlater, rfl⟩⟩
      | false =>
          simp only [Bool.false_eq_true, if_false, pure_eq_ok_iff] at hrest
          subst hrest
          refine ⟨1, first, ?_, ?_, hvisited, hlast hcons rfl⟩
          · change A.passLimit - remaining = _
            omega
          · exact bind_eq_ok_iff.2 ⟨_, hfirst,
              bind_eq_ok_iff.2 ⟨_, rfl, congrArg Except.ok (List.append_nil first)⟩⟩

/-- **The visits of an iteration lead to the table that it settles on**, and the last of them are
made under this table. -/
theorem solve_visited (htop : A.isTop A.top = true) {s : Solution g Fact Decision}
    (h : A.solve = .ok s) : ∃ vs, A.visits s.passes A.initialTable = .ok vs ∧
      A.Visited vs A.initialTable s.table ∧ ∀ b, g.Reachable b → (b, s.table) ∈ vs := by
  obtain ⟨n, vs, hpasses, hvs, hvisited, hlast⟩ :=
    visits_of_iterate le_rfl (consistent_initialTable htop) h
  rw [Nat.sub_self, Nat.zero_add] at hpasses
  exact ⟨vs, hpasses ▸ hvs, hvisited, fun b hb => hlast b (FlowGraph.mem_reversePostorder.2 hb)⟩

/-! ### What passes establish -/

/-- What is known of the facts at the starts of blocks after so many passes: a visit establishes it
for one pass more, if it holds of all blocks. -/
structure Progress (A : FlowAnalysis g Fact Decision) (P : g.Node → Nat → Fact → Prop)
    (Q : Nat → g.Node → Fact → Prop) : Prop where
  nothing : ∀ b f, Q 0 b f
  weaken : ∀ {n b f}, Q (n + 1) b f → Q n b f
  unreachable : ∀ {n b f}, ¬ g.Reachable b → Q n b f
  visit : ∀ {n t b start}, A.Consistent t → A.Live P t → (∀ c, Q n c (t.get c).start) →
    A.startOf t b = .ok start → Q (n + 1) b start

variable {Q : Nat → g.Node → Fact → Prop}

/-- The blocks that are visited have made progress afterwards, and those that had made it keep it.
-/
lemma Progress.visitAll (hQ : A.Progress P Q) (hP : A.PointInvariant P)
    (htop : A.isTop A.top = true) {n : Nat} :
    ∀ {blocks : List g.Node} {t t' : FactTable g Fact Decision} {changed changed' : Bool},
      A.Consistent t → A.Live P t → (∀ c, Q n c (t.get c).start) →
      A.visitAll blocks t changed = .ok (t', changed') → ∀ c,
        c ∈ blocks ∨ Q (n + 1) c (t.get c).start → Q (n + 1) c (t'.get c).start
  | [], t, t', changed, changed', _, _, _, h, c, hc => by
      simp only [FlowAnalysis.visitAll, Except.ok.injEq, Prod.mk.injEq] at h
      rw [← h.1]
      exact hc.resolve_left List.not_mem_nil
  | b :: rest, t, t', changed, changed', hcons, hlive, hall, h, c, hc => by
      rw [FlowAnalysis.visitAll, bind_eq_ok_iff] at h
      obtain ⟨s, hs, hrest⟩ := h
      obtain ⟨start, hstart, rfl⟩ := visit_eq_ok_iff.1 hs
      have hnew := hQ.visit hcons hlive hall hstart
      have hset : ∀ {k c}, (c = b → Q k b start) → (c ≠ b → Q k c (t.get c).start) →
          Q k c ((t.set b (A.through b start) b.isLt).get c).start := by
        intro k c hb hne
        by_cases hcb : c = b
        · subst hcb
          rw [get_set_self, through_start]
          exact hb rfl
        · rw [get_set_of_ne t _ hcb]
          exact hne hcb
      refine hQ.visitAll hP htop (hcons.set b start) (hlive.set hP htop hcons hstart)
        (fun c => hset (fun _ => hQ.weaken hnew) fun _ => hall c) hrest c ?_
      by_cases hcb : c = b
      · exact .inr (hset (fun _ => hnew) fun hne => absurd hcb hne)
      · rcases hc with hc | hc
        · exact .inl ((List.mem_cons.1 hc).resolve_left hcb)
        · exact .inr (hset (fun h => absurd h hcb) fun _ => hc)

/-- After so many passes as much is known. -/
lemma Progress.after (hQ : A.Progress P Q) (hP : A.PointInvariant P)
    (htop : A.isTop A.top = true) {n : Nat} (h : A.After n t) : ∀ b, Q n b (t.get b).start := by
  induction h with
  | nothing => exact fun b => hQ.nothing b _
  | @pass n t t' hafter hpass ih =>
      obtain ⟨hcons, hlive⟩ := hafter.sound hP htop
      intro b
      by_cases hb : g.Reachable b
      · exact hQ.visitAll hP htop hcons hlive ih hpass b
          (.inl (FlowGraph.mem_reversePostorder.2 hb))
      · exact hQ.unreachable hb

/-- Of a solution everything is known. -/
lemma Progress.solved (hQ : A.Progress P Q) (hP : A.PointInvariant P)
    (htop : A.isTop A.top = true) {s : Solution g Fact Decision} (h : A.solve = .ok s) (n : Nat) :
    ∀ b, Q n b (s.startFact b) := by
  induction n with
  | zero => exact fun b => hQ.nothing b _
  | succ n ih =>
      intro b
      by_cases hb : g.Reachable b
      · exact hQ.visit (solve_consistent htop h) (solve_live hP htop h) ih (solve_solves htop h hb)
      · exact hQ.unreachable hb

/-- **What cannot be known after all passes keeps an iteration from ending** otherwise than where
facts meet or a handler is entered. -/
theorem Progress.refused (hQ : A.Progress P Q) (hP : A.PointInvariant P)
    {P' : g.Node → Nat → Fact → Prop} (hP' : A.PointInvariant P') (htop : A.isTop A.top = true)
    {b : g.Node} (hnever : ∀ f, ¬ Q A.passLimit b f) :
    ∃ err, A.solve = .error err ∧ ∃ b, A.Refused P' b err := by
  cases h : A.solve with
  | ok s => exact absurd (hQ.solved hP htop h _ b) (hnever _)
  | error err =>
      rcases solve_error_cases h with ⟨n, t, -, hafter, hpass⟩ | ⟨-, t, hafter⟩
      · exact ⟨err, rfl, pass_refused hP' htop hafter hpass⟩
      · exact absurd (hQ.after hP htop hafter b) (hnever _)

end FlowAnalysis

end Nullness
