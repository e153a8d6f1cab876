import Mathlib.Tactic
import Nullness.Proofs.MonotoneFlow
import Nullness.Proofs.Throwers

/-!
# Explorations of the null side

The guarded parameters of a graph can be found by exploring it from the entry: visit a block that
waits, look at its edges one by one, give up at an edge on which the method completes normally, leave
out the edges on which a tested parameter is not null, record the tested parameter at every other
edge, and let targets that have not been met wait in turn. In whatever order blocks are visited and
edges are looked at, the outcome is the same, and it can be told from the graph alone.

* `FlowGraph.NullSide`, `FlowGraph.Tests`: the blocks that such a search meets, and tests of variables;
* `Exploration`, `Exploration.Ends`: explorations and how they may end;
* `Exploration.Crossed`, `Exploration.Explored`: what looking at some edges does, and what holds
  between two visits;
* `Exploration.ends_iff`: **every exploration ends with the guarded parameters;**
* `FlowGraph.guardedParameters_of_explorations`: **which parameters these are.**
-/

namespace Nullness

namespace FlowGraph

variable {g : FlowGraph} {slots : List Nat} {b : g.Node} {i : Nat}

/-! ### The null side -/

/-- A block on the null side: a path leads to it that takes no edge on which one of the variables is
not null. -/
def NullSide (g : FlowGraph) (slots : List Nat) (b : g.Node) : Prop :=
  ∃ path, g.Path g.entry path b ∧ ∀ e ∈ path, ∀ slot ∈ slots, ¬ g.NonNullEdge slot e

/-- A block ends by testing whether a variable is null. -/
def Tests (g : FlowGraph) (slot : Nat) (b : g.Node) : Prop :=
  ∃ before, g.ops b = before ++ [.load slot, .ifNull] ∨ g.ops b = before ++ [.load slot, .ifNonNull]

lemma nullSide_entry : g.NullSide slots g.entry := ⟨[], .stay, by simp⟩

/-- The null side is left only by edges on which some variable is not null. -/
lemma NullSide.step (hb : g.NullSide slots b) {e : g.Arc} (he : e ∈ g.outgoing b)
    (hnull : g.needsNonNull slots e = false) : g.NullSide slots e.target := by
  obtain ⟨path, hpath, hbefore⟩ := hb
  obtain ⟨hedge, rfl⟩ := mem_outgoing.1 he
  refine ⟨path ++ [e], hpath.cross hedge, List.forall_mem_append.2 ⟨hbefore, ?_⟩⟩
  simpa using needsNonNull_eq_false_iff.1 hnull

/-- What contains the entry and is left only by such edges contains the null side. -/
lemma NullSide.mem_of_closed {P : g.Node → Prop} (hentry : P g.entry)
    (hstep : ∀ b, P b → ∀ e ∈ g.outgoing b, g.needsNonNull slots e = false → P e.target)
    (hb : g.NullSide slots b) : P b := by
  obtain ⟨path, hpath, hnull⟩ := hb
  induction hpath with
  | stay => exact hentry
  | cross _ he ih =>
      obtain ⟨hbefore, hlast⟩ := List.forall_mem_append.1 hnull
      exact hstep _ (ih hbefore) _ (mem_outgoing.2 ⟨he, rfl⟩)
        (needsNonNull_eq_false_iff.2 (hlast _ (List.mem_singleton_self _)))

lemma guardedParameters?_eq_none_iff : g.guardedParameters? slots = none ↔
    ∃ b, g.NullSide slots b ∧ ∃ e ∈ g.outgoing b, g.completesNormally e = true := by
  have hany : ((g.nullSideBlocks slots).any fun b => (g.outgoing b).any g.completesNormally) = true ↔
      ∃ b, g.NullSide slots b ∧ ∃ e ∈ g.outgoing b, g.completesNormally e = true := by
    simp only [List.any_eq_true, mem_nullSideBlocks, NullSide]
  rw [← hany]
  unfold guardedParameters?
  dsimp only
  split
  · rename_i hcompletes
    exact iff_of_true rfl hcompletes
  · rename_i hcontinues
    exact iff_of_false (Option.some_ne_none _) hcontinues

/-- Where there are guarded parameters, these are the ones that are tested on the null side by a block
that can be left so. -/
lemma mem_guardedParameters?_iff {S : SortedSet Nat} (hS : g.guardedParameters? slots = some S) :
    SortedSet.mem S i = true ↔ ∃ b, g.NullSide slots b ∧
      (∃ e ∈ g.outgoing b, g.needsNonNull slots e = false) ∧ g.testedParameter? slots b = some i := by
  have hleft : ∀ b, g.nullSideEdges slots b ≠ [] ↔
      ∃ e ∈ g.outgoing b, g.needsNonNull slots e = false := by
    intro b
    simp [nullSideEdges, List.filter_eq_nil_iff]
  rw [(guardedParameters?_eq_some_iff.1 hS).2]
  simp only [mem_nullSideBlocks, hleft, NullSide]

/-- Without repeated slots the index of a tested parameter is the position of its slot. -/
lemma testedParameter?_iff_of_nodup (hslots : slots.Nodup) : g.testedParameter? slots b = some i ↔
    ∃ slot, slots[i]? = some slot ∧ g.Tests slot b := by
  have hindex : ∀ slot, slots.idxOf? slot = some i ↔ slots[i]? = some slot := by
    intro slot
    rw [List.idxOf?_eq_some_iff, List.getElem?_eq_some_iff]
    refine exists_congr fun hi => ⟨And.left, fun hslot => ⟨hslot, fun j hj heq => ?_⟩⟩
    have hsame := hslots.getElem_inj_iff.1 (heq.trans hslot.symm)
    omega
  simp only [testedParameter?_eq_some, hindex, Tests, exists_and_left]

end FlowGraph

/-! ### Explorations -/

/-- How far an exploration has come: the blocks that wait to be visited, all blocks that have been
met, and the parameters that have been recorded. -/
structure Exploration (g : FlowGraph) where
  pending : List g.Node
  met : Finset g.Node
  recorded : SortedSet Nat

namespace Exploration

open FlowGraph

variable {g : FlowGraph} {slots : List Nat} {s s' : Exploration g} {e : g.Arc} {edges : List g.Arc}

/-- At first the entry is met and waits. -/
def start (g : FlowGraph) : Exploration g := ⟨[g.entry], {g.entry}, .empty⟩

/-- Looks at an edge of the visited block. There is no result if the method completes normally on it. -/
def cross (slots : List Nat) (s : Exploration g) (e : g.Arc) : Option (Exploration g) :=
  if g.completesNormally e then none
  else if g.needsNonNull slots e then some s
  else
    some {
      pending := if e.target ∈ s.met then s.pending else e.target :: s.pending
      met := insert e.target s.met
      recorded :=
        match g.testedParameter? slots e.source with
        | some i => s.recorded.add i
        | none => s.recorded }

/-- Visits one of the waiting blocks, whichever it is, and looks at its edges in any order. -/
def Visits (slots : List Nat) (s : Exploration g) (result : Option (Exploration g)) : Prop :=
  ∃ (b : g.Node) (rest : List g.Node) (edges : List g.Arc), s.pending.Perm (b :: rest) ∧
    edges.Perm (g.outgoing b) ∧ edges.foldlM (cross slots) { s with pending := rest } = result

/-- How an exploration may end: with the recorded parameters when no block waits, or with nothing
when a visit gives up. -/
inductive Ends (slots : List Nat) : Exploration g → Option (SortedSet Nat) → Prop
  | done {s : Exploration g} : s.pending = [] → Ends slots s (some s.recorded)
  | givesUp {s : Exploration g} : Visits slots s none → Ends slots s none
  | goesOn {s s' : Exploration g} {r : Option (SortedSet Nat)} :
      Visits slots s (some s') → Ends slots s' r → Ends slots s r

/-! ### One visit -/

/-- The number of blocks that wait or have not been met. -/
def size (s : Exploration g) : Nat := s.pending.length + s.metᶜ.card

/-- What looking at some edges does. Targets that were not met before are met and wait. -/
structure Crossed (slots : List Nat) (edges : List g.Arc) (s s' : Exploration g) : Prop where
  continues : ∀ e ∈ edges, g.completesNormally e = false
  mem_met : ∀ b, b ∈ s'.met ↔
    b ∈ s.met ∨ ∃ e ∈ edges, g.needsNonNull slots e = false ∧ e.target = b
  mem_pending : ∀ b, b ∈ s'.pending ↔
    b ∈ s.pending ∨ b ∉ s.met ∧ ∃ e ∈ edges, g.needsNonNull slots e = false ∧ e.target = b
  mem_recorded : ∀ i, SortedSet.mem s'.recorded i = true ↔ SortedSet.mem s.recorded i = true ∨
    ∃ e ∈ edges, g.needsNonNull slots e = false ∧ g.testedParameter? slots e.source = some i
  size_eq : s'.size = s.size

lemma cross_eq_none_iff : cross slots s e = none ↔ g.completesNormally e = true := by
  unfold cross
  split
  · simp [*]
  · split <;> simp [*]

/-- A visit gives up only at an edge on which the method completes normally. -/
lemma exists_completes (h : edges.foldlM (cross slots) s = none) :
    ∃ e ∈ edges, g.completesNormally e = true := by
  induction edges generalizing s with
  | nil => cases h
  | cons e edges ih =>
      rw [List.foldlM_cons] at h
      cases hcross : cross slots s e with
      | none => exact ⟨e, List.mem_cons_self, cross_eq_none_iff.1 hcross⟩
      | some s' =>
          rw [hcross] at h
          obtain ⟨e', he', hcompletes⟩ := ih h
          exact ⟨e', List.mem_cons_of_mem e he', hcompletes⟩

lemma Crossed.nil : Crossed slots [] s s := by
  constructor <;> simp

/-- An edge on which a parameter is not null changes nothing; any other edge records the parameter
that its source tests, and its target is met. -/
lemma Crossed.single (h : cross slots s e = some s') : Crossed slots [e] s s' := by
  unfold cross at h
  split at h
  · cases h
  · rename_i hcontinues
    split at h
    · rename_i hnonNull
      obtain rfl := Option.some.inj h
      constructor <;> simp_all
    · rename_i hnull
      obtain rfl := Option.some.inj h
      have hone : ∀ P : g.Arc → Prop,
          (∃ e' ∈ [e], g.needsNonNull slots e' = false ∧ P e') ↔ P e := by simp [hnull]
      refine ⟨by simpa using hcontinues, fun b => ?_, fun b => ?_, fun i => ?_, ?_⟩
      · rw [hone, Finset.mem_insert, or_comm, eq_comm]
      · rw [hone]
        dsimp only
        split <;> grind
      · rw [hone]
        dsimp only
        split
        · rename_i j htested
          rw [SortedSet.mem_add, htested, Option.some_inj, or_comm, eq_comm (a := i)]
        · rename_i htested
          simp [htested]
      · unfold size
        dsimp only
        split
        · rename_i hmet
          rw [Finset.insert_eq_self.2 hmet]
        · rename_i hunmet
          have hcard := Finset.card_erase_add_one (Finset.mem_compl.2 hunmet)
          rw [Finset.compl_insert, List.length_cons]
          omega

lemma Crossed.cons {s'' : Exploration g} (hfirst : Crossed slots [e] s s')
    (hrest : Crossed slots edges s' s'') : Crossed slots (e :: edges) s s'' where
  continues := List.forall_mem_cons.2
    ⟨hfirst.continues e (List.mem_singleton_self e), hrest.continues⟩
  mem_met b := by
    rw [hrest.mem_met, hfirst.mem_met]
    simp only [List.mem_cons]
    grind
  mem_pending b := by
    rw [hrest.mem_pending, hfirst.mem_pending, hfirst.mem_met]
    simp only [List.mem_cons]
    grind
  mem_recorded i := by
    rw [hrest.mem_recorded, hfirst.mem_recorded]
    simp only [List.mem_cons]
    grind
  size_eq := hrest.size_eq.trans hfirst.size_eq

lemma Crossed.perm {edges' : List g.Arc} (h : Crossed slots edges s s')
    (hperm : edges.Perm edges') : Crossed slots edges' s s' := by
  obtain ⟨hcontinues, hmet, hpending, hrecorded, hsize⟩ := h
  simp only [hperm.mem_iff] at hcontinues hmet hpending hrecorded
  exact ⟨hcontinues, hmet, hpending, hrecorded, hsize⟩

/-- Edges are looked at one by one. -/
lemma crossed_of_foldlM (h : edges.foldlM (cross slots) s = some s') : Crossed slots edges s s' := by
  induction edges generalizing s with
  | nil =>
      obtain rfl := Option.some.inj h
      exact .nil
  | cons e edges ih =>
      rw [List.foldlM_cons] at h
      obtain ⟨s₁, hcross, hrest⟩ := Option.bind_eq_some_iff.1 h
      exact (Crossed.single hcross).cons (ih hrest)

/-- A visit that goes on leaves fewer blocks that wait or have not been met. -/
lemma Visits.size_lt (h : Visits slots s (some s')) : s'.size < s.size := by
  obtain ⟨b, rest, edges, hpending, -, hresult⟩ := h
  rw [(crossed_of_foldlM hresult).size_eq, size, size, hpending.length_eq, List.length_cons]
  exact Nat.add_lt_add_right (Nat.lt_succ_self _) _

/-- No exploration goes on for ever. -/
lemma visits_wellFounded (slots : List Nat) :
    WellFounded fun s' s : Exploration g => Visits slots s (some s') :=
  Subrelation.wf Visits.size_lt (measure size).wf

/-! ### Between two visits -/

/-- What holds between two visits: a block has been met if it has been visited or waits, all met
blocks are on the null side, what the visited ones lead to has been met, and their tests have been
recorded. -/
structure Explored (slots : List Nat) (visited : Finset g.Node) (s : Exploration g) : Prop where
  entry : g.entry ∈ s.met
  mem_met : ∀ b, b ∈ s.met ↔ b ∈ visited ∨ b ∈ s.pending
  nullSide : ∀ b ∈ s.met, g.NullSide slots b
  continues : ∀ b ∈ visited, ∀ e ∈ g.outgoing b, g.completesNormally e = false
  closed : ∀ b ∈ visited, ∀ e ∈ g.outgoing b, g.needsNonNull slots e = false → e.target ∈ s.met
  mem_recorded : ∀ i, SortedSet.mem s.recorded i = true ↔ ∃ b ∈ visited,
    (∃ e ∈ g.outgoing b, g.needsNonNull slots e = false) ∧ g.testedParameter? slots b = some i

lemma explored_start : Explored slots ∅ (start g) where
  entry := Finset.mem_singleton_self _
  mem_met := by simp [start]
  nullSide b hb := by
    obtain rfl := Finset.mem_singleton.1 hb
    exact nullSide_entry
  continues := by simp
  closed := by simp
  mem_recorded := by simp [start]

/-- A visit that goes on keeps all this. -/
lemma Explored.visit {visited : Finset g.Node} {b : g.Node} {rest : List g.Node}
    (h : Explored slots visited s) (hpending : s.pending.Perm (b :: rest))
    (hcrossed : Crossed slots (g.outgoing b) { s with pending := rest } s') :
    Explored slots (insert b visited) s' := by
  have hmem : ∀ c, c ∈ s.pending ↔ c = b ∨ c ∈ rest := fun c => by
    rw [hpending.mem_iff, List.mem_cons]
  have hb : b ∈ s.met := (h.mem_met b).2 (.inr ((hmem b).2 (.inl rfl)))
  refine ⟨(hcrossed.mem_met _).2 (.inl h.entry), fun c => ?_, fun c hc => ?_, fun c hc => ?_,
    fun c hc => ?_, fun i => ?_⟩
  · rw [hcrossed.mem_met, hcrossed.mem_pending, Finset.mem_insert]
    have hmet := h.mem_met c
    rw [hmem] at hmet
    dsimp only
    grind
  · rcases (hcrossed.mem_met c).1 hc with hold | ⟨e, he, hnull, rfl⟩
    · exact h.nullSide c hold
    · exact (h.nullSide b hb).step he hnull
  · rcases Finset.mem_insert.1 hc with rfl | hc
    · exact hcrossed.continues
    · exact h.continues c hc
  · intro e he hnull
    refine (hcrossed.mem_met _).2 ?_
    rcases Finset.mem_insert.1 hc with rfl | hc
    · exact .inr ⟨e, he, hnull, rfl⟩
    · exact .inl (h.closed c hc e he hnull)
  · have hsource : ∀ e ∈ g.outgoing b, e.source = b := fun e he => (mem_outgoing.1 he).2
    rw [hcrossed.mem_recorded, h.mem_recorded]
    simp only [Finset.mem_insert]
    grind

/-- When no block waits, all blocks of the null side have been visited. -/
lemma Explored.visited_iff {visited : Finset g.Node} (h : Explored slots visited s)
    (hdone : s.pending = []) {b : g.Node} : b ∈ visited ↔ g.NullSide slots b := by
  have hmet : ∀ c, c ∈ s.met ↔ c ∈ visited := fun c => by simp [h.mem_met, hdone]
  constructor
  · intro hb
    exact h.nullSide b ((hmet b).2 hb)
  · intro hb
    rw [← hmet]
    exact hb.mem_of_closed h.entry fun c hc e he hnull => h.closed c ((hmet c).1 hc) e he hnull

/-! ### The end -/

/-- An exploration ends with the guarded parameters. -/
lemma Explored.ends {visited : Finset g.Node} {r : Option (SortedSet Nat)}
    (h : Explored slots visited s) (hends : Ends slots s r) : r = g.guardedParameters? slots := by
  induction hends generalizing visited with
  | done hdone =>
      symm
      cases hguarded : g.guardedParameters? slots with
      | none =>
          obtain ⟨b, hb, e, he, hcompletes⟩ := guardedParameters?_eq_none_iff.1 hguarded
          rw [h.continues b ((h.visited_iff hdone).2 hb) e he] at hcompletes
          cases hcompletes
      | some S =>
          refine congrArg some (SortedSet.ext_mem fun i => Bool.eq_iff_iff.2 ?_)
          rw [mem_guardedParameters?_iff hguarded, h.mem_recorded]
          simp only [h.visited_iff hdone]
  | givesUp hvisit =>
      obtain ⟨b, rest, edges, hpending, hedges, hresult⟩ := hvisit
      obtain ⟨e, he, hcompletes⟩ := exists_completes hresult
      have hb := (h.mem_met b).2 (.inr (hpending.mem_iff.2 List.mem_cons_self))
      exact (guardedParameters?_eq_none_iff.2
        ⟨b, h.nullSide b hb, e, hedges.mem_iff.1 he, hcompletes⟩).symm
  | goesOn hvisit _ ih =>
      obtain ⟨b, rest, edges, hpending, hedges, hresult⟩ := hvisit
      exact ih (h.visit hpending ((crossed_of_foldlM hresult).perm hedges))

/-- Every exploration can be brought to an end. -/
lemma exists_ends (slots : List Nat) (s : Exploration g) : ∃ r, Ends slots s r := by
  induction s using (visits_wellFounded slots).induction with
  | _ s ih =>
      cases hpending : s.pending with
      | nil => exact ⟨_, .done hpending⟩
      | cons b rest =>
          have hvisit : Visits slots s ((g.outgoing b).foldlM (cross slots) { s with pending := rest }) :=
            ⟨b, rest, _, hpending ▸ .refl _, .refl _, rfl⟩
          cases hresult : (g.outgoing b).foldlM (cross slots) { s with pending := rest } with
          | none => exact ⟨_, .givesUp (hresult ▸ hvisit)⟩
          | some s' =>
              rw [hresult] at hvisit
              obtain ⟨r, hr⟩ := ih s' hvisit
              exact ⟨r, .goesOn hvisit hr⟩

/-- **Every exploration ends with the guarded parameters.** -/
theorem ends_iff {r : Option (SortedSet Nat)} :
    Ends slots (start g) r ↔ r = g.guardedParameters? slots := by
  refine ⟨explored_start.ends, ?_⟩
  rintro rfl
  obtain ⟨r, hr⟩ := exists_ends slots (start g)
  rwa [← explored_start.ends hr]

end Exploration

/-! ### The guarded parameters -/

namespace FlowGraph

variable {g : FlowGraph} {slots : List Nat} {edges : List g.Arc}

lemma Path.of_relist (hperm : edges.Perm g.edges) {source b : (g.relist edges hperm).Node}
    {path : List (g.relist edges hperm).Arc} (h : (g.relist edges hperm).Path source path b) :
    Path g source path b := by
  induction h with
  | stay => exact .stay
  | cross _ he ih => exact Path.cross ih (hperm.mem_iff.1 he)

/-- Paths do not depend on the order in which the edges are listed. -/
lemma path_relist (hperm : edges.Perm g.edges) {source b : g.Node} {path : List g.Arc} :
    (g.relist edges hperm).Path source path b ↔ g.Path source path b :=
  ⟨Path.of_relist hperm, Path.of_relist (g := g.relist edges hperm) hperm.symm⟩

lemma nullSide_relist (hperm : edges.Perm g.edges) {b : g.Node} :
    (g.relist edges hperm).NullSide slots b ↔ g.NullSide slots b :=
  exists_congr fun _ => and_congr_left' (path_relist hperm)

lemma mem_outgoing_relist (hperm : edges.Perm g.edges) {b : g.Node} {e : g.Arc} :
    e ∈ (g.relist edges hperm).outgoing b ↔ e ∈ g.outgoing b := by
  rw [mem_outgoing, mem_outgoing, hperm.mem_iff]

/-- Neither do the guarded parameters. -/
lemma guardedParameters?_relist (hperm : edges.Perm g.edges) :
    (g.relist edges hperm).guardedParameters? slots = g.guardedParameters? slots := by
  have hnone : (g.relist edges hperm).guardedParameters? slots = none ↔
      g.guardedParameters? slots = none := by
    rw [guardedParameters?_eq_none_iff, guardedParameters?_eq_none_iff]
    simp only [nullSide_relist hperm, mem_outgoing_relist hperm]
    rfl
  cases hguarded : g.guardedParameters? slots with
  | none => exact hnone.2 hguarded
  | some S =>
      cases hrelisted : (g.relist edges hperm).guardedParameters? slots with
      | none =>
          rw [hnone.1 hrelisted] at hguarded
          cases hguarded
      | some S' =>
          refine congrArg some (SortedSet.ext_mem fun i => Bool.eq_iff_iff.2 ?_)
          rw [mem_guardedParameters?_iff hguarded, mem_guardedParameters?_iff hrelisted]
          simp only [nullSide_relist hperm, mem_outgoing_relist hperm]
          rfl

/-- **Which parameters are guarded.** There are none exactly when a block of the null side that does not
end by throwing has an edge into the exit that is not that of an exception. Otherwise they are the
parameters that are tested at the end of a block of the null side with an edge that does not require
its variable to be not null. The order in which the edges are listed does not matter, and neither does
that of an exploration: none goes on for ever, and they all end with these parameters. -/
theorem guardedParameters_of_explorations (g : FlowGraph) {slots : List Nat}
    (hslots : slots.Pairwise (· < ·)) :
    (g.guardedParameters? slots = none ↔ ∃ b, g.NullSide slots b ∧ g.throwsAtEnd b = false ∧
      ∃ e ∈ g.edges, e.source = b ∧ e.target = g.exit ∧ e.kind ≠ .unhandledException) ∧
    (∀ S, g.guardedParameters? slots = some S → ∀ i, SortedSet.mem S i = true ↔
      ∃ b, g.NullSide slots b ∧
        (∃ e ∈ g.edges, e.source = b ∧ ∀ slot ∈ slots, ¬ g.NonNullEdge slot e) ∧
        ∃ slot, slots[i]? = some slot ∧ g.Tests slot b) ∧
    (∀ (edges : List g.Arc) (hperm : edges.Perm g.edges),
      (g.relist edges hperm).guardedParameters? slots = g.guardedParameters? slots) ∧
    (WellFounded fun s' s : Exploration g => Exploration.Visits slots s (some s')) ∧
    ∀ r, Exploration.Ends slots (Exploration.start g) r ↔ r = g.guardedParameters? slots := by
  refine ⟨?_, fun S hS i => ?_, fun edges hperm => guardedParameters?_relist hperm,
    Exploration.visits_wellFounded slots, fun r => Exploration.ends_iff⟩
  · rw [guardedParameters?_eq_none_iff]
    refine exists_congr fun b => and_congr_right fun _ => ?_
    simp only [mem_outgoing, completesNormally_iff]
    constructor
    · rintro ⟨e, ⟨he, rfl⟩, ht, hkind, hthrows⟩
      exact ⟨hthrows, e, he, rfl, ht, hkind⟩
    · rintro ⟨hthrows, e, he, rfl, ht, hkind⟩
      exact ⟨e, ⟨he, rfl⟩, ht, hkind, hthrows⟩
  · have hnodup : slots.Nodup := hslots.imp Nat.ne_of_lt
    rw [mem_guardedParameters?_iff hS]
    simp only [mem_outgoing, needsNonNull_eq_false_iff, testedParameter?_iff_of_nodup hnodup,
      and_assoc]

/-- Tests the second of two parameters, of which the first takes two variables. A handler of the test
goes back to it. -/
def retriedGuard : FlowGraph :=
  (ofBody {
    entry := 0
    exit := 4
    blocks := [⟨0, [⟨0, .load 3⟩, ⟨1, .ifNull⟩]⟩, ⟨1, [⟨2, .return⟩]⟩,
      ⟨2, [⟨3, .new "E"⟩, ⟨4, .throw⟩]⟩, ⟨3, [⟨5, .pop⟩, ⟨6, .goto⟩]⟩, ⟨4, []⟩]
    edges := [⟨0, 1, .fallThrough⟩, ⟨0, 2, .branch⟩, ⟨0, 3, .handledException⟩,
      ⟨1, 4, .fallThrough⟩, ⟨2, 4, .unhandledException⟩, ⟨3, 0, .branch⟩] }).toOption.get
    (by decide +kernel)

/-- The second parameter is guarded. -/
theorem guardedParameters_of_explorations_retriedGuard :
    [1, 3].Pairwise (· < ·) ∧
    retriedGuard.guardedParameters? [1, 3] = some (.ofList [1]) ∧
    (∃ b, retriedGuard.NullSide [1, 3] b ∧
      (∃ e ∈ retriedGuard.edges, e.source = b ∧
        ∀ slot ∈ [1, 3], ¬ retriedGuard.NonNullEdge slot e) ∧
      ∃ slot, [1, 3][1]? = some slot ∧ retriedGuard.Tests slot b) ∧
    ∀ r, Exploration.Ends [1, 3] (Exploration.start retriedGuard) r ↔ r = some (.ofList [1]) := by
  have hslots : [1, 3].Pairwise (· < ·) := by decide
  have hguarded : retriedGuard.guardedParameters? [1, 3] = some (.ofList [1]) := by decide +kernel
  obtain ⟨-, hmem, -, -, hends⟩ := guardedParameters_of_explorations retriedGuard hslots
  refine ⟨hslots, hguarded, (hmem _ hguarded 1).1 (by decide +kernel), fun r => ?_⟩
  rw [hends, hguarded]

end FlowGraph

end Nullness
