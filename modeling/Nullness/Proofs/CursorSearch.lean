import Nullness.Proofs.ReversePostorder

/-!
# Depth-first search with a stack of cursors

The depth-first search as a loop. Its stack holds the open blocks, the innermost one first, each
with the edges that were not followed yet; one turn follows the next edge of the innermost block, or
finishes that block when no edge is left.

* `search_turns`: what the search finds, a number of turns finds, one for each finished block and
  one for each edge out of it;
* `reversePostorder_correct`: the loop ends, and the order that it leaves lists the blocks that the
  entry leads to, with every edge leading forwards that closes no cycle.
-/

namespace Nullness

namespace FlowGraph

variable {g : FlowGraph}

/-- A depth-first search under way. -/
structure Cursors (g : FlowGraph) where
  /-- The open blocks with the edges that were not followed yet, the innermost block first. -/
  stack : List (g.Node × List g.Arc)
  search : Search g

namespace Cursors

/-- The search that has met the entry alone. -/
def start (g : FlowGraph) : Cursors g := ⟨[(g.entry, g.outgoing g.entry)], ⟨[g.entry], []⟩⟩

/-- One turn of the loop, unless no block is open. -/
def turn : Cursors g → Option (Cursors g)
  | ⟨[], _⟩ => none
  | ⟨(b, []) :: below, s⟩ => some ⟨below, { s with finished := b :: s.finished }⟩
  | ⟨(b, e :: edges) :: below, s⟩ =>
    if s.met.contains e.target then some ⟨(b, edges) :: below, s⟩
    else some ⟨(e.target, g.outgoing e.target) :: (b, edges) :: below,
      { s with met := e.target :: s.met }⟩

end Cursors

/-- The loop comes from one state to another in a number of turns. -/
inductive Turns : Nat → Cursors g → Cursors g → Prop
  | none (c : Cursors g) : Turns 0 c c
  | next {c c' c'' : Cursors g} {count : Nat} :
      c.turn = some c' → Turns count c' c'' → Turns (count + 1) c c''

lemma Turns.append {c c' c'' : Cursors g} {m n : Nat} (h : Turns m c c') (h' : Turns n c' c'') :
    Turns (m + n) c c'' := by
  induction h with
  | none => rwa [Nat.zero_add]
  | next hturn _ ih =>
      rw [Nat.add_right_comm]
      exact .next hturn (ih h')

lemma Turns.single {c c' : Cursors g} (h : c.turn = some c') : Turns 1 c c' :=
  .next h (.none c')

/-- The turns that the blocks of a list take: one for each edge, and one to finish the block. -/
def cost (bs : List g.Node) : Nat := (bs.map fun b => (g.outgoing b).length + 1).sum

lemma cost_cons (b : g.Node) (bs : List g.Node) :
    cost (b :: bs) = (g.outgoing b).length + 1 + cost bs := by
  simp [cost]

/-- Following some edges out of the innermost block. -/
lemma foldl_search_turns (bound : Nat) {b : g.Node} (path : List g.Node)
    (hbound : g.size ≤ bound + (b :: path).length)
    (hsearch : ∀ (c : g.Node) (s : Search g), Open (b :: path) s → c ∉ s.met →
      ∀ below, ∃ n, Turns n ⟨(c, g.outgoing c) :: below, { s with met := c :: s.met }⟩
        ⟨below, search g bound c s⟩ ∧ n + cost s.finished = cost (search g bound c s).finished)
    (edges : List g.Arc) (s : Search g) (ho : Open (b :: path) s)
    (below : List (g.Node × List g.Arc)) :
    let after := edges.foldl (fun s e => search g bound e.target s) s
    ∃ n, Turns n ⟨(b, edges) :: below, s⟩ ⟨(b, []) :: below, after⟩ ∧
      n + cost s.finished = cost after.finished + edges.length := by
  induction edges generalizing s with
  | nil => exact ⟨0, .none _, by simp⟩
  | cons e edges ih =>
      obtain ⟨fresh, hexplored⟩ := search_explored bound e.target (b :: path) s ho hbound
      obtain ⟨n, hturns, hcost⟩ := ih _ (hexplored.still_open ho)
      rw [List.foldl_cons]
      by_cases hmet : e.target ∈ s.met
      · rw [search_of_met bound hmet] at hturns hcost ⊢
        have hturn : Cursors.turn ⟨(b, e :: edges) :: below, s⟩ = some ⟨(b, edges) :: below, s⟩ := by
          rw [Cursors.turn, if_pos (List.contains_iff_mem.2 hmet)]
        exact ⟨n + 1, .next hturn hturns, by rw [List.length_cons]; omega⟩
      · obtain ⟨m, hturns', hcost'⟩ := hsearch e.target s ho hmet ((b, edges) :: below)
        have hturn : Cursors.turn ⟨(b, e :: edges) :: below, s⟩ =
            some ⟨(e.target, g.outgoing e.target) :: (b, edges) :: below,
              { s with met := e.target :: s.met }⟩ := by
          rw [Cursors.turn, if_neg (mt List.contains_iff_mem.1 hmet)]
        exact ⟨m + n + 1, .next hturn (hturns'.append hturns), by rw [List.length_cons]; omega⟩

/-- **The loop does what the search does**: the turns that begin when a block is met end with the
block finished. -/
lemma search_turns (bound : Nat) (b : g.Node) (path : List g.Node) (s : Search g)
    (ho : Open path s) (hbound : g.size ≤ bound + path.length) (hb : b ∉ s.met)
    (below : List (g.Node × List g.Arc)) :
    ∃ n, Turns n ⟨(b, g.outgoing b) :: below, { s with met := b :: s.met }⟩
      ⟨below, search g bound b s⟩ ∧ n + cost s.finished = cost (search g bound b s).finished := by
  induction bound generalizing b path s below with
  | zero => exact absurd (ho.met b (ho.mem_of_size_le (by omega) b)) hb
  | succ bound ih =>
      have hbound' : g.size ≤ bound + (b :: path).length := by
        rw [List.length_cons]
        omega
      obtain ⟨n, hturns, hcost⟩ := foldl_search_turns bound path hbound'
        (fun c t ht hc => ih c (b :: path) t ht hbound' hc) (g.outgoing b) _ (ho.push hb) below
      rw [search, if_neg hb]
      refine ⟨n + 1, hturns.append (.single rfl), ?_⟩
      dsimp only at hcost ⊢
      rw [cost_cons]
      omega

/-- The loop ends, with the blocks in reverse postorder. -/
lemma turns_reversePostorder (g : FlowGraph) :
    ∃ s : Search g, Turns (cost g.reversePostorder) (Cursors.start g) ⟨[], s⟩ ∧
      s.finished = g.reversePostorder := by
  obtain ⟨n, hturns, hcost⟩ := search_turns g.size g.entry [] ⟨[], []⟩
    ⟨List.nodup_nil, by simp, by simp⟩ (by simp) (by simp) []
  have hn : n = cost g.reversePostorder := hcost
  exact ⟨_, hn ▸ hturns, rfl⟩

/-- The entry is listed first. -/
lemma head?_reversePostorder (g : FlowGraph) : g.reversePostorder.head? = some g.entry := by
  cases hlist : g.reversePostorder with
  | nil =>
      have hentry := mem_reversePostorder.2 (Reachable.entry (g := g))
      simp [hlist] at hentry
  | cons b rest =>
      have hsplit : g.reversePostorder = [] ++ b :: rest := hlist
      rcases eq_entry_or_predecessor hsplit with rfl | ⟨_, _, _, hs⟩
      · rfl
      · simp at hs

/-- An edge leads forwards in the list, unless it closes a cycle. -/
lemma idxOf_lt_or_leads {e : g.Arc} (he : e ∈ g.edges) (hs : g.Reachable e.source) :
    g.reversePostorder.idxOf e.source < g.reversePostorder.idxOf e.target ∨
      g.Leads e.target e.source := by
  obtain ⟨pre, post, hsplit⟩ := List.append_of_mem (mem_reversePostorder.2 hs)
  refine (target_after_or_leads hsplit he rfl).imp_left fun hpost => ?_
  have hnodup := nodup_reversePostorder g
  rw [hsplit] at hnodup ⊢
  have hsource : e.source ∉ pre := fun h =>
    (List.nodup_append'.1 hnodup).2.2 h List.mem_cons_self
  have htarget : e.target ∉ pre ++ [e.source] := fun h => by
    rw [List.append_cons] at hnodup
    exact (List.nodup_append'.1 hnodup).2.2 h hpost
  rw [List.idxOf_append_of_notMem hsource, List.idxOf_cons_self, List.append_cons,
    List.idxOf_append_of_notMem htarget, List.length_append, List.length_singleton]
  omega

/-- **Reverse postorder.** The loop that searches a flow graph from its entry ends after a turn for
each block that it lists and each edge out of one. The list has the blocks that the entry leads to,
each of them once, and the entry first. An edge between them leads forwards in the list unless it
closes a cycle, so where there is no cycle the list is a topological order. -/
theorem reversePostorder_correct (g : FlowGraph) :
    (∃ s : Search g, Turns (cost g.reversePostorder) (Cursors.start g) ⟨[], s⟩ ∧
      s.finished = g.reversePostorder) ∧
    g.reversePostorder.Nodup ∧
    (∀ b, b ∈ g.reversePostorder ↔ g.Reachable b) ∧
    g.reversePostorder.head? = some g.entry ∧
    (∀ e ∈ g.edges, g.Reachable e.source →
      g.reversePostorder.idxOf e.source < g.reversePostorder.idxOf e.target ∨
        g.Leads e.target e.source) ∧
    ((∀ e ∈ g.edges, g.Reachable e.source → ¬ g.Leads e.target e.source) →
      ∀ e ∈ g.edges, g.Reachable e.source →
        g.reversePostorder.idxOf e.source < g.reversePostorder.idxOf e.target) :=
  ⟨turns_reversePostorder g, nodup_reversePostorder g, fun _ => mem_reversePostorder,
    head?_reversePostorder g, fun _ => idxOf_lt_or_leads,
    fun hacyclic e he hs => (idxOf_lt_or_leads he hs).resolve_right (hacyclic e he hs)⟩

end FlowGraph

end Nullness
