import Mathlib.Tactic
import Nullness.FlowGraph
import Nullness.Proofs.Reachability

/-!
# Paths

A path is the list of the edges that control crosses on its way from one block to another.

* `FlowGraph.Path`: the paths from a block;
* `FlowGraph.Path.reachable`, `FlowGraph.Reachable.exists_path`: reachable blocks are those to which a
  path leads from the entry;
* `FlowGraph.mem_reachableAlong`: a listing along some of the edges contains the blocks to which a path
  of such edges leads;
* `FlowGraph.stepsTo_incoming_iff`, `FlowGraph.mem_reachableBack`: a listing against the edges contains
  the blocks from which a path leads, and counts its edges.
-/

namespace Nullness

namespace FlowGraph

variable {g : FlowGraph}

/-- The paths from a block, each with the block to which it leads. -/
inductive Path (g : FlowGraph) (source : g.Node) : List g.Arc → g.Node → Prop
  | stay : Path g source [] source
  | cross {path : List g.Arc} {e : g.Arc} :
      Path g source path e.source → e ∈ g.edges → Path g source (path ++ [e]) e.target

/-- The last edge of a path. -/
lemma path_append_singleton_iff {source b : g.Node} {path : List g.Arc} {e : g.Arc} :
    g.Path source (path ++ [e]) b ↔ g.Path source path e.source ∧ e ∈ g.edges ∧ e.target = b := by
  constructor
  · generalize hwhole : path ++ [e] = whole
    rintro (_ | ⟨hpath, he⟩)
    · simp at hwhole
    · obtain ⟨rfl, hlast⟩ := List.append_inj' hwhole rfl
      obtain rfl := List.singleton_inj.1 hlast
      exact ⟨hpath, he, rfl⟩
  · rintro ⟨hpath, he, rfl⟩
    exact hpath.cross he

lemma Path.reachable {path : List g.Arc} {b : g.Node} (h : g.Path g.entry path b) :
    g.Reachable b := by
  induction h with
  | stay => exact .entry
  | cross _ he ih => exact .step ih he

lemma Reachable.exists_path {b : g.Node} (h : g.Reachable b) : ∃ path, g.Path g.entry path b := by
  induction h with
  | entry => exact ⟨[], .stay⟩
  | step _ he ih =>
      obtain ⟨path, hpath⟩ := ih
      exact ⟨path ++ [_], hpath.cross he⟩

/-! ### Paths along some of the edges -/

lemma mem_reachableAlong {allowed : g.Arc → Bool} {source b : g.Node} :
    b ∈ reachableFrom (fun b => ((g.outgoing b).filter allowed).map (·.target)) g.edges.length source ↔
      ∃ path, g.Path source path b ∧ ∀ e ∈ path, allowed e = true := by
  have hbound : ∑ b, (((g.outgoing b).filter allowed).map (·.target)).length ≤ g.edges.length := by
    refine (Finset.sum_le_sum fun b _ => ?_).trans (sum_length_filter_le (·.source) g.edges _)
    rw [List.length_map]
    exact List.length_filter_le _ _
  have hstep : ∀ b c : g.Node, c ∈ ((g.outgoing b).filter allowed).map (·.target) ↔
      ∃ e ∈ g.edges, e.source = b ∧ e.target = c ∧ allowed e = true := by
    intro b c
    simp only [List.mem_map, List.mem_filter, mem_outgoing]
    exact ⟨fun ⟨e, ⟨⟨he, hsource⟩, hallowed⟩, ht⟩ => ⟨e, he, hsource, ht, hallowed⟩,
      fun ⟨e, he, hsource, ht, hallowed⟩ => ⟨e, ⟨⟨he, hsource⟩, hallowed⟩, ht⟩⟩
  rw [mem_reachableFrom (fun _ _ c _ => Finset.mem_univ c) hbound (Finset.mem_univ _)]
  simp only [hstep]
  constructor
  · intro h
    induction h with
    | refl => exact ⟨[], .stay, by simp⟩
    | tail _ hlast ih =>
        obtain ⟨path, hpath, hall⟩ := ih
        obtain ⟨e, he, rfl, rfl, hallowed⟩ := hlast
        exact ⟨path ++ [e], hpath.cross he, List.forall_mem_append.2 ⟨hall, by simpa using hallowed⟩⟩
  · rintro ⟨path, hpath, hall⟩
    induction hpath with
    | stay => exact .refl
    | cross _ he ih =>
        obtain ⟨hbefore, hallowed⟩ := List.forall_mem_append.1 hall
        exact (ih hbefore).tail ⟨_, he, rfl, rfl, hallowed _ (List.mem_singleton_self _)⟩

/-! ### Against the edges -/

/-- One edge more at the front. -/
lemma Path.prepend {e : g.Arc} (he : e ∈ g.edges) {path : List g.Arc} {b : g.Node}
    (h : g.Path e.target path b) : g.Path e.source (e :: path) b := by
  induction h with
  | stay => exact Path.stay.cross he
  | cross _ hlast ih => exact ih.cross hlast

/-- Steps to sources of edges are paths, taken from their ends. -/
lemma stepsTo_incoming_iff {b c : g.Node} {n : Nat} :
    StepsTo (fun b => (g.incoming b).map (·.source)) b n c ↔
      ∃ path, g.Path c path b ∧ path.length = n := by
  constructor
  · intro h
    induction h with
    | stay => exact ⟨[], .stay, rfl⟩
    | step _ hstep ih =>
        obtain ⟨path, hpath, rfl⟩ := ih
        obtain ⟨e, hincoming, rfl⟩ := List.mem_map.1 hstep
        obtain ⟨he, rfl⟩ := mem_incoming.1 hincoming
        exact ⟨e :: path, hpath.prepend he, rfl⟩
  · rintro ⟨path, hpath, rfl⟩
    induction hpath with
    | stay => exact .stay
    | @cross path e _ he ih =>
        rw [List.length_append]
        exact ih.prepend (List.mem_map_of_mem (mem_incoming.2 ⟨he, rfl⟩))

lemma mem_reachableBack {b c : g.Node} :
    c ∈ reachableFrom (fun b => (g.incoming b).map (·.source)) g.edges.length b ↔
      ∃ path, g.Path c path b := by
  have hbound : ∑ b, ((g.incoming b).map (·.source)).length ≤ g.edges.length := by
    simp only [List.length_map]
    exact sum_length_filter_le (·.target) g.edges _
  rw [mem_reachableFrom (fun _ _ c _ => Finset.mem_univ c) hbound (Finset.mem_univ _),
    ← exists_stepsTo_iff]
  simp only [stepsTo_incoming_iff]
  exact ⟨fun ⟨_, path, hpath, _⟩ => ⟨path, hpath⟩, fun ⟨path, hpath⟩ => ⟨_, path, hpath, rfl⟩⟩

end FlowGraph

end Nullness
