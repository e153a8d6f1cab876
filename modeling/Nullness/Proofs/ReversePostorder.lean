import Mathlib.Tactic
import Nullness.FlowGraph.Order

/-!
# What a reverse postorder lists

The depth-first search behind `FlowGraph.reversePostorder` is followed with the list of its open
blocks, those it has met but not finished; along an open path all blocks differ, so the bound of
the search is never felt (`search_explored`).

* `mem_reversePostorder`: the blocks listed are those that the entry leads to;
* `eq_entry_or_predecessor`: a listed block is the entry, or an edge leads to it from a block
  listed before it;
* `Reachable.induction_listed`: induction in the order of the list;
* `target_after_or_spans`: an edge leads forwards in the list, or its target spans everything that
  is listed from there to its source;
* `target_after_or_leads`: an edge leads forwards in the list, unless it closes a cycle.
-/

namespace Nullness

namespace FlowGraph

variable {g : FlowGraph}

/-- A path of edges, possibly empty, leads from one block to another. -/
def Leads (g : FlowGraph) : g.Node → g.Node → Prop :=
  Relation.ReflTransGen fun x y => ∃ e ∈ g.edges, e.source = x ∧ e.target = y

lemma Leads.refl (b : g.Node) : g.Leads b b := Relation.ReflTransGen.refl

lemma Leads.edge {b c : g.Node} {e : g.Arc} (h : g.Leads b c) (he : e ∈ g.edges)
    (hs : e.source = c) : g.Leads b e.target :=
  Relation.ReflTransGen.tail h ⟨e, he, hs, rfl⟩

lemma Reachable.leads {b c : g.Node} (hb : g.Reachable b) (h : g.Leads b c) : g.Reachable c := by
  induction h with
  | refl => exact hb
  | tail _ hstep ih =>
      obtain ⟨e, he, rfl, rfl⟩ := hstep
      exact .step ih he

/-- An edge leads to every block of a list, from the root or from a block listed before it. -/
def Spans (g : FlowGraph) (root : g.Node) (bs : List g.Node) : Prop :=
  ∀ pre x post, bs = pre ++ x :: post → ∃ e ∈ g.edges, e.target = x ∧ e.source ∈ root :: pre

/-- A root leads to all that it spans. -/
lemma Spans.leads {root : g.Node} {bs : List g.Node} (h : g.Spans root bs) {x : g.Node}
    (hx : x ∈ root :: bs) : g.Leads root x := by
  -- on the length of what is listed before the block
  have hlisted : ∀ n pre x post, bs = pre ++ x :: post → pre.length = n → g.Leads root x := by
    intro n
    induction n using Nat.strong_induction_on with
    | _ n ih =>
        intro pre x post hsplit hn
        obtain ⟨e, he, rfl, hs⟩ := h pre x post hsplit
        rcases List.mem_cons.1 hs with hroot | hpre
        · exact (Leads.refl _).edge he hroot
        · obtain ⟨pre', mid, rfl⟩ := List.append_of_mem hpre
          have hsplit' : bs = pre' ++ e.source :: (mid ++ e.target :: post) := by simpa using hsplit
          exact (ih pre'.length (by rw [← hn]; simp) pre' _ _ hsplit' rfl).edge he rfl
  rcases List.mem_cons.1 hx with rfl | hx
  · exact .refl _
  · obtain ⟨pre, post, hsplit⟩ := List.append_of_mem hx
    exact hlisted _ pre x post hsplit rfl

/-! ### The search -/

/-- The blocks of `path` are open: met, and not finished. -/
structure Open (path : List g.Node) (s : Search g) : Prop where
  nodup : path.Nodup
  met : ∀ x ∈ path, x ∈ s.met
  cases : ∀ x ∈ s.met, x ∈ s.finished ∨ x ∈ path

namespace Open

/-- A path of as many open blocks as there are blocks has them all. -/
lemma mem_of_size_le {path : List g.Node} {s : Search g} (h : Open path s)
    (hsize : g.size ≤ path.length) (b : g.Node) : b ∈ path := by
  have hall : path.toFinset = Finset.univ := by
    apply Finset.eq_univ_of_card
    rw [List.toFinset_card_of_nodup h.nodup, Fintype.card_fin]
    have hcard := h.nodup.length_le_card
    rw [Fintype.card_fin] at hcard
    omega
  rw [← List.mem_toFinset, hall]
  exact Finset.mem_univ b

/-- A block that has just been met is open. -/
lemma push {path : List g.Node} {s : Search g} (h : Open path s) {b : g.Node} (hb : b ∉ s.met) :
    Open (b :: path) { s with met := b :: s.met } where
  nodup := List.nodup_cons.2 ⟨fun hpath => hb (h.met b hpath), h.nodup⟩
  met := by
    intro x hx
    rcases List.mem_cons.1 hx with rfl | hx
    · exact List.mem_cons_self
    · exact List.mem_cons_of_mem _ (h.met x hx)
  cases := by
    intro x hx
    rcases List.mem_cons.1 hx with rfl | hx
    · exact .inr List.mem_cons_self
    · exact (h.cases x hx).imp_right (List.mem_cons_of_mem _)

end Open

/-- What a search from some roots does to its state: it finishes the blocks of `fresh`, the last
one first. -/
structure Explored (root : g.Node → Prop) (s s' : Search g) (fresh : List g.Node) : Prop where
  finished_eq : s'.finished = fresh ++ s.finished
  mem_met : ∀ x, x ∈ s'.met ↔ x ∈ s.met ∨ x ∈ fresh
  nodup : fresh.Nodup
  unmet : ∀ x ∈ fresh, x ∉ s.met
  covered : ∀ x, root x → x ∈ s'.met
  led : ∀ x ∈ fresh, ∃ r, root r ∧ g.Leads r x
  closed : ∀ e ∈ g.edges, e.source ∈ fresh → e.target ∈ s'.met
  /-- A block finished by the search is a root, or an edge leads to it from one finished later. -/
  behind : ∀ pre x post, fresh = pre ++ x :: post →
    root x ∨ ∃ e ∈ g.edges, e.target = x ∧ e.source ∈ pre
  /-- The target of an edge was finished before its source, or it spans the blocks that were finished
  from its source on to itself, or it was open when the search began. -/
  ahead : ∀ pre x post, fresh = pre ++ x :: post → ∀ e ∈ g.edges, e.source = x →
    e.target ∈ post ++ s.finished ∨
      (∃ before mid, pre ++ [x] = before ++ e.target :: mid ∧ g.Spans e.target mid) ∨
      (e.target ∈ s.met ∧ e.target ∉ s.finished)

namespace Explored

lemma nothing {root : g.Node → Prop} {s : Search g} (h : ∀ x, root x → x ∈ s.met) :
    Explored root s s [] where
  finished_eq := rfl
  mem_met := by simp
  nodup := List.nodup_nil
  unmet := by simp
  covered := h
  led := by simp
  closed := by simp
  behind := by simp
  ahead := by simp

/-- An open path stays open through a search. -/
lemma still_open {root : g.Node → Prop} {s s' : Search g} {fresh path : List g.Node}
    (h : Explored root s s' fresh) (ho : Open path s) : Open path s' where
  nodup := ho.nodup
  met x hx := (h.mem_met x).2 (.inl (ho.met x hx))
  cases x hx := by
    rw [h.finished_eq, List.mem_append]
    rcases (h.mem_met x).1 hx with hx | hx
    · exact (ho.cases x hx).imp_left .inr
    · exact .inl (.inl hx)

/-- Where the edges of a search lead, when other blocks are finished after it. -/
lemma ahead_behind {root : g.Node → Prop} {s s' : Search g} {fresh pre post : List g.Node}
    {x : g.Node} (h : Explored root s s' fresh) (hsplit : fresh = pre ++ x :: post)
    (later : List g.Node) (e : g.Arc) (he : e ∈ g.edges) (hs : e.source = x) :
    e.target ∈ post ++ s.finished ∨
      (∃ before mid, later ++ pre ++ [x] = before ++ e.target :: mid ∧ g.Spans e.target mid) ∨
      (e.target ∈ s.met ∧ e.target ∉ s.finished) := by
  refine (h.ahead pre x post hsplit e he hs).imp_right (Or.imp_left ?_)
  rintro ⟨before, mid, heq, hspans⟩
  exact ⟨later ++ before, mid, by rw [List.append_assoc, heq, List.append_assoc], hspans⟩

/-- Two searches, one after the other. -/
lemma trans {root root' : g.Node → Prop} {s s' s'' : Search g} {fresh fresh' : List g.Node}
    (h : Explored root s s' fresh) (h' : Explored root' s' s'' fresh') :
    Explored (fun x => root x ∨ root' x) s s'' (fresh' ++ fresh) where
  finished_eq := by rw [h'.finished_eq, h.finished_eq, List.append_assoc]
  mem_met x := by rw [h'.mem_met, h.mem_met, List.mem_append]; tauto
  nodup := by
    refine List.nodup_append'.2 ⟨h'.nodup, h.nodup, fun x hx' hx => ?_⟩
    exact h'.unmet x hx' ((h.mem_met x).2 (.inr hx))
  unmet x hx := by
    rcases List.mem_append.1 hx with hx | hx
    · exact fun hs => h'.unmet x hx ((h.mem_met x).2 (.inl hs))
    · exact h.unmet x hx
  covered x hx := by
    rcases hx with hx | hx
    · exact (h'.mem_met x).2 (.inl (h.covered x hx))
    · exact h'.covered x hx
  led x hx := by
    rcases List.mem_append.1 hx with hx | hx
    · obtain ⟨r, hr, hl⟩ := h'.led x hx
      exact ⟨r, .inr hr, hl⟩
    · obtain ⟨r, hr, hl⟩ := h.led x hx
      exact ⟨r, .inl hr, hl⟩
  closed e he hs := by
    rcases List.mem_append.1 hs with hs | hs
    · exact h'.closed e he hs
    · exact (h'.mem_met _).2 (.inl (h.closed e he hs))
  behind pre x post hsplit := by
    rcases List.append_eq_append_iff.1 hsplit with ⟨pre', rfl, hfresh⟩ | ⟨post', hfresh', hpost⟩
    · rcases h.behind pre' x post hfresh with hr | ⟨e, he, ht, hs⟩
      · exact .inl (.inl hr)
      · exact .inr ⟨e, he, ht, List.mem_append_right _ hs⟩
    · cases post' with
      | nil =>
          obtain rfl : x :: post = fresh := by simpa using hpost
          rcases h.behind [] x post rfl with hr | ⟨_, _, _, hs⟩
          · exact .inl (.inl hr)
          · simp at hs
      | cons y post' =>
          obtain ⟨rfl, rfl⟩ : x = y ∧ post = post' ++ fresh := by simpa using hpost
          exact (h'.behind pre x post' hfresh').imp_left .inr
  ahead pre x post hsplit e he hs := by
    rcases List.append_eq_append_iff.1 hsplit with ⟨pre', rfl, hfresh⟩ | ⟨post', hfresh', hpost⟩
    · exact h.ahead_behind hfresh fresh' e he hs
    · cases post' with
      | nil =>
          obtain rfl : x :: post = fresh := by simpa using hpost
          have hsplit : x :: post = [] ++ x :: post := rfl
          simpa using h.ahead_behind hsplit pre e he hs
      | cons y post' =>
          obtain ⟨rfl, rfl⟩ : x = y ∧ post = post' ++ fresh := by simpa using hpost
          rcases h'.ahead pre x post' hfresh' e he hs with hafter | hspans | ⟨hmet, hopen⟩
          · rw [h.finished_eq, ← List.append_assoc] at hafter
            exact .inl hafter
          · exact .inr (.inl hspans)
          · -- what is open between the searches was open before them
            rw [h.finished_eq, List.mem_append, not_or] at hopen
            exact .inr (.inr ⟨((h.mem_met _).1 hmet).resolve_right hopen.1, hopen.2⟩)

/-- A block is searched by searching the targets of the edges out of it and finishing it. -/
lemma finish {b : g.Node} {s s' : Search g} {fresh : List g.Node} (hb : b ∉ s.met)
    (h : Explored (fun x => ∃ e ∈ g.outgoing b, e.target = x) { s with met := b :: s.met } s' fresh) :
    Explored (· = b) s { s' with finished := b :: s'.finished } (b :: fresh) := by
  have hroot : ∀ x, (∃ e ∈ g.outgoing b, e.target = x) →
      ∃ e ∈ g.edges, e.source = b ∧ e.target = x := by
    rintro x ⟨e, he, rfl⟩
    obtain ⟨he, hsource⟩ := mem_outgoing.1 he
    exact ⟨e, he, hsource, rfl⟩
  have hout : ∀ e ∈ g.edges, e.source = b → e.target ∈ b :: s.met ∨ e.target ∈ fresh :=
    fun e he hs => (h.mem_met _).1 (h.covered _ ⟨e, mem_outgoing.2 ⟨he, hs⟩, rfl⟩)
  -- each block below is reached by an edge from the block or from one that is finished later
  have hbehind : ∀ pre x post, fresh = pre ++ x :: post →
      ∃ e ∈ g.edges, e.target = x ∧ e.source ∈ b :: pre := by
    intro pre x post hsplit
    rcases h.behind pre x post hsplit with hr | ⟨e, he, ht, hs⟩
    · obtain ⟨e, he, hsource, ht⟩ := hroot x hr
      exact ⟨e, he, ht, hsource ▸ List.mem_cons_self⟩
    · exact ⟨e, he, ht, List.mem_cons_of_mem _ hs⟩
  exact {
    finished_eq := congrArg (b :: ·) h.finished_eq
    mem_met := fun x => by rw [h.mem_met, List.mem_cons, List.mem_cons]; tauto
    nodup := List.nodup_cons.2 ⟨fun hf => h.unmet b hf List.mem_cons_self, h.nodup⟩
    unmet := by
      intro x hx
      rcases List.mem_cons.1 hx with rfl | hx
      · exact hb
      · exact fun hs => h.unmet x hx (List.mem_cons_of_mem _ hs)
    covered := fun x hx => (h.mem_met x).2 (.inl (hx ▸ List.mem_cons_self))
    led := by
      intro x hx
      refine ⟨b, rfl, ?_⟩
      rcases List.mem_cons.1 hx with rfl | hx
      · exact .refl _
      · obtain ⟨r, hr, hl⟩ := h.led x hx
        obtain ⟨e, he, hsource, rfl⟩ := hroot r hr
        exact ((Leads.refl _).edge he hsource).trans hl
    closed := by
      intro e he hs
      rcases List.mem_cons.1 hs with hs | hs
      · exact (h.mem_met _).2 (hout e he hs)
      · exact h.closed e he hs
    behind := by
      intro pre x post hsplit
      rcases List.cons_eq_append_iff.1 hsplit with ⟨rfl, heq⟩ | ⟨pre, rfl, hfresh⟩
      · exact .inl (List.cons.inj heq).1
      · exact .inr (hbehind pre x post hfresh)
    ahead := by
      intro pre x post hsplit e he hs
      rcases List.cons_eq_append_iff.1 hsplit with ⟨rfl, heq⟩ | ⟨pre, rfl, hfresh⟩
      · obtain ⟨rfl, rfl⟩ := List.cons.inj heq
        rcases hout e he hs with hmet | hfresh
        · rcases List.mem_cons.1 hmet with heq | hmet
          · exact .inr (.inl ⟨[], [], by simp [heq], by simp [Spans]⟩)
          · by_cases hfin : e.target ∈ s.finished
            · exact .inl (List.mem_append_right _ hfin)
            · exact .inr (.inr ⟨hmet, hfin⟩)
        · exact .inl (List.mem_append_left _ hfresh)
      · rcases h.ahead_behind hfresh [b] e he hs with hafter | hspan | ⟨hmet, hopen⟩
        · exact .inl hafter
        · exact .inr (.inl hspan)
        · rcases List.mem_cons.1 hmet with heq | hmet
          · -- the block spans all that is finished before it
            refine .inr (.inl ⟨[], pre ++ [x], by simp [heq], ?_⟩)
            rintro before y rest hmid
            have hsplit' : fresh = before ++ y :: (rest ++ post) := by
              rw [hfresh, List.append_cons, hmid, List.append_assoc, List.cons_append]
            exact heq ▸ hbehind before y (rest ++ post) hsplit'
          · exact .inr (.inr ⟨hmet, hopen⟩) }

end Explored

/-- Searching the targets of some edges out of the block opened last. -/
lemma foldl_search_explored (bound : Nat) {b : g.Node} (path : List g.Node)
    (hsearch : ∀ e ∈ g.outgoing b, ∀ s : Search g, Open (b :: path) s →
      ∃ fresh, Explored (· = e.target) s (search g bound e.target s) fresh)
    (edges : List g.Arc) (hedges : ∀ e ∈ edges, e ∈ g.outgoing b) (s : Search g)
    (ho : Open (b :: path) s) :
    ∃ fresh, Explored (fun x => ∃ e ∈ edges, e.target = x) s
      (edges.foldl (fun s e => search g bound e.target s) s) fresh := by
  induction edges generalizing s with
  | nil => exact ⟨[], .nothing (by simp)⟩
  | cons e edges ih =>
      obtain ⟨fresh, h⟩ := hsearch e (hedges e (by simp)) s ho
      obtain ⟨fresh', h'⟩ := ih (fun e' he' => hedges e' (by simp [he'])) _ (h.still_open ho)
      refine ⟨fresh' ++ fresh, ?_⟩
      have := h.trans h'
      simpa [eq_comm] using this

/-- Nothing is searched from a block that has been met. -/
lemma search_of_met (bound : Nat) {b : g.Node} {s : Search g} (hb : b ∈ s.met) :
    search g bound b s = s := by
  cases bound with
  | zero => rfl
  | succ bound => rw [search, if_pos hb]

/-- **The search**: with enough bound for the blocks that are not open, everything the block leads
to is met, and what the search finishes is in postorder. -/
lemma search_explored (bound : Nat) (b : g.Node) (path : List g.Node) (s : Search g)
    (ho : Open path s) (hbound : g.size ≤ bound + path.length) :
    ∃ fresh, Explored (· = b) s (search g bound b s) fresh := by
  induction bound generalizing b path s with
  | zero =>
      -- every block is open, so nothing is left to search
      have hall := ho.mem_of_size_le (by omega) b
      exact ⟨[], .nothing fun x hx => hx ▸ ho.met b hall⟩
  | succ bound ih =>
      by_cases hb : b ∈ s.met
      · rw [search_of_met _ hb]
        exact ⟨[], .nothing fun x hx => hx ▸ hb⟩
      obtain ⟨fresh, h⟩ := foldl_search_explored bound path
        (fun e _ t ht => ih e.target (b :: path) t ht (by simp only [List.length_cons]; omega))
        (g.outgoing b) (fun _ he => he) _ (ho.push hb)
      rw [search, if_neg hb]
      exact ⟨b :: fresh, h.finish hb⟩

/-! ### The listing -/

/-- The search from the entry, of which the reverse postorder is the outcome. -/
lemma reversePostorder_explored (g : FlowGraph) :
    Explored (· = g.entry) ⟨[], []⟩ (search g g.size g.entry ⟨[], []⟩) g.reversePostorder := by
  obtain ⟨fresh, h⟩ := search_explored g.size g.entry [] ⟨[], []⟩
    ⟨List.nodup_nil, by simp, by simp⟩ (by simp)
  have : g.reversePostorder = fresh := by simpa [reversePostorder] using h.finished_eq
  exact this ▸ h

theorem nodup_reversePostorder (g : FlowGraph) : g.reversePostorder.Nodup :=
  (reversePostorder_explored g).nodup

/-- **The blocks listed are those that the entry leads to.** -/
theorem mem_reversePostorder {b : g.Node} : b ∈ g.reversePostorder ↔ g.Reachable b := by
  have h := reversePostorder_explored g
  have hmet : ∀ x, x ∈ (search g g.size g.entry ⟨[], []⟩).met ↔ x ∈ g.reversePostorder := by
    simpa using h.mem_met
  constructor
  · intro hb
    obtain ⟨r, rfl, hl⟩ := h.led b hb
    exact Reachable.entry.leads hl
  · intro hb
    induction hb with
    | entry => exact (hmet _).1 (h.covered _ rfl)
    | step _ he ih => exact (hmet _).1 (h.closed _ he ih)

/-- A listed block is the entry, or an edge leads to it from a block listed before it. -/
theorem eq_entry_or_predecessor {pre post : List g.Node} {b : g.Node}
    (h : g.reversePostorder = pre ++ b :: post) :
    b = g.entry ∨ ∃ e ∈ g.edges, e.target = b ∧ e.source ∈ pre :=
  (reversePostorder_explored g).behind pre b post h

lemma reachable_of_before {pre post : List g.Node} {b c : g.Node}
    (hsplit : g.reversePostorder = pre ++ b :: post) (hc : c ∈ pre) : g.Reachable c :=
  mem_reversePostorder.1 (hsplit ▸ List.mem_append_left _ hc)

/-- The list up to a block that is listed before another one. -/
lemma split_before {pre post : List g.Node} {b c : g.Node}
    (hsplit : g.reversePostorder = pre ++ b :: post) (hc : c ∈ pre) :
    ∃ pre' mid, pre = pre' ++ c :: mid ∧ g.reversePostorder = pre' ++ c :: (mid ++ b :: post) := by
  obtain ⟨pre', mid, rfl⟩ := List.append_of_mem hc
  exact ⟨pre', mid, rfl, by simpa using hsplit⟩

/-- What is listed up to an earlier block is listed before a block. -/
lemma mem_before {pre pre' mid : List g.Node} {c d : g.Node} (heq : pre = pre' ++ c :: mid)
    (hd : d ∈ pre' ++ [c]) : d ∈ pre := by
  rw [heq]
  simp only [List.mem_append, List.mem_cons] at hd ⊢
  tauto

/-- Induction along the list: what holds of the blocks that are listed before a block, with what is
listed before them, holds of the block. -/
theorem induction_before {motive : List g.Node → g.Node → Prop}
    (step : ∀ pre b post, g.reversePostorder = pre ++ b :: post →
      (∀ pre' c mid, pre = pre' ++ c :: mid → motive pre' c) → motive pre b)
    {pre post : List g.Node} {b : g.Node} (hsplit : g.reversePostorder = pre ++ b :: post) :
    motive pre b := by
  induction hn : pre.length using Nat.strong_induction_on generalizing pre b post with
  | _ n ih =>
    refine step pre b post hsplit fun pre' c mid heq => ?_
    have hsplit' : g.reversePostorder = pre' ++ c :: (mid ++ b :: post) := by simp [hsplit, heq]
    exact ih pre'.length (by simp [← hn, heq]) hsplit' rfl

/-- Induction over the blocks that the entry leads to, in the order in which they are listed. -/
theorem Reachable.induction_listed {motive : g.Node → Prop} {b : g.Node} (hb : g.Reachable b)
    (step : ∀ pre b post, g.reversePostorder = pre ++ b :: post → (∀ c ∈ pre, motive c) → motive b) :
    motive b := by
  obtain ⟨pre, post, hsplit⟩ := List.append_of_mem (mem_reversePostorder.2 hb)
  refine induction_before (motive := fun _ => motive) (fun pre b post hsplit ih => ?_) hsplit
  refine step pre b post hsplit fun c hc => ?_
  obtain ⟨pre', mid, heq⟩ := List.append_of_mem hc
  exact ih pre' c mid heq

/-- An edge leads forwards in the list, or its target spans everything that is listed from there to
its source. -/
theorem target_after_or_spans {pre post : List g.Node} {b : g.Node}
    (h : g.reversePostorder = pre ++ b :: post) {e : g.Arc} (he : e ∈ g.edges)
    (hs : e.source = b) : e.target ∈ post ∨
      ∃ before mid, pre ++ [b] = before ++ e.target :: mid ∧ g.Spans e.target mid := by
  simpa using (reversePostorder_explored g).ahead pre b post h e he hs

/-- The last block of a list is in every end of it. -/
lemma mem_of_concat_eq {pre before mid : List g.Node} {b c : g.Node}
    (h : pre ++ [b] = before ++ c :: mid) : b ∈ c :: mid := by
  have hends := congrArg List.getLast? h
  rw [List.getLast?_concat, List.getLast?_append_of_ne_nil _ (List.cons_ne_nil _ _)] at hends
  exact List.mem_of_getLast? hends.symm

/-- Where a retreating edge leads, a loop begins that reaches to its source. -/
lemma spans_of_retreating {pre post : List g.Node} {b : g.Node} {e : g.Arc}
    (hsplit : g.reversePostorder = pre ++ b :: post) (he : e ∈ g.edges)
    (ht : e.target = b) (hreach : g.Reachable e.source) (hs : e.source ∉ pre) :
    ∃ mid post', post = mid ++ post' ∧ g.Spans b mid ∧ e.source ∈ b :: mid := by
  subst ht
  obtain ⟨before, after, hsource⟩ := List.append_of_mem (mem_reversePostorder.2 hreach)
  have hnodup := hsplit ▸ nodup_reversePostorder g
  have hb : e.target ∉ pre ∧ e.target ∉ post := by
    rw [List.nodup_append] at hnodup
    obtain ⟨-, hpost, hdisjoint⟩ := hnodup
    exact ⟨fun h => hdisjoint _ h _ List.mem_cons_self rfl, (List.nodup_cons.1 hpost).1⟩
  rcases target_after_or_spans hsource he rfl with hafter | ⟨outside, mid, hmid, hspans⟩
  · obtain ⟨between, post', rfl⟩ := List.append_of_mem hafter
    have heq : pre ++ e.target :: post
        = (before ++ e.source :: between) ++ e.target :: post' := by
      rw [← hsplit, hsource]
      simp
    obtain ⟨rfl, -⟩ := (List.append_cons_inj_of_notMem hb.1 hb.2).1 heq
    exact absurd (by simp) hs
  · have heq : pre ++ e.target :: post = outside ++ e.target :: (mid ++ after) := by
      rw [← hsplit, hsource, ← List.singleton_append, ← List.append_assoc, hmid]
      simp
    obtain ⟨-, -, rfl⟩ := (List.append_cons_inj_of_notMem hb.1 hb.2).1 heq
    exact ⟨mid, after, rfl, hspans, mem_of_concat_eq hmid⟩

/-- An edge leads forwards in the list, unless it closes a cycle. -/
theorem target_after_or_leads {pre post : List g.Node} {b : g.Node}
    (h : g.reversePostorder = pre ++ b :: post) {e : g.Arc} (he : e ∈ g.edges)
    (hs : e.source = b) : e.target ∈ post ∨ g.Leads e.target b := by
  refine (target_after_or_spans h he hs).imp_right ?_
  rintro ⟨before, mid, heq, hspans⟩
  exact hspans.leads (mem_of_concat_eq heq)

end FlowGraph

end Nullness
