import Mathlib.Tactic
import Nullness.Proofs.Ascent
import Nullness.Proofs.CoveredFrames
import Nullness.Proofs.HandlerLoads
import Nullness.Proofs.MergeNumbers

/-!
# Tables that a pass leaves

A pass visits each block under a table of which one part is new: what it has found at the blocks before
in its order. If all instructions can be followed, the first pass brings a frame to every point, for
each block but the entry has a predecessor that is visited earlier. Going back along such predecessors,
each label that a table mentions is found to have arisen in a block visited so far, and each available
load to have been named there.

* `FlowAnalysis.pass_midway`: the table under which a pass visits a block;
* `ValueNumbering.Follows.full`: **a pass leaves a frame at every point**;
* `ValueNumbering.Follows.arisen`: **a label arises before it is mentioned**;
* `ValueNumbering.Follows.named`: a load is named before it is available.
-/

namespace Nullness

/-! ### The table under which a pass visits a block -/

namespace FlowAnalysis

variable {g : FlowGraph} {Fact Decision : Type} {A : FlowAnalysis g Fact Decision}
  {t t' m : FactTable g Fact Decision}

/-- A table between those before and after a pass: some blocks have been visited. -/
structure Midway (t t' m : FactTable g Fact Decision) (visited : List g.Node) : Prop where
  new : ∀ c ∈ visited, m.get c = t'.get c
  old : ∀ c ∉ visited, m.get c = t.get c

variable [DecidableEq Fact]

/-- Each visit is made under a table that is new at the blocks visited before. -/
lemma visitAll_midway {Q : FactTable g Fact Decision → Prop}
    (hvisit : ∀ t b start, Q t → A.startOf t b = .ok start → Q (t.set b (A.through b start) b.isLt))
    {blocks pre post : List g.Node} {b : g.Node} {changed changed' : Bool} (hQ : Q t)
    (hnodup : blocks.Nodup) (h : A.visitAll blocks t changed = .ok (t', changed'))
    (hsplit : blocks = pre ++ b :: post) :
    ∃ m, Midway t t' m pre ∧ Q m ∧ A.startOf m b = .ok (t'.get b).start := by
  induction pre generalizing t blocks changed with
  | nil =>
      subst hsplit
      rw [List.nil_append, visitAll, bind_eq_ok_iff] at h
      obtain ⟨s, hs, hrest⟩ := h
      obtain ⟨start, hstart, rfl⟩ := visit_eq_ok_iff.1 hs
      refine ⟨t, ⟨by simp, fun _ _ => rfl⟩, hQ, ?_⟩
      rw [visitAll_get_of_notMem hrest (List.nodup_cons.1 hnodup).1, get_set_self, through_start]
      exact hstart
  | cons c pre ih =>
      subst hsplit
      rw [List.cons_append, visitAll, bind_eq_ok_iff] at h
      obtain ⟨s, hs, hrest⟩ := h
      obtain ⟨start, hstart, rfl⟩ := visit_eq_ok_iff.1 hs
      obtain ⟨hc, hnodup⟩ := List.nodup_cons.1 hnodup
      obtain ⟨m, hmid, hm, hb⟩ := ih (hvisit t c start hQ hstart) hnodup hrest rfl
      have hcpre : c ∉ pre := fun hmem => hc (List.mem_append_left _ hmem)
      refine ⟨m, ⟨fun d hd => ?_, fun d hd => ?_⟩, hm, hb⟩
      · rcases List.mem_cons.1 hd with rfl | hd
        · rw [hmid.old d hcpre, visitAll_get_of_notMem hrest hc]
        · exact hmid.new d hd
      · rw [List.mem_cons, not_or] at hd
        rw [hmid.old d hd.2, get_set_of_ne t _ hd.1]

/-- **A pass visits a block under a table that is new at the blocks visited before.** -/
theorem pass_midway {P : g.Node → Nat → Fact → Prop} (hP : A.PointInvariant P)
    (htop : A.isTop A.top = true) {n : Nat} {changed : Bool} {pre post : List g.Node} {b : g.Node}
    (h : A.After n t) (hpass : A.pass t = .ok (t', changed))
    (hsplit : g.reversePostorder = pre ++ b :: post) :
    ∃ m, Midway t t' m pre ∧ (A.Consistent m ∧ A.Live P m) ∧ A.startOf m b = .ok (t'.get b).start :=
  visitAll_midway (visit_sound hP htop) (h.sound hP htop) (FlowGraph.nodup_reversePostorder g) hpass
    hsplit

omit [DecidableEq Fact] in
/-- What an edge brings depends on its source alone. -/
lemma brings_congr {e : g.Arc} {f : Fact} (h : t.get e.source = t'.get e.source) :
    A.Brings t e f ↔ A.Brings t' e f := by
  constructor
  · rintro (⟨hkind, hcarried⟩ | ⟨hkind, hx, htop, henter, hentered⟩)
    · exact .normal hkind (h ▸ hcarried)
    · exact .thrown hkind (h ▸ hx) htop henter hentered
  · rintro (⟨hkind, hcarried⟩ | ⟨hkind, hx, htop, henter, hentered⟩)
    · exact .normal hkind (h ▸ hcarried)
    · exact .thrown hkind (h ▸ hx) htop henter hentered

end FlowAnalysis

/-! ### Instructions that can be followed -/

namespace FlowGraph

/-- Every instruction to which a path leads finds what it needs. -/
def Followed [DescriptorReader] (g : FlowGraph) (numLocals : Nat) : Prop :=
  ∀ n b index depth i, g.Arrives numLocals n b index depth → (g.instructions b)[index]? = some i →
    ∃ effect, i.op.Fits numLocals depth effect

/-- A point at which control may leave a block along an edge, when it runs through all of the block.
-/
inductive ExitPoint (g : FlowGraph) (e : g.Arc) : Nat → Prop
  | done : e.kind.isException = false → ExitPoint g e (g.instructions e.source).length
  | raised {index : Nat} {i : Instruction} : e.kind.isException = true →
      (g.instructions e.source)[index]? = some i → i.op.mayThrow = true → ExitPoint g e index
  | calm : e.kind.isException = true →
      (∀ (index : Nat) (i : Instruction), (g.instructions e.source)[index]? = some i →
        i.op.mayThrow = false) →
      ExitPoint g e 0

variable {g : FlowGraph} {e : g.Arc}

lemma ExitPoint.le {index : Nat} (h : g.ExitPoint e index) :
    index ≤ (g.instructions e.source).length := by
  cases h with
  | done => exact le_rfl
  | raised _ hi => exact (List.getElem?_eq_some_iff.1 hi).1.le
  | calm => exact Nat.zero_le _

lemma exists_exitPoint (e : g.Arc) : ∃ index, g.ExitPoint e index := by
  cases hkind : e.kind.isException with
  | false => exact ⟨_, .done hkind⟩
  | true =>
      by_cases hcalm : ∀ (index : Nat) (i : Instruction), (g.instructions e.source)[index]? = some i →
          i.op.mayThrow = false
      · exact ⟨0, .calm hkind hcalm⟩
      · push Not at hcalm
        obtain ⟨index, i, hi, hthrow⟩ := hcalm
        exact ⟨index, .raised hkind hi (by simpa using hthrow)⟩

end FlowGraph

namespace ValueNumbering

open FlowGraph

variable [DescriptorReader] {g : FlowGraph} {numLocals maxStack : Nat}
  {t t' m : FactTable g OriginFact Unit} {b : g.Node} {e : g.Arc} {index : Nat} {a : ValueOrigin}
  {f u v : ValueFrame ValueOrigin} {pre post : List g.Node}

/-! ### Frames of a table -/

/-- The frame at a point, by what a table knows of the block. -/
def FrameAt (g : FlowGraph) (numLocals maxStack : Nat) (t : FactTable g OriginFact Unit) (b : g.Node)
    (index : Nat) (f : ValueFrame ValueOrigin) : Prop :=
  (analysis g numLocals maxStack).within b (t.get b).start index = some f

lemma FrameAt.unique {f' : ValueFrame ValueOrigin} (h : FrameAt g numLocals maxStack t b index f)
    (h' : FrameAt g numLocals maxStack t b index f') : f = f' :=
  Option.some.inj (h.symm.trans h')

lemma frameAt_zero : FrameAt g numLocals maxStack t b 0 f ↔ (t.get b).start = some f := by
  rw [FrameAt, FlowAnalysis.within_zero]

/-- A table has a frame at every point of a block. -/
def Full (g : FlowGraph) (numLocals maxStack : Nat) (t : FactTable g OriginFact Unit) (b : g.Node) :
    Prop :=
  ∀ index ≤ (g.instructions b).length, ∃ f, FrameAt g numLocals maxStack t b index f

/-- A label is mentioned at a point of a block. -/
def Mentions (g : FlowGraph) (numLocals maxStack : Nat) (t : FactTable g OriginFact Unit)
    (b : g.Node) (a : ValueOrigin) : Prop :=
  ∃ index ≤ (g.instructions b).length, ∃ f, FrameAt g numLocals maxStack t b index f ∧ a ∈ f.labels

/-- The frame with which the target of an edge is entered. -/
def entered (e : g.Arc) (f : ValueFrame ValueOrigin) : ValueFrame ValueOrigin :=
  if e.kind.isException then handlerFrame e.target f else f

omit [DescriptorReader] in
lemma labels_entered (h : a ∈ (entered e f).labels) : a ∈ f.labels ∨ a = .handler e.target := by
  unfold entered at h
  split at h
  · exact labels_handlerFrame h
  · exact .inl h

omit [DescriptorReader] in
@[simp] lemma available?_entered (l : Load ValueOrigin) :
    (entered e f).available? l = f.available? l := by
  unfold entered
  split <;> rfl

/-- An edge brings the frames of the points at which control may leave its source. -/
lemma brings_iff (hcons : (analysis g numLocals maxStack).Consistent t)
    (hfull : Full g numLocals maxStack t e.source) {x : OriginFact} :
    (analysis g numLocals maxStack).Brings t e x ↔ ∃ index f, g.ExitPoint e index ∧
      FrameAt g numLocals maxStack t e.source index f ∧ x = some (entered e f) := by
  have hthrown : ∀ f, some f ∈ (t.get e.source).thrown ↔ _ :=
    fun f => mem_thrown (s := ⟨t, 0⟩) (f := f) hcons
  constructor
  · rintro (⟨hkind, hcarried⟩ | ⟨hkind, hx, htop, henter, -⟩)
    · rw [carried?_eq hcons, Option.map_eq_some_iff] at hcarried
      obtain ⟨f, hf, rfl⟩ := hcarried
      exact ⟨_, f, .done hkind, (hcons.result e.source).symm.trans hf, by simp [entered, hkind]⟩
    · obtain ⟨f, rfl⟩ := isTop_eq_false_iff.1 htop
      have hentered : x = some (entered e f) := by
        rw [entered, if_pos hkind]
        exact (Except.ok.inj henter).symm
      rcases (hthrown f).1 hx with ⟨index, i, hi, hthrow, hf⟩ | ⟨hcalm, hf⟩
      · exact ⟨index, f, .raised hkind hi hthrow, hf, hentered⟩
      · refine ⟨0, f, .calm hkind fun index i hi => ?_, hf, hentered⟩
        by_contra hthrow
        obtain ⟨f', hf'⟩ := hfull index (List.getElem?_eq_some_iff.1 hi).1.le
        exact absurd (hf'.symm.trans (hcalm index i hi (by simpa using hthrow))) (by simp)
  · rintro ⟨index, f, hexit, hf, rfl⟩
    cases hexit with
    | done hkind =>
        rw [entered, if_neg (by rw [hkind]; decide)]
        exact brings_result hcons hkind hf
    | raised hkind hi hthrow =>
        rw [entered, if_pos hkind]
        exact .thrown hkind ((hthrown f).2 (.inl ⟨_, _, hi, hthrow, hf⟩)) rfl rfl rfl
    | calm hkind hcalm =>
        rw [entered, if_pos hkind]
        refine .thrown hkind ((hthrown f).2 (.inr ⟨fun index i hi hthrow => ?_, hf⟩)) rfl rfl rfl
        rw [hcalm index i hi] at hthrow
        cases hthrow

/-- A table that knows every point of the source of an edge brings something along it. -/
lemma exists_brings (hcons : (analysis g numLocals maxStack).Consistent t)
    (hfull : Full g numLocals maxStack t e.source) :
    ∃ index ≤ (g.instructions e.source).length, ∃ f, FrameAt g numLocals maxStack t e.source index f ∧
      (analysis g numLocals maxStack).Brings t e (some (entered e f)) := by
  obtain ⟨index, hexit⟩ := exists_exitPoint e
  obtain ⟨f, hf⟩ := hfull index hexit.le
  exact ⟨index, hexit.le, f, hf, (brings_iff hcons hfull).2 ⟨index, f, hexit, hf, rfl⟩⟩

/-- The frame on entry to the method enters the entry. -/
lemma entryFrame_mem_inflows :
    some (entryFrame numLocals) ∈ (analysis g numLocals maxStack).inflows m g.entry := by
  refine FlowAnalysis.mem_inflows.2 (.inl ⟨?_, rfl⟩)
  rw [FlowAnalysis.initial, if_pos rfl]
  rfl

/-- Where a frame enters a block, there is one at the start. -/
lemma exists_start_of_inflow (hcons : (analysis g numLocals maxStack).Consistent m)
    (hlive : (analysis g numLocals maxStack).Live (WellShaped numLocals) m) {start x : OriginFact}
    (hstart : (analysis g numLocals maxStack).startOf m b = .ok start)
    (hx : x ∈ (analysis g numLocals maxStack).inflows m b) : ∃ v, start = some v := by
  have hbounded := pointInvariant_wellShaped.start_of joinBound_joined rfl hcons hlive hstart
  rcases FlowAnalysis.mem_inflows.1 hx with ⟨hinitial, htop⟩ | ⟨e, he, ht, hbrings⟩
  · obtain ⟨u, rfl⟩ := isTop_eq_false_iff.1 htop
    obtain ⟨_, v, -, hv, -⟩ := hbounded.stay (some u) (hinitial ▸ ⟨u, u, rfl, rfl, .refl _ _⟩)
    exact ⟨v, hv⟩
  · obtain ⟨_, v, -, hv, -⟩ := hbounded.arrive x ⟨e, he, ht, hbrings⟩
    exact ⟨v, hv⟩

/-- From its start on a block can be followed. -/
lemma full_of_start (hfollowed : g.Followed numLocals)
    (hlive : (analysis g numLocals maxStack).Live (Arrived numLocals) t)
    (hstart : (t.get b).start = some v) : Full g numLocals maxStack t b := by
  intro index hindex
  induction index with
  | zero => exact ⟨v, frameAt_zero.2 hstart⟩
  | succ index ih =>
      obtain ⟨f, hf⟩ := ih (by omega)
      have hi := List.getElem?_eq_getElem (show index < (g.instructions b).length by omega)
      obtain ⟨_, hf', hnum, n, harrives⟩ := hlive b index (by omega) (isTop_eq_false_iff.2 ⟨f, hf⟩)
      obtain rfl := Option.some.inj (hf.symm.trans hf')
      obtain ⟨effect, hfits⟩ := hfollowed n b index _ _ harrives hi
      obtain ⟨f', hstep⟩ : ∃ f', f.step (.produced b index) (g.instructions b)[index].op = .ok f' :=
        ValueFrame.step_succeeds (by rw [hnum]; exact hfits)
      exact ⟨f', within_step hi hf hstep⟩

/-! ### Passes -/

/-- One table follows another in an iteration. -/
def Follows (g : FlowGraph) (numLocals maxStack : Nat) (t t' : FactTable g OriginFact Unit) : Prop :=
  ∃ n, (analysis g numLocals maxStack).After n t ∧
    (analysis g numLocals maxStack).pass t = .ok (t', true)

/-- The visit to a block in a pass. -/
structure Visit (g : FlowGraph) (numLocals maxStack : Nat) (t t' m : FactTable g OriginFact Unit)
    (visited : List g.Node) (b : g.Node) : Prop where
  midway : FlowAnalysis.Midway t t' m visited
  consistent : (analysis g numLocals maxStack).Consistent m
  live : (analysis g numLocals maxStack).Live (WellShaped numLocals) m
  start : (analysis g numLocals maxStack).startOf m b = .ok (t'.get b).start

namespace Visit

variable (h : Visit g numLocals maxStack t t' m pre b)

include h

lemma brings_new (hs : e.source ∈ pre) {x : OriginFact} :
    (analysis g numLocals maxStack).Brings m e x ↔ (analysis g numLocals maxStack).Brings t' e x :=
  FlowAnalysis.brings_congr (h.midway.new _ hs)

lemma brings_old (hs : e.source ∉ pre) {x : OriginFact} :
    (analysis g numLocals maxStack).Brings m e x ↔ (analysis g numLocals maxStack).Brings t e x :=
  FlowAnalysis.brings_congr (h.midway.old _ hs)

omit h in
/-- What an edge brings from a block that is visited earlier. -/
lemma inflow_new {x : OriginFact} (h : Visit g numLocals maxStack t t' m pre e.target)
    (he : e ∈ g.edges) (hs : e.source ∈ pre)
    (hx : (analysis g numLocals maxStack).Brings t' e x) :
    x ∈ (analysis g numLocals maxStack).inflows m e.target :=
  FlowAnalysis.mem_inflows.2 (.inr ⟨e, he, rfl, (h.brings_new hs).2 hx⟩)

omit h in
/-- What a retreating edge brings. -/
lemma inflow_old {x : OriginFact} (h : Visit g numLocals maxStack t t' m pre e.target)
    (he : e ∈ g.edges) (hs : e.source ∉ pre)
    (hx : (analysis g numLocals maxStack).Brings t e x) :
    x ∈ (analysis g numLocals maxStack).inflows m e.target :=
  FlowAnalysis.mem_inflows.2 (.inr ⟨e, he, rfl, (h.brings_old hs).2 hx⟩)

/-- What the start of the block keeps of each frame that enters it. -/
lemma joined (hv : (t'.get b).start = some v)
    (hu : some u ∈ (analysis g numLocals maxStack).inflows m b) : Joined b u v := by
  obtain ⟨_, ⟨⟩, hjoined⟩ := joined_of_inflow h.consistent h.live (hv ▸ h.start) hu
  exact hjoined

/-- A frame enters the block. -/
lemma exists_inflow (hv : (t'.get b).start = some v) :
    ∃ u, some u ∈ (analysis g numLocals maxStack).inflows m b := by
  obtain ⟨x, hx⟩ := FlowAnalysis.exists_inflow entered_not_top (hv ▸ h.start) rfl
  obtain ⟨u, rfl, -⟩ := joined_of_inflow h.consistent h.live (hv ▸ h.start) hx
  exact ⟨u, hx⟩

end Visit

namespace Follows

variable (h : Follows g numLocals maxStack t t')

include h

lemma after : ∃ n, (analysis g numLocals maxStack).After (n + 1) t' := by
  obtain ⟨n, hafter, hpass⟩ := h
  exact ⟨n, hafter.pass hpass⟩

lemma consistent : (analysis g numLocals maxStack).Consistent t' := by
  obtain ⟨n, hafter⟩ := h.after
  exact (hafter.sound pointInvariant_arrived rfl).1

lemma live : (analysis g numLocals maxStack).Live (Arrived numLocals) t' := by
  obtain ⟨n, hafter⟩ := h.after
  exact (hafter.sound pointInvariant_arrived rfl).2

lemma visit (hsplit : g.reversePostorder = pre ++ b :: post) :
    ∃ m, Visit g numLocals maxStack t t' m pre b := by
  obtain ⟨n, hafter, hpass⟩ := h
  obtain ⟨m, hmid, ⟨hcons, hlive⟩, hstart⟩ :=
    FlowAnalysis.pass_midway pointInvariant_wellShaped rfl hafter hpass hsplit
  exact ⟨m, hmid, hcons, hlive, hstart⟩

/-- A path leads where a table has a frame. -/
lemma reachable (hindex : index ≤ (g.instructions b).length)
    (hf : FrameAt g numLocals maxStack t' b index f) : g.Reachable b := by
  obtain ⟨_, -, -, n, harrives⟩ := h.live b index hindex (isTop_eq_false_iff.2 ⟨f, hf⟩)
  exact harrives.reachable

/-- **A pass leaves a frame at every point**, if all instructions can be followed. -/
theorem full (hfollowed : g.Followed numLocals) (hb : g.Reachable b) :
    Full g numLocals maxStack t' b := by
  refine hb.induction_listed fun pre b post hsplit ih => ?_
  obtain ⟨m, hvisit⟩ := h.visit hsplit
  have hinflow : ∃ x, x ∈ (analysis g numLocals maxStack).inflows m b := by
    rcases eq_entry_or_predecessor hsplit with rfl | ⟨e, he, rfl, hs⟩
    · exact ⟨_, entryFrame_mem_inflows⟩
    · obtain ⟨_, -, f, -, hbrings⟩ := exists_brings h.consistent (ih e.source hs)
      exact ⟨_, hvisit.inflow_new he hs hbrings⟩
  obtain ⟨x, hx⟩ := hinflow
  obtain ⟨v, hv⟩ := exists_start_of_inflow hvisit.consistent hvisit.live hvisit.start hx
  exact full_of_start hfollowed h.live hv

end Follows

/-! ### Back to where something began -/

omit [DescriptorReader] in
/-- What holds at a point has begun in the block, or it held at a point of every predecessor that is
listed earlier. So it has begun in a block listed up to this one. -/
lemma begun_before {R : g.Node → Nat → Prop} {Begun : g.Node → Prop}
    (hstep : ∀ b, ∀ index < (g.instructions b).length, R b (index + 1) → R b index ∨ Begun b)
    (hentry : R g.entry 0 → Begun g.entry)
    (hedge : ∀ pre e post, g.reversePostorder = pre ++ e.target :: post → e ∈ g.edges →
      e.source ∈ pre → R e.target 0 →
      Begun e.target ∨ ∃ index ≤ (g.instructions e.source).length, R e.source index)
    (hsplit : g.reversePostorder = pre ++ b :: post) (hindex : index ≤ (g.instructions b).length)
    (h : R b index) : ∃ c ∈ pre ++ [b], Begun c := by
  have hwithin : ∀ b, ∀ index ≤ (g.instructions b).length, R b index → R b 0 ∨ Begun b := by
    intro b index
    induction index with
    | zero => exact fun _ h => .inl h
    | succ index ih => exact fun hindex h => (hstep b index hindex h).elim (ih (by omega)) .inr
  refine induction_before (motive := fun pre b => ∀ index ≤ (g.instructions b).length, R b index →
    ∃ c ∈ pre ++ [b], Begun c) (fun pre b post hsplit ih index hindex h => ?_) hsplit index hindex h
  rcases hwithin b index hindex h with hstart | hbegun
  · rcases eq_entry_or_predecessor hsplit with rfl | ⟨e, he, rfl, hs⟩
    · exact ⟨g.entry, by simp, hentry hstart⟩
    rcases hedge pre e post hsplit he hs hstart with hbegun | ⟨index', hindex', h'⟩
    · exact ⟨e.target, by simp, hbegun⟩
    · obtain ⟨pre', mid, heq⟩ := List.append_of_mem hs
      obtain ⟨c, hc, hbegun⟩ := ih pre' e.source mid heq index' hindex' h'
      exact ⟨c, List.mem_append_left _ (mem_before heq hc), hbegun⟩
  · exact ⟨b, by simp, hbegun⟩

/-- The event of a label has taken place in a block, as far as a table knows. -/
inductive Arises (g : FlowGraph) (numLocals maxStack : Nat) (t : FactTable g OriginFact Unit)
    (b : g.Node) : ValueOrigin → Prop
  | entry (slot : Nat) : Arises g numLocals maxStack t b (.entry slot)
  | handler (block : Nat) : Arises g numLocals maxStack t b (.handler block)
  | met {v : ValueFrame ValueOrigin} {slot : Nat} : (t.get b).start = some v →
      v.slots[slot]? = some (.merge b slot) → Arises g numLocals maxStack t b (.merge b slot)
  | made {index : Nat} {i : Instruction} {f f' : ValueFrame ValueOrigin} {a : ValueOrigin} :
      (g.instructions b)[index]? = some i → FrameAt g numLocals maxStack t b index f →
      f.step (.produced b index) i.op = .ok f' → a ∉ f.labels → a ∈ f'.labels →
      FrameAt g numLocals maxStack t b (index + 1) f' → Arises g numLocals maxStack t b a

/-- The block in which the event of a label takes place. -/
def home? : ValueOrigin → Option Nat
  | .merge block _ | .produced block _ _ => some block
  | .entry _ | .handler _ => none

lemma Arises.home (h : Arises g numLocals maxStack t b a) {block : Nat} (ha : home? a = some block) :
    (b : Nat) = block := by
  cases h with
  | entry | handler => cases ha
  | met => exact Option.some.inj ha
  | made _ _ hstep hnew hmention _ =>
      obtain ⟨k, rfl⟩ := (ValueFrame.labels_step hstep a hmention).resolve_left hnew
      exact Option.some.inj ha

/-- Within a block a label arises, or it is mentioned at the start. -/
lemma arises_step (hindex : index < (g.instructions b).length)
    (hf : FrameAt g numLocals maxStack t b (index + 1) f) (ha : a ∈ f.labels) :
    (∃ f₀, FrameAt g numLocals maxStack t b index f₀ ∧ a ∈ f₀.labels) ∨
      Arises g numLocals maxStack t b a := by
  have hi := List.getElem?_eq_getElem hindex
  obtain ⟨f₀, hf₀, hstep⟩ := of_within_succ hi hf
  by_cases hold : a ∈ f₀.labels
  · exact .inl ⟨f₀, hf₀, hold⟩
  · exact .inr (.made hi hf₀ hstep hold ha hf)

/-- A load is named by an instruction of a block. -/
def Names (g : FlowGraph) (numLocals maxStack : Nat) (t : FactTable g OriginFact Unit) (b : g.Node)
    (l : Load ValueOrigin) : Prop :=
  ∃ index i f, (g.instructions b)[index]? = some i ∧ FrameAt g numLocals maxStack t b index f ∧
    f.named? i.op = some l

namespace Follows

variable (h : Follows g numLocals maxStack t t') (hfollowed : g.Followed numLocals)

include h

/-- The frame on entry to the method is one of those that enter the entry. -/
lemma joined_entry (hv : (t'.get g.entry).start = some v) :
    Joined g.entry (entryFrame numLocals) v := by
  obtain ⟨pre, post, hsplit⟩ := List.append_of_mem (mem_reversePostorder.2 (.entry (g := g)))
  obtain ⟨m, hvisit⟩ := h.visit hsplit
  exact hvisit.joined hv entryFrame_mem_inflows

include hfollowed

/-- What enters a block from a predecessor that is visited earlier. -/
lemma joined_new (hsplit : g.reversePostorder = pre ++ e.target :: post) (he : e ∈ g.edges)
    (hs : e.source ∈ pre) (hv : (t'.get e.target).start = some v) :
    ∃ index ≤ (g.instructions e.source).length, ∃ f,
      FrameAt g numLocals maxStack t' e.source index f ∧ Joined e.target (entered e f) v := by
  obtain ⟨m, hvisit⟩ := h.visit hsplit
  obtain ⟨index, hindex, f, hf, hbrings⟩ :=
    exists_brings h.consistent (h.full hfollowed (reachable_of_before hsplit hs))
  exact ⟨index, hindex, f, hf, hvisit.joined hv (hvisit.inflow_new he hs hbrings)⟩

/-- What is stray at the start of a block is mentioned in every predecessor that is visited earlier,
unless it is the exception that the block receives. -/
lemma stray_new (hsplit : g.reversePostorder = pre ++ e.target :: post) (he : e ∈ g.edges)
    (hs : e.source ∈ pre) (hv : (t'.get e.target).start = some v) (hstray : StrayIn e.target v a) :
    Mentions g numLocals maxStack t' e.source a ∨ a = .handler e.target := by
  obtain ⟨index, hindex, f, hf, hjoined⟩ := h.joined_new hfollowed hsplit he hs hv
  exact (labels_entered (hjoined.stray hstray)).imp_left fun ha => ⟨index, hindex, f, hf, ha⟩

/-- What is stray at the start of a block is mentioned, in the table before, in every block from which
a retreating edge leads there, unless it is the exception that the block receives. -/
lemma stray_old {t₀ : FactTable g OriginFact Unit} (h₀ : Follows g numLocals maxStack t₀ t)
    (hsplit : g.reversePostorder = pre ++ e.target :: post) (he : e ∈ g.edges)
    (hs : e.source ∉ pre) (hreach : g.Reachable e.source)
    (hv : (t'.get e.target).start = some v) (hstray : StrayIn e.target v a) :
    Mentions g numLocals maxStack t e.source a ∨ a = .handler e.target := by
  obtain ⟨m, hvisit⟩ := h.visit hsplit
  obtain ⟨index, hindex, f, hf, hbrings⟩ := exists_brings h₀.consistent (h₀.full hfollowed hreach)
  have hjoined := hvisit.joined hv (hvisit.inflow_old he hs hbrings)
  exact (labels_entered (hjoined.stray hstray)).imp_left fun ha => ⟨index, hindex, f, hf, ha⟩

/-- **A label arises before it is mentioned.** -/
theorem arisen (hsplit : g.reversePostorder = pre ++ b :: post)
    (ha : Mentions g numLocals maxStack t' b a) :
    ∃ c ∈ pre ++ [b], Arises g numLocals maxStack t' c a := by
  obtain ⟨index, hindex, hmention⟩ := ha
  have hstart : ∀ {c f}, FrameAt g numLocals maxStack t' c 0 f → a ∈ f.labels →
      StrayIn c f a ∨ Arises g numLocals maxStack t' c a := by
    intro c f hf ha
    refine (stray_or_own c ha).imp_right ?_
    rintro ⟨slot, rfl, hslot⟩
    exact .met (frameAt_zero.1 hf) hslot
  refine begun_before (R := fun b index => ∃ f, FrameAt g numLocals maxStack t' b index f ∧
    a ∈ f.labels) ?_ ?_ ?_ hsplit hindex hmention
  · rintro b index hindex ⟨f, hf, ha⟩
    exact arises_step hindex hf ha
  · rintro ⟨f, hf, ha⟩
    refine (hstart hf ha).elim (fun hstray => ?_) id
    obtain ⟨slot, rfl⟩ := labels_entryFrame ((h.joined_entry (frameAt_zero.1 hf)).stray hstray)
    exact .entry slot
  · rintro pre e post hsplit he hs ⟨f, hf, ha⟩
    rcases hstart hf ha with hstray | harises
    · refine (h.stray_new hfollowed hsplit he hs (frameAt_zero.1 hf) hstray).symm.imp_left ?_
      rintro rfl
      exact .handler _
    · exact .inl harises

/-- **A load is named before it is available.** -/
theorem named (hsplit : g.reversePostorder = pre ++ b :: post) {l : Load ValueOrigin}
    {label : ValueOrigin} (hv : (t'.get b).start = some v) (hl : v.available? l = some label) :
    ∃ c ∈ pre, Names g numLocals maxStack t' c l := by
  let Known (b : g.Node) (index : Nat) : Prop :=
    ∃ f label, FrameAt g numLocals maxStack t' b index f ∧ f.available? l = some label
  have hentry : ¬ Known g.entry 0 := by
    rintro ⟨f, label, hf, hl⟩
    cases (h.joined_entry (frameAt_zero.1 hf)).loads l label hl
  have hedge : ∀ pre e post, g.reversePostorder = pre ++ e.target :: post → e ∈ g.edges →
      e.source ∈ pre → Known e.target 0 →
      ∃ index ≤ (g.instructions e.source).length, Known e.source index := by
    rintro pre e post hsplit he hs ⟨f, label, hf, hl⟩
    obtain ⟨index, hindex, f', hf', hjoined⟩ :=
      h.joined_new hfollowed hsplit he hs (frameAt_zero.1 hf)
    exact ⟨index, hindex, f', label, hf', by simpa using hjoined.loads l label hl⟩
  have hstep : ∀ b, ∀ index < (g.instructions b).length, Known b (index + 1) →
      Known b index ∨ Names g numLocals maxStack t' b l := by
    rintro b index hindex ⟨f, label, hf, hl⟩
    have hi := List.getElem?_eq_getElem hindex
    obtain ⟨f₀, hf₀, hstep⟩ := of_within_succ hi hf
    cases hold : f₀.available? l with
    | some label' => exact .inl ⟨f₀, label', hf₀, hold⟩
    | none => exact .inr ⟨index, _, f₀, hi, hf₀, ValueFrame.named?_of_available hstep hl hold⟩
  have hknown : Known b 0 := ⟨v, label, frameAt_zero.2 hv, hl⟩
  rcases eq_entry_or_predecessor hsplit with rfl | ⟨e, he, rfl, hs⟩
  · exact absurd hknown hentry
  obtain ⟨index, hindex, hsource⟩ := hedge pre e post hsplit he hs hknown
  obtain ⟨pre', mid, heq, hsplit'⟩ := split_before hsplit hs
  obtain ⟨c, hc, hnames⟩ := begun_before hstep (fun hknown => absurd hknown hentry)
    (fun pre e post hsplit he hs hknown => .inr (hedge pre e post hsplit he hs hknown))
    hsplit' hindex hsource
  exact ⟨c, mem_before heq hc, hnames⟩

end Follows

end ValueNumbering

end Nullness
