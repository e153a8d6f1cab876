import Nullness.Frame.Operation
import Nullness.Nullity
import Nullness.Proofs.Frame

/-!
# The lattice of abstract frames

The frames of one shape that hold nothing while they are top form a partial order with the top frame
at the bottom, and a merge is the least upper bound of what is merged, as far as there is one. All
that a fold of merges gives therefore depends on the set of the merged frames alone.

* `ShapedFrame`: the frames of one shape, with `Below` as their order;
* `ShapedFrame.isLUB_merge`: a merge that succeeds gives the least frame above both;
* `Merging`: an order and grouping in which frames are merged into each other;
* `Merging.isLUB_run`, `Merging.succeeds_iff`: what comes out of it, and when;
* `ShapedFrame.mergeWith_isLeastUpperBound`: the laws of merging.
-/

namespace Nullness

section

variable {V : Type} [CellValue V] [LawfulCellValue V] {a b c : V}

lemma CellValue.join_le (ha : CellValue.Le a c) (hb : CellValue.Le b c) :
    CellValue.Le (join a b) c := by
  rw [CellValue.Le, LawfulCellValue.join_assoc, hb, ha]

end

namespace Frame

open CellValue

variable {V : Type} [CellValue V]

/-- The frame has so many locals and room for so many cells on its stack, and it holds nothing while
it is top. -/
structure OfShape (numLocals maxStack : Nat) (f : Frame V) : Prop where
  numLocals_eq : f.numLocals = numLocals
  maxStack_eq : f.maxStack = maxStack
  eq_fresh : f.valid = false → f = fresh numLocals maxStack

variable {f f' other : Frame V} {numLocals maxStack : Nat}

lemma ofShape_fresh : (fresh numLocals maxStack : Frame V).OfShape numLocals maxStack :=
  ⟨List.length_replicate, rfl, fun _ => rfl⟩

/-- Frames of one shape fit when their stacks have one depth. -/
lemma OfShape.fitting_iff (hf : f.OfShape numLocals maxStack)
    (ho : other.OfShape numLocals maxStack) : f.Fitting other ↔ f.depth = other.depth :=
  ⟨(·.depth_eq), fun h =>
    ⟨hf.numLocals_eq.trans ho.numLocals_eq.symm, hf.maxStack_eq.trans ho.maxStack_eq.symm, h⟩⟩

section

variable [LawfulCellValue V]

lemma forall₂_le_antisymm {l l' : List V} (h : List.Forall₂ Le l l') (h' : List.Forall₂ Le l' l) :
    l = l' := by
  induction h with
  | nil => rfl
  | cons hab _ ih =>
      cases h' with
      | cons hba hrest => rw [hab.antisymm hba, ih hrest]

lemma forall₂_zipWith_le {l l' u : List V} (h : List.Forall₂ Le l u) (h' : List.Forall₂ Le l' u) :
    List.Forall₂ Le (List.zipWith join l l') u := by
  induction h generalizing l' with
  | nil => simp
  | cons hac _ ih =>
      cases h' with
      | cons hbc hrest => exact .cons (join_le hac hbc) (ih hrest)

lemma Below.antisymm (h : Below f f') (h' : Below f' f) : f = f' := by
  obtain ⟨locals, stack, room, valid, known⟩ := f
  obtain ⟨locals', stack', room', valid', known'⟩ := f'
  obtain rfl : locals = locals' := forall₂_le_antisymm h.locals h'.locals
  obtain rfl : stack = stack' := forall₂_le_antisymm h.stack h'.stack
  obtain rfl : room = room' := h'.maxStack_eq
  obtain rfl : valid = valid' := h'.valid.trans h.valid.symm
  have hknown : known = known' := SortedMap.ext_get? fun n => by
    cases hn : known.get? n with
    | none =>
        cases hn' : known'.get? n with
        | none => rfl
        | some w =>
            obtain ⟨v, hv, -⟩ := h.known n w hn'
            exact absurd (hv.symm.trans hn) (by simp)
    | some v =>
        obtain ⟨w, hw, hwv⟩ := h'.known n v hn
        obtain ⟨u, hu, huw⟩ := h.known n w hw
        obtain rfl : u = v := Option.some.inj (hu.symm.trans hn)
        rw [huw.antisymm hwv]
        exact hw.symm
  rw [hknown]

/-- What lies above two frames lies above their join. -/
lemma Below.joinCells {u : Frame V} (h : Below f u) (h' : Below other u) :
    Below (f.joinCells other) u := by
  refine ⟨h.valid, h.maxStack_eq, forall₂_zipWith_le h.locals h'.locals,
    forall₂_zipWith_le h.stack h'.stack, fun n w hw => ?_⟩
  obtain ⟨v, hv, hvw⟩ := h.known n w hw
  obtain ⟨v', hv', hvw'⟩ := h'.known n w hw
  refine ⟨join v v', ?_, join_le hvw hvw'⟩
  rw [knownValue?, Frame.joinCells, SortedMap.get?_interWith]
  rw [knownValue?] at hv hv'
  rw [hv, Option.bind_some, hv', Option.map_some]

end

/-- The order of frames, by their live slots. -/
lemma OfShape.below_iff (hf : f.OfShape numLocals maxStack) (ho : other.OfShape numLocals maxStack) :
    f.Below other ↔ other.valid = true ∧ other.depth = f.depth ∧
      (∀ (slot : Nat) (v w : V), f.slots[slot]? = some v → other.slots[slot]? = some w → Le v w) ∧
      ∀ n w, other.knownValue? n = some w → ∃ v, f.knownValue? n = some v ∧ Le v w := by
  have hlocals : f.locals.length = other.locals.length :=
    hf.numLocals_eq.trans ho.numLocals_eq.symm
  constructor
  · intro h
    have hslots : List.Forall₂ Le f.slots other.slots :=
      List.rel_append h.locals (List.rel_reverse h.stack)
    refine ⟨h.valid, h.depth_eq, fun slot v w hv hw => ?_, h.known⟩
    obtain ⟨hlt, rfl⟩ := List.getElem?_eq_some_iff.1 hv
    obtain ⟨hlt', rfl⟩ := List.getElem?_eq_some_iff.1 hw
    exact hslots.get hlt hlt'
  · rintro ⟨hvalid, hdepth, hslots, hknown⟩
    have hlength : f.slots.length = other.slots.length := by
      rw [length_slots, length_slots, numSlots, numSlots, hdepth, Frame.numLocals, hlocals,
        Frame.numLocals]
    have hcells : List.Forall₂ Le f.slots other.slots :=
      List.forall₂_iff_get.2 ⟨hlength, fun slot h h' =>
        hslots slot _ _ (List.getElem?_eq_getElem h) (List.getElem?_eq_getElem h')⟩
    refine ⟨hvalid, ho.maxStack_eq.trans hf.maxStack_eq.symm, ?_, ?_, hknown⟩
    · simpa [slots, hlocals] using List.forall₂_take f.locals.length hcells
    · have hstack := List.forall₂_drop f.locals.length hcells
      simpa [slots, hlocals] using List.rel_reverse hstack

section

variable [DecidableEq V]

lemma OfShape.merge (hf : f.OfShape numLocals maxStack) (ho : other.OfShape numLocals maxStack)
    (h : f.merge other = .ok f') : f'.OfShape numLocals maxStack := by
  rcases merge_eq_ok_iff.1 h with ⟨-, rfl⟩ | ⟨-, -, rfl⟩ | ⟨-, hvalid, hfits, rfl⟩
  · exact hf
  · exact ho
  · refine ⟨?_, hf.maxStack_eq, fun hinvalid => absurd (hvalid.symm.trans hinvalid) (by simp)⟩
    have hlocals := hfits.numLocals_eq
    rw [← hf.numLocals_eq]
    simp only [Frame.numLocals] at hlocals ⊢
    rw [Frame.joinCells, List.length_zipWith, hlocals, Nat.min_self]

/-- The frame that a merge gives, when it tells in addition whether it changed the destination. -/
lemma merge_of_mergeWith {changed : Bool} (h : f.mergeWith other = .ok (f', changed)) :
    f.merge other = .ok f' := by
  rw [merge, h]
  rfl

/-- Frames of one shape merge unless both are valid and their stacks differ in depth. -/
lemma OfShape.mergeWith_cases (hf : f.OfShape numLocals maxStack)
    (ho : other.OfShape numLocals maxStack) :
    (f.valid = true ∧ other.valid = true ∧ f.depth ≠ other.depth ∧
        f.mergeWith other = .error (.frame (.depthsDiffer f.depth other.depth))) ∨
      (f.valid = true → other.valid = true → f.depth = other.depth) ∧
        ∃ f', f.mergeWith other = .ok (f', decide (f' ≠ f)) := by
  cases hother : other.valid with
  | false => exact .inr ⟨by simp, f, by simp [mergeWith, hother]⟩
  | true =>
      cases hvalid : f.valid with
      | false =>
          have hne : other ≠ f := fun h => by simp [h, hvalid] at hother
          exact .inr ⟨by simp, other, by simp [mergeWith, hother, hvalid, hne]⟩
      | true =>
          have hshape : ¬ (f.numLocals ≠ other.numLocals ∨ f.maxStack ≠ other.maxStack) := by
            rw [hf.numLocals_eq, ho.numLocals_eq, hf.maxStack_eq, ho.maxStack_eq]
            simp
          by_cases hdepth : f.depth = other.depth
          · exact .inr ⟨fun _ _ => hdepth, f.joinCells other, by
              simp [mergeWith, hother, hvalid, hshape, hdepth]⟩
          · exact .inl ⟨rfl, rfl, hdepth, by simp [mergeWith, hother, hvalid, hshape, hdepth]⟩

end

end Frame

/-! ### The order -/

/-- A frame of a shape that holds nothing while it is top. -/
def ShapedFrame (V : Type) [CellValue V] (numLocals maxStack : Nat) : Type :=
  {f : Frame V // f.OfShape numLocals maxStack}

namespace ShapedFrame

variable {V : Type} [CellValue V] {numLocals maxStack : Nat}

/-- The top frame of the shape. -/
def top : ShapedFrame V numLocals maxStack := ⟨.fresh numLocals maxStack, Frame.ofShape_fresh⟩

variable [LawfulCellValue V] {f g r : ShapedFrame V numLocals maxStack}

/-- A top frame lies below every frame, and a valid one below those that `Below` says. -/
instance : PartialOrder (ShapedFrame V numLocals maxStack) where
  le f g := f.1.valid = true → f.1.Below g.1
  le_refl _ := .refl
  le_trans _ _ _ h h' hf := (h hf).trans (h' (h hf).valid)
  le_antisymm f g h h' := by
    refine Subtype.ext ?_
    cases hf : f.1.valid with
    | true => exact (h hf).antisymm (h' (h hf).valid)
    | false =>
        cases hg : g.1.valid with
        | true => exact absurd ((h' hg).valid.symm.trans hf) (by simp)
        | false => rw [f.2.eq_fresh hf, g.2.eq_fresh hg]

instance : OrderBot (ShapedFrame V numLocals maxStack) where
  bot := top
  bot_le _ h := absurd h (by simp [top, Frame.fresh])

lemma le_iff : f ≤ g ↔ (f.1.valid = true → f.1.Below g.1) := Iff.rfl

/-- The order by the live slots of the frames. -/
lemma le_iff_slots : f ≤ g ↔ (f.1.valid = true → g.1.valid = true ∧ g.1.depth = f.1.depth ∧
    (∀ (slot : Nat) (v w : V), f.1.slots[slot]? = some v → g.1.slots[slot]? = some w →
      join v w = w) ∧
    ∀ n w, g.1.knownValue? n = some w → ∃ v, f.1.knownValue? n = some v ∧ join v w = w) := by
  rw [le_iff, f.2.below_iff g.2]
  rfl

lemma eq_bot_iff : f = ⊥ ↔ f.1.valid = false :=
  ⟨fun h => h ▸ rfl, fun h => Subtype.ext (f.2.eq_fresh h)⟩

/-- **A merge that succeeds gives the least frame above both.** -/
theorem isLUB_merge [DecidableEq V] (h : f.1.merge g.1 = .ok r.1) : IsLUB {f, g} r := by
  obtain ⟨hf, hg⟩ := Frame.below_merge h
  refine ⟨by simpa [upperBounds, le_iff] using And.intro hf hg, fun u hu hr => ?_⟩
  have hfu : f ≤ u := hu (by simp)
  have hgu : g ≤ u := hu (by simp)
  rcases Frame.merge_eq_ok_iff.1 h with ⟨-, heq⟩ | ⟨-, -, heq⟩ | ⟨hvg, hvf, -, heq⟩
  · exact heq ▸ hfu (heq ▸ hr)
  · exact heq ▸ hgu (heq ▸ hr)
  · exact heq ▸ (hfu hvf).joinCells (hgu hvg)

/-- A least upper bound is valid as soon as one of its frames is. -/
lemma valid_iff_of_isLUB {s : Set (ShapedFrame V numLocals maxStack)} (h : IsLUB s r) :
    r.1.valid = true ↔ ∃ f ∈ s, f.1.valid = true := by
  refine ⟨fun hr => ?_, fun ⟨f, hf, hvalid⟩ => (h.1 hf hvalid).valid⟩
  by_contra hnone
  have hbot : r ≤ ⊥ := h.2 fun f hf hvalid => absurd ⟨f, hf, hvalid⟩ hnone
  exact absurd ((hbot hr).valid.symm.trans (eq_bot_iff.1 rfl)) (by simp)

/-- A valid frame and one above it have stacks of one depth. -/
lemma depth_eq_of_le (h : f ≤ g) (hf : f.1.valid = true) : g.1.depth = f.1.depth :=
  (h hf).depth_eq

/-- Two families of frames, each with a least upper bound: what bounds the two bounds bounds both
families. -/
lemma isLUB_union {s s' : Set (ShapedFrame V numLocals maxStack)} (hf : IsLUB s f) (hg : IsLUB s' g)
    (hr : IsLUB {f, g} r) : IsLUB (s ∪ s') r := by
  have hbounds : upperBounds (s ∪ s') = upperBounds {f, g} := by
    rw [upperBounds_union, hf.upperBounds_eq, hg.upperBounds_eq, upperBounds_insert,
      upperBounds_singleton]
  rwa [IsLUB, hbounds]

end ShapedFrame

/-! ### Orders and groupings of merges -/

/-- An order and grouping in which frames are merged into each other. -/
inductive Merging (V : Type) [CellValue V] (numLocals maxStack : Nat)
  | nothing
  | frame (f : ShapedFrame V numLocals maxStack)
  /-- What comes out on the right is merged into what comes out on the left. -/
  | into (left right : Merging V numLocals maxStack)

namespace Merging

variable {V : Type} [CellValue V] {numLocals maxStack : Nat}

/-- The frames that are merged, from the left to the right. -/
def frames : Merging V numLocals maxStack → List (ShapedFrame V numLocals maxStack)
  | nothing => []
  | frame f => [f]
  | into left right => left.frames ++ right.frames

/-- The frames of a list, one after the other into what there is. -/
def inOrder (t : Merging V numLocals maxStack) (fs : List (ShapedFrame V numLocals maxStack)) :
    Merging V numLocals maxStack :=
  fs.foldl (fun t f => t.into (frame f)) t

lemma frames_inOrder (t : Merging V numLocals maxStack)
    (fs : List (ShapedFrame V numLocals maxStack)) : (t.inOrder fs).frames = t.frames ++ fs := by
  induction fs generalizing t with
  | nil => simp [inOrder]
  | cons f fs ih =>
      change ((t.into (frame f)).inOrder fs).frames = _
      rw [ih, frames, frames, List.append_assoc, List.singleton_append]

variable [DecidableEq V]

/-- Carries the merges out. -/
def run : Merging V numLocals maxStack → Except Error (Frame V)
  | nothing => .ok (.fresh numLocals maxStack)
  | frame f => .ok f.1
  | into left right => do (← left.run).merge (← right.run)

lemma run_into_eq_ok_iff {left right : Merging V numLocals maxStack} {f : Frame V} :
    (left.into right).run = .ok f ↔
      ∃ a b, left.run = .ok a ∧ right.run = .ok b ∧ a.merge b = .ok f := by
  simp only [run, bind_eq_ok_iff]
  tauto

lemma run_inOrder (t : Merging V numLocals maxStack)
    (fs : List (ShapedFrame V numLocals maxStack)) :
    (t.inOrder fs).run = t.run >>= fun f => fs.foldlM (fun f g => f.merge g.1) f := by
  induction fs generalizing t with
  | nil => simp [inOrder]
  | cons f fs ih =>
      change ((t.into (frame f)).inOrder fs).run = _
      rw [ih]
      simp only [run, bind_assoc, List.foldlM_cons]
      rfl

/-- The frames that are valid have stacks of one depth. -/
def Agree (fs : List (ShapedFrame V numLocals maxStack)) : Prop :=
  ∀ f ∈ fs, ∀ g ∈ fs, f.1.valid = true → g.1.valid = true → f.1.depth = g.1.depth

variable [LawfulCellValue V] {r : ShapedFrame V numLocals maxStack}

/-- What comes out is a frame of the shape, the least one above all that were merged. -/
theorem isLUB_run {t : Merging V numLocals maxStack} {f : Frame V} (h : t.run = .ok f) :
    ∃ hf : f.OfShape numLocals maxStack, IsLUB {g | g ∈ t.frames} ⟨f, hf⟩ := by
  induction t generalizing f with
  | nothing =>
      obtain rfl := Except.ok.inj h
      refine ⟨Frame.ofShape_fresh, ?_⟩
      simp only [frames, List.not_mem_nil]
      exact isLUB_empty
  | frame g =>
      obtain rfl := Except.ok.inj h
      refine ⟨g.2, ?_⟩
      simp only [frames, List.mem_singleton]
      exact isLUB_singleton
  | into left right hleft hright =>
      obtain ⟨a, b, ha, hb, hmerge⟩ := run_into_eq_ok_iff.1 h
      obtain ⟨hshape, hlub⟩ := hleft ha
      obtain ⟨hshape', hlub'⟩ := hright hb
      refine ⟨hshape.merge hshape' hmerge, ?_⟩
      simp only [frames, List.mem_append]
      exact ShapedFrame.isLUB_union hlub hlub' (ShapedFrame.isLUB_merge hmerge)

/-- Merges succeed when the valid frames among those that are merged agree in depth. -/
theorem succeeds_iff {t : Merging V numLocals maxStack} :
    (∃ f, t.run = .ok f) ↔ Agree t.frames := by
  constructor
  · -- All valid frames have the depth of the bound above them.
    rintro ⟨f, hf⟩ g hg g' hg' hvalid hvalid'
    obtain ⟨_, hlub⟩ := isLUB_run hf
    rw [← ShapedFrame.depth_eq_of_le (hlub.1 hg) hvalid,
      ← ShapedFrame.depth_eq_of_le (hlub.1 hg') hvalid']
  · intro h
    induction t with
    | nothing => exact ⟨_, rfl⟩
    | frame f => exact ⟨_, rfl⟩
    | into left right hleft hright =>
        obtain ⟨a, ha⟩ := hleft fun f hf g hg =>
          h f (List.mem_append_left _ hf) g (List.mem_append_left _ hg)
        obtain ⟨b, hb⟩ := hright fun f hf g hg =>
          h f (List.mem_append_right _ hf) g (List.mem_append_right _ hg)
        obtain ⟨hshape, hlub⟩ := isLUB_run ha
        obtain ⟨hshape', hlub'⟩ := isLUB_run hb
        obtain ⟨f, hf⟩ := Frame.merge_succeeds fun hvalid hvalid' => by
          -- A valid result has the depth of a valid frame on its side.
          obtain ⟨g, hg, hgvalid⟩ := (ShapedFrame.valid_iff_of_isLUB hlub).1 hvalid
          obtain ⟨g', hg', hgvalid'⟩ := (ShapedFrame.valid_iff_of_isLUB hlub').1 hvalid'
          refine (hshape.fitting_iff hshape').2 ?_
          calc a.depth = g.1.depth := ShapedFrame.depth_eq_of_le (hlub.1 hg) hgvalid
            _ = g'.1.depth := h g (List.mem_append_left _ hg) g' (List.mem_append_right _ hg')
                  hgvalid hgvalid'
            _ = b.depth := (ShapedFrame.depth_eq_of_le (hlub'.1 hg') hgvalid').symm
        exact ⟨f, run_into_eq_ok_iff.2 ⟨a, b, ha, hb, hf⟩⟩

/-- What comes out depends on the set of the merged frames alone. -/
theorem outcome_eq (t t' : Merging V numLocals maxStack)
    (h : ∀ f, f ∈ t.frames ↔ f ∈ t'.frames) : t.run.toOption = t'.run.toOption := by
  have hagree : Agree t.frames ↔ Agree t'.frames := by simp only [Agree, h]
  rw [← succeeds_iff, ← succeeds_iff] at hagree
  cases ht : t.run with
  | error e =>
      cases ht' : t'.run with
      | error e' => rfl
      | ok f' => exact absurd (hagree.2 ⟨f', ht'⟩) (by simp [ht])
  | ok f =>
      obtain ⟨f', ht'⟩ := hagree.1 ⟨f, ht⟩
      obtain ⟨hf, hlub⟩ := isLUB_run ht
      obtain ⟨hf', hlub'⟩ := isLUB_run ht'
      simp only [h] at hlub
      have heq : f = f' := congrArg Subtype.val (hlub.unique hlub')
      rw [ht', heq]

end Merging

/-! ### The laws of merging -/

namespace ShapedFrame

variable {V : Type} [CellValue V] [DecidableEq V] {numLocals maxStack : Nat}

/-- A merge is refused when both frames are valid and differ in depth. -/
lemma mergeWith_eq_error_iff {f g : ShapedFrame V numLocals maxStack} {e : Error} :
    f.1.mergeWith g.1 = .error e ↔
      (f.1.valid = true ∧ g.1.valid = true ∧ f.1.depth ≠ g.1.depth) ∧
        e = .frame (.depthsDiffer f.1.depth g.1.depth) := by
  rcases f.2.mergeWith_cases g.2 with ⟨hf, hg, hdepth, h⟩ | ⟨hdepth, r, h⟩
  · simp [h, hf, hg, hdepth, eq_comm]
  · simp only [h, reduceCtorEq, false_iff]
    rintro ⟨⟨hf, hg, hne⟩, -⟩
    exact hne (hdepth hf hg)

/-- A merge that succeeds tells whether it changed its destination. -/
lemma changed_iff {f g : ShapedFrame V numLocals maxStack} {r : Frame V} {changed : Bool}
    (h : f.1.mergeWith g.1 = .ok (r, changed)) : changed = true ↔ r ≠ f.1 := by
  rcases f.2.mergeWith_cases g.2 with ⟨-, -, -, h'⟩ | ⟨-, r', h'⟩
  · exact absurd (h.symm.trans h') (by simp)
  · obtain ⟨rfl, rfl⟩ := Prod.mk.inj (Except.ok.inj (h.symm.trans h'))
    simp

/-- Merges the frames of a list, one after the other, into the top frame. -/
def mergeAll (fs : List (ShapedFrame V numLocals maxStack)) : Except Error (Frame V) :=
  fs.foldlM (fun r f => r.merge f.1) (.fresh numLocals maxStack)

/-- The merges of a list, in its order and grouped from the left. -/
lemma run_inOrder_nothing (fs : List (ShapedFrame V numLocals maxStack)) :
    (Merging.nothing.inOrder fs).run = mergeAll fs :=
  Merging.run_inOrder ..

omit [DecidableEq V] in
lemma frames_inOrder_nothing (fs : List (ShapedFrame V numLocals maxStack)) :
    (Merging.nothing.inOrder fs).frames = fs :=
  Merging.frames_inOrder ..

/-- The top frame becomes what is merged into it. -/
lemma top_merge (f : ShapedFrame V numLocals maxStack) :
    (top : ShapedFrame V numLocals maxStack).1.merge f.1 = .ok f.1 := by
  cases hf : f.1.valid with
  | true => exact Frame.merge_eq_ok_iff.2 (.inr (.inl ⟨hf, rfl, rfl⟩))
  | false => exact Frame.merge_eq_ok_iff.2 (.inl ⟨hf, (f.2.eq_fresh hf).symm⟩)

variable [LawfulCellValue V]

/-- A frame that is merged into itself stays as it is. -/
lemma mergeWith_self (f : ShapedFrame V numLocals maxStack) :
    f.1.mergeWith f.1 = .ok (f.1, false) := by
  rcases f.2.mergeWith_cases f.2 with ⟨-, -, hdepth, -⟩ | ⟨-, r, h⟩
  · exact absurd rfl hdepth
  · have hmerge := Frame.merge_of_mergeWith h
    have hlub : IsLUB {f} (⟨r, f.2.merge f.2 hmerge⟩ : ShapedFrame V numLocals maxStack) := by
      simpa using isLUB_merge (f := f) (g := f) (r := ⟨r, f.2.merge f.2 hmerge⟩) hmerge
    obtain rfl : r = f.1 := congrArg Subtype.val (hlub.unique isLUB_singleton)
    simpa using h

lemma merge_comm (f g : ShapedFrame V numLocals maxStack) :
    (f.1.merge g.1).toOption = (g.1.merge f.1).toOption :=
  Merging.outcome_eq (.into (.frame f) (.frame g)) (.into (.frame g) (.frame f))
    fun _ => by simp [Merging.frames, or_comm]

lemma merge_assoc (f g h : ShapedFrame V numLocals maxStack) :
    (f.1.merge g.1 >>= fun r => r.merge h.1).toOption =
      (g.1.merge h.1 >>= fun r => f.1.merge r).toOption :=
  Merging.outcome_eq (.into (.into (.frame f) (.frame g)) (.frame h))
    (.into (.frame f) (.into (.frame g) (.frame h))) fun _ => by simp [Merging.frames]

/-- The merges of a list are refused when two valid frames of it differ in depth. -/
lemma mergeAll_fails_iff (fs : List (ShapedFrame V numLocals maxStack)) :
    (∃ e, mergeAll fs = .error e) ↔
      ∃ f ∈ fs, ∃ g ∈ fs, f.1.valid = true ∧ g.1.valid = true ∧ f.1.depth ≠ g.1.depth := by
  have hagree := Merging.succeeds_iff (t := Merging.nothing.inOrder fs)
  rw [run_inOrder_nothing, frames_inOrder_nothing] at hagree
  have hfails : (∃ e, mergeAll fs = .error e) ↔ ¬ ∃ r, mergeAll fs = .ok r := by
    cases mergeAll fs <;> simp
  rw [hfails, hagree, Merging.Agree]
  push Not
  rfl

/-- **A merge is a least upper bound.** Merges of frames of one shape are commutative, associative
and idempotent with the top frame as their identity. A merge is refused exactly when both frames are
valid and their stacks differ in depth, and then it leaves its destination alone; otherwise it gives
the least frame above both, and tells whether the destination changed. A list of frames comes to one
outcome in every order and grouping: to a refusal when two valid frames of the list differ in depth,
and else to the least frame above all of them. -/
theorem mergeWith_isLeastUpperBound :
    (∀ f g : ShapedFrame V numLocals maxStack, f ≤ g ↔
      (f.1.valid = true → g.1.valid = true ∧ g.1.depth = f.1.depth ∧
        (∀ (slot : Nat) (v w : V), f.1.slots[slot]? = some v → g.1.slots[slot]? = some w →
          join v w = w) ∧
        ∀ n w, g.1.knownValue? n = some w →
          ∃ v, f.1.knownValue? n = some v ∧ join v w = w)) ∧
    (∀ f g : ShapedFrame V numLocals maxStack,
      ((∃ e, f.1.mergeWith g.1 = .error e) ↔
        f.1.valid = true ∧ g.1.valid = true ∧ f.1.depth ≠ g.1.depth) ∧
      (∀ e, f.1.mergeWith g.1 = .error e →
        Frame.Operation.run f.1 (.mergeWith g.1) = (f.1, .error e)) ∧
      ∀ r changed, f.1.mergeWith g.1 = .ok (r, changed) →
        (changed = true ↔ r ≠ f.1) ∧
          ∃ hr : r.OfShape numLocals maxStack, IsLUB {f, g} ⟨r, hr⟩) ∧
    (∀ f g : ShapedFrame V numLocals maxStack,
      (f.1.merge g.1).toOption = (g.1.merge f.1).toOption) ∧
    (∀ f g h : ShapedFrame V numLocals maxStack,
      (f.1.merge g.1 >>= fun r => r.merge h.1).toOption =
        (g.1.merge h.1 >>= fun r => f.1.merge r).toOption) ∧
    (∀ f : ShapedFrame V numLocals maxStack,
      f.1.mergeWith f.1 = .ok (f.1, false) ∧
      f.1.mergeWith (.fresh numLocals maxStack) = .ok (f.1, false) ∧
      (Frame.fresh numLocals maxStack).merge f.1 = .ok f.1) ∧
    ∀ fs : List (ShapedFrame V numLocals maxStack),
      (∀ t : Merging V numLocals maxStack, t.frames.Perm fs →
        t.run.toOption = (mergeAll fs).toOption) ∧
      ((∃ e, mergeAll fs = .error e) ↔
        ∃ f ∈ fs, ∃ g ∈ fs, f.1.valid = true ∧ g.1.valid = true ∧ f.1.depth ≠ g.1.depth) ∧
      ∀ r, mergeAll fs = .ok r →
        ∃ hr : r.OfShape numLocals maxStack, IsLUB {f | f ∈ fs} ⟨r, hr⟩ := by
  refine ⟨fun _ _ => le_iff_slots, fun f g => ⟨?_, fun e h => ?_, fun r changed h => ?_⟩,
    merge_comm, merge_assoc,
    fun f => ⟨mergeWith_self f, Frame.mergeWith_top_right _ rfl, top_merge f⟩,
    fun fs => ⟨fun t ht => ?_, mergeAll_fails_iff fs, fun r h => ?_⟩⟩
  · simp [mergeWith_eq_error_iff]
  · simp [Frame.Operation.run, h]
  · have hmerge := Frame.merge_of_mergeWith h
    exact ⟨changed_iff h, f.2.merge g.2 hmerge, isLUB_merge hmerge⟩
  · rw [← run_inOrder_nothing]
    refine Merging.outcome_eq _ _ fun f => ?_
    rw [frames_inOrder_nothing, ht.mem_iff]
  · rw [← run_inOrder_nothing] at h
    obtain ⟨hr, hlub⟩ := Merging.isLUB_run h
    exact ⟨hr, by rwa [frames_inOrder_nothing] at hlub⟩

/-- Two frames of nullness values that meet with one cell on the stack each, and a third one with an
empty stack that neither of them can be merged into. -/
theorem mergeWith_null_frames :
    let f : ShapedFrame Nullity 1 1 :=
      ⟨⟨[.definitelyNull], [.nonNullProven], 1, true, .ofList [(0, .definitelyNull)]⟩,
        rfl, rfl, nofun⟩
    let g : ShapedFrame Nullity 1 1 :=
      ⟨⟨[.nonNullProven], [.nonNullGuarded], 1, true, .empty⟩, rfl, rfl, nofun⟩
    let r : ShapedFrame Nullity 1 1 :=
      ⟨⟨[.nullOnSomePath], [.nonNullGuarded], 1, true, .empty⟩, rfl, rfl, nofun⟩
    let h : ShapedFrame Nullity 1 1 := ⟨⟨[.definitelyNull], [], 1, true, .empty⟩, rfl, rfl, nofun⟩
    LawfulCellValue Nullity ∧ f.1.mergeWith g.1 = .ok (r.1, true) ∧ IsLUB {f, g} r ∧
      (∃ e, mergeAll [f, top, h] = .error e) := by
  intro f g r h
  have hmerge : f.1.mergeWith g.1 = .ok (r.1, true) := by decide
  obtain ⟨-, hpair, -, -, -, hlist⟩ :=
    @mergeWith_isLeastUpperBound Nullity _ _ 1 1 inferInstance
  obtain ⟨-, -, hok⟩ := hpair f g
  obtain ⟨-, _, hlub⟩ := hok _ _ hmerge
  refine ⟨inferInstance, hmerge, hlub, (hlist [f, top, h]).2.1.2 ?_⟩
  exact ⟨f, by simp, h, by simp, rfl, rfl, by decide⟩

end ShapedFrame

end Nullness
