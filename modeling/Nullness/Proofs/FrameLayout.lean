import Mathlib.Tactic
import Nullness.Frame.Layout
import Nullness.Nullity
import Nullness.Proofs.Frame

/-!
# Frames in memory

Operations in place keep a frame laid out as it was made: the live slots come first, and nothing is
left in the cells behind them. So two frames in memory are the same cells just when they have the
same contents, and what the operations do to the cells is what they do to the contents.

* `Layout.ofFrame`: the one layout of a frame;
* `Layout.run_ofFrame`: **an operation in place leaves the layout of the frame that it makes;**
* `Layout.Reached`: what any sequence of operations, refused or not, makes of a new layout;
* `Layout.Reached.eq_ofFrame`: **it is the layout of a frame;**
* `Layout.reached_contents`: **frames in memory have one shape and one form.**
-/

namespace Nullness

namespace Frame

variable {V : Type} {f f' other : Frame V} {numLocals maxStack : Nat}

/-- The frame has so many locals and room for so many cells on its stack, and its stack fits. -/
structure Sized (numLocals maxStack : Nat) (f : Frame V) : Prop where
  numLocals_eq : f.numLocals = numLocals
  maxStack_eq : f.maxStack = maxStack
  depth_le : f.depth ≤ maxStack

lemma Sized.room (hf : f.Sized numLocals maxStack) : f.depth ≤ f.maxStack :=
  hf.depth_le.trans_eq hf.maxStack_eq.symm

/-- A frame with a cell on its stack is one below it with that cell more. -/
lemma exists_cons {rest : List V} {v : V} (hf : f.depth ≤ f.maxStack) (hs : f.stack = v :: rest) :
    ∃ f₀ : Frame V, f₀.depth < f₀.maxStack ∧ f = { f₀ with stack := v :: f₀.stack } := by
  refine ⟨{ f with stack := rest }, ?_, by rw [← hs]⟩
  rw [depth, hs] at hf
  exact hf

/-- A cell counted from the bottom is one counted from the top. -/
lemma set_reverse {α : Type} {l : List α} {i : Nat} (hi : i < l.length) (a : α) :
    l.reverse.set i a = (l.set (l.length - 1 - i) a).reverse := by
  refine List.ext_getElem (by simp) fun j hj hj' => ?_
  have hlt : j < l.length := by simpa using hj
  have hsame : l.length - 1 - i = l.length - 1 - j ↔ i = j := by omega
  simp only [List.getElem_set, List.getElem_reverse, List.length_set, hsame]

/-- A slot of a variable is a slot of the frame. -/
lemma slots_set_locals {slot : Nat} (hslot : slot < f.numLocals) (v : V) :
    slots { f with locals := f.locals.set slot v } = f.slots.set slot v := by
  rw [slots, slots, List.set_append_left _ _ hslot]

/-- The slots behind the variables are cells of the stack, from the bottom. -/
lemma slots_set_stack {slot : Nat} (hslot : slot < f.numSlots) (hlocals : ¬ slot < f.numLocals)
    (v : V) :
    slots { f with stack := f.stack.set (f.numSlots - 1 - slot) v } = f.slots.set slot v := by
  have hsum : f.numSlots = f.locals.length + f.stack.length := rfl
  have hge : f.locals.length ≤ slot := not_lt.1 hlocals
  have hcell : slot - f.locals.length < f.stack.length := by omega
  have hindex : f.stack.length - 1 - (slot - f.locals.length) = f.numSlots - 1 - slot := by omega
  rw [slots, slots, List.set_append_right _ _ hge, set_reverse hcell, hindex]

lemma numLocals_joinCells [CellValue V] (hfits : f.Fitting other) :
    (f.joinCells other).numLocals = f.numLocals := by
  have hsame : f.locals.length = other.locals.length := hfits.numLocals_eq
  rw [numLocals, joinCells, List.length_zipWith, hsame, Nat.min_self, ← hsame, ← numLocals]

lemma depth_joinCells [CellValue V] (hfits : f.Fitting other) :
    (f.joinCells other).depth = f.depth := by
  have hsame : f.stack.length = other.stack.length := hfits.depth_eq
  rw [depth, joinCells, List.length_zipWith, hsame, Nat.min_self, ← hsame, ← depth]

/-- The live slots of two frames of one shape and depth are joined one by one. -/
lemma slots_joinCells [CellValue V] (hfits : f.Fitting other) :
    (f.joinCells other).slots = List.zipWith join f.slots other.slots := by
  rw [slots, slots, slots, joinCells, List.reverse_zipWith hfits.depth_eq,
    List.zipWith_append hfits.numLocals_eq]

/-! ### Shapes -/

namespace Sized

variable {out : Except Error (Frame V)}

lemma settle (hleft : f.Sized numLocals maxStack)
    (hout : ∀ f', out = .ok f' → f'.Sized numLocals maxStack) :
    (settle f out).1.Sized numLocals maxStack := by
  cases out with
  | ok f' => exact hout f' rfl
  | error e => exact hleft

/-- A stack that is no deeper fits as well. -/
lemma withStack (hf : f.Sized numLocals maxStack) {stack : List V} (h : stack.length ≤ f.depth) :
    Sized numLocals maxStack { f with stack } :=
  ⟨hf.numLocals_eq, hf.maxStack_eq, h.trans hf.depth_le⟩

lemma push (hf : f.Sized numLocals maxStack) {v : V} (h : f.push v = .ok f') :
    f'.Sized numLocals maxStack := by
  obtain ⟨hroom, rfl⟩ := push_eq_ok_iff.1 h
  exact ⟨hf.numLocals_eq, hf.maxStack_eq, hroom.trans_eq hf.maxStack_eq⟩

lemma pop (hf : f.Sized numLocals maxStack) {v : V} (h : f.pop = .ok (v, f')) :
    f'.Sized numLocals maxStack := by
  obtain ⟨rest, hrest, rfl⟩ := pop_eq_ok_iff.1 h
  exact hf.withStack (by rw [depth, hrest]; exact Nat.le_succ _)

lemma setLocals (hf : f.Sized numLocals maxStack) (index : Nat) (v : V) :
    Sized numLocals maxStack { f with locals := f.locals.set index v } :=
  ⟨(List.length_set ..).trans hf.numLocals_eq, hf.maxStack_eq, hf.depth_le⟩

lemma setLocal (hf : f.Sized numLocals maxStack) {index : Nat} {v : V}
    (h : f.setLocal index v = .ok f') : f'.Sized numLocals maxStack := by
  obtain ⟨-, rfl⟩ := setLocal_eq_ok_iff.1 h
  exact hf.setLocals index v

lemma setValue (hf : f.Sized numLocals maxStack) {slot : Nat} {v : V}
    (h : f.setValue slot v = .ok f') : f'.Sized numLocals maxStack := by
  rw [Frame.setValue] at h
  split_ifs at h with hlocals hslot
  · cases h
    exact hf.setLocals slot v
  · cases h
    exact hf.withStack (List.length_set ..).le

variable [CellValue V]

lemma fresh (numLocals maxStack : Nat) :
    (Frame.fresh numLocals maxStack : Frame V).Sized numLocals maxStack :=
  ⟨List.length_replicate, rfl, Nat.zero_le _⟩

lemma setTop (hf : f.Sized numLocals maxStack) : f.setTop.Sized numLocals maxStack := by
  rw [Frame.setTop, hf.numLocals_eq, hf.maxStack_eq]
  exact .fresh ..

lemma setValid (hf : f.Sized numLocals maxStack) : f.setValid.Sized numLocals maxStack :=
  ⟨hf.setTop.numLocals_eq, hf.setTop.maxStack_eq, hf.setTop.depth_le⟩

lemma joinCells (hf : f.Sized numLocals maxStack) (hfits : f.Fitting other) :
    (f.joinCells other).Sized numLocals maxStack :=
  ⟨(numLocals_joinCells hfits).trans hf.numLocals_eq, hf.maxStack_eq,
    (depth_joinCells hfits).trans_le hf.depth_le⟩

lemma merge [DecidableEq V] (hf : f.Sized numLocals maxStack) (ho : other.Sized numLocals maxStack)
    (h : f.merge other = .ok f') : f'.Sized numLocals maxStack := by
  rcases merge_eq_ok_iff.1 h with ⟨-, rfl⟩ | ⟨-, -, rfl⟩ | ⟨-, -, hfits, rfl⟩
  · exact hf
  · exact ho
  · exact hf.joinCells hfits

/-- An operation keeps the shape, whether it is refused or not. -/
lemma run [DecidableEq V] {o : Frame.Operation V} (hf : f.Sized numLocals maxStack)
    (ho : ∀ other, o = .mergeWith other → other.Sized numLocals maxStack) :
    (o.run f).1.Sized numLocals maxStack := by
  have hdrop : ∀ count, (f.dropCells count).Sized numLocals maxStack := fun count =>
    hf.withStack ((List.length_drop ..).trans_le (Nat.sub_le ..))
  have hclear : f.clearStack.Sized numLocals maxStack := hf.withStack (Nat.zero_le _)
  cases o with
  | setValid => exact hf.setValid
  | setTop => exact hf.setTop
  | push v => exact hf.settle fun _ => hf.push
  | pop =>
      rw [Operation.run]
      cases hpop : f.pop with
      | ok popped => exact hf.pop hpop
      | error e => exact hf
  | popN count => exact (hdrop count).settle fun _ h => (popN_eq_ok_iff.1 h).2 ▸ hdrop count
  | setLocal index v => exact hf.settle fun _ => hf.setLocal
  | setValue slot v => exact hf.settle fun _ => hf.setValue
  | clearStack => exact hclear
  | resetStackTo v => exact hclear.settle fun _ => hclear.push
  | setKnown => exact ⟨hf.numLocals_eq, hf.maxStack_eq, hf.depth_le⟩
  | clearKnown => exact ⟨hf.numLocals_eq, hf.maxStack_eq, hf.depth_le⟩
  | mergeWith other =>
      rw [Operation.run]
      cases hmerge : f.mergeWith other with
      | ok merged => exact hf.merge (ho other rfl) (by rw [Frame.merge, hmerge]; rfl)
      | error e => exact hf

end Sized

namespace Layout

variable {l l' : Layout V} {o : Layout.Operation V}

/-! ### Refusals -/

/-- The operation is done as a whole or not at all. The others have begun when they are refused. -/
def Operation.Atomic : Layout.Operation V → Prop
  | .popN _ | .resetStackTo _ => False
  | _ => True

/-- A check that comes first keeps the layout when it refuses. -/
lemma keeps_ite {α : Type} {refused : Prop} [Decidable refused] {e e' : Error}
    {a : α} {out : Layout V × Except Error α}
    (hout : out = if refused then (l, .error e) else (l', .ok a)) (h : out.2 = .error e') :
    out.1 = l := by
  rw [hout] at h ⊢
  split_ifs at h ⊢
  rfl

lemma answer_keeps {α : Type} {reply : α → Reply V} {out : Layout V × Except Error α} {e : Error}
    (hkeeps : ∀ e, out.2 = .error e → out.1 = l) (h : (answer reply out).2 = .error e) :
    (answer reply out).1 = l := by
  obtain ⟨left, e' | a⟩ := out
  · exact hkeeps e' rfl
  · cases h

lemma mergeWith_refused [CellValue V] [DecidableEq V] {e : Error}
    (h : (l.mergeWith l').2 = .error e) : (l.mergeWith l').1 = l := by
  rw [mergeWith] at h ⊢
  split_ifs at h ⊢
  · rfl
  · rfl

/-- An atomic operation that is refused leaves everything as it was. -/
lemma run_refused [CellValue V] [DecidableEq V] {e : Error} (hatomic : o.Atomic)
    (h : (o.run l).2 = .error e) : (o.run l).1 = l := by
  cases o with
  | setValid | setTop | clearStack | setKnown | clearKnown => cases h
  | popN | resetStackTo => exact hatomic.elim
  | push | pop | setLocal | setValue => exact answer_keeps (fun _ => keeps_ite rfl) h
  | mergeWith => exact answer_keeps (fun _ => mergeWith_refused) h

lemma toFrame_eq_mergeWith_iff {other : Frame V} :
    o.toFrame = .mergeWith other ↔ ∃ l, o = .mergeWith l ∧ l.toFrame = other := by
  cases o <;> simp [Operation.toFrame]

variable [CellValue V]

/-! ### The layout of a frame -/

/-- A frame laid out: the live slots, and nothing in the cells behind them. -/
def ofFrame (f : Frame V) : Layout V where
  cells := f.slots ++ List.replicate (f.maxStack - f.depth) CellValue.top
  numLocals := f.numLocals
  depth := f.depth
  valid := f.valid
  known := f.known

lemma take_cells_ofFrame (f : Frame V) : (ofFrame f).cells.take f.numSlots = f.slots := by
  rw [← length_slots, ofFrame, List.take_left]

lemma drop_cells_ofFrame (f : Frame V) :
    (ofFrame f).cells.drop f.numSlots = List.replicate (f.maxStack - f.depth) CellValue.top := by
  rw [← length_slots, ofFrame, List.drop_left]

lemma locals_ofFrame (f : Frame V) : (ofFrame f).locals = f.locals := by
  rw [locals, ofFrame, slots, List.append_assoc]
  exact List.take_left

lemma stack_ofFrame (f : Frame V) : (ofFrame f).stack = f.stack.reverse := by
  have htake : (ofFrame f).cells.take (ofFrame f).numSlots = f.slots := take_cells_ofFrame f
  rw [stack, htake, slots]
  exact List.drop_left

lemma length_cells_ofFrame (hf : f.depth ≤ f.maxStack) :
    (ofFrame f).cells.length = f.numLocals + f.maxStack := by
  rw [ofFrame, List.length_append, length_slots, List.length_replicate, Frame.numSlots]
  omega

lemma maxStack_ofFrame (hf : f.depth ≤ f.maxStack) : (ofFrame f).maxStack = f.maxStack := by
  rw [maxStack, length_cells_ofFrame hf]
  exact Nat.add_sub_cancel_left ..

/-- A frame is read off its layout. -/
lemma toFrame_ofFrame (hf : f.depth ≤ f.maxStack) : (ofFrame f).toFrame = f := by
  rw [toFrame, locals_ofFrame, stack_ofFrame, List.reverse_reverse, maxStack_ofFrame hf]
  rfl

lemma ofFrame_fresh (numLocals maxStack : Nat) :
    ofFrame (fresh numLocals maxStack : Frame V) = new numLocals maxStack := by
  rw [new, List.replicate_add]
  simp [ofFrame, fresh, slots, Frame.numLocals, Frame.depth]

/-! ### Operations in place -/

/-- What an operation on a frame leaves, laid out. -/
def settled (left : Frame V) : Except Error (Frame V) → Layout V × Except Error Unit
  | .ok f => (ofFrame f, .ok ())
  | .error e => (ofFrame left, .error e)

lemma setTop_ofFrame (hf : f.depth ≤ f.maxStack) : (ofFrame f).setTop = ofFrame f.setTop := by
  rw [Frame.setTop, ofFrame_fresh, new, setTop, clear, length_cells_ofFrame hf]
  rfl

lemma setValid_ofFrame (hf : f.depth ≤ f.maxStack) :
    (ofFrame f).setValid = ofFrame f.setValid := by
  have htop : ofFrame f.setValid = { ofFrame f.setTop with valid := true } := rfl
  rw [htop, ← setTop_ofFrame hf]
  rfl

lemma clearStack_ofFrame (hf : f.depth ≤ f.maxStack) :
    (ofFrame f).clearStack = ofFrame f.clearStack := by
  have hroom : (ofFrame f).cells.length - (ofFrame f).numLocals = f.maxStack :=
    maxStack_ofFrame hf
  rw [clearStack, locals_ofFrame, hroom]
  simp [ofFrame, Frame.clearStack, slots, Frame.numLocals, Frame.depth]

/-- One cell more on the stack is the first cell behind it. -/
lemma ofFrame_cons (hroom : f.depth < f.maxStack) (v : V) :
    ofFrame { f with stack := v :: f.stack } =
      { ofFrame f with cells := (ofFrame f).cells.set f.numSlots v, depth := f.depth + 1 } := by
  obtain ⟨free, hfree⟩ : ∃ free, f.maxStack - f.depth = free + 1 :=
    ⟨f.maxStack - f.depth - 1, by omega⟩
  have hleft : f.maxStack - (f.stack.length + 1) = free := by
    have hdepth : f.depth = f.stack.length := rfl
    omega
  have hset : (ofFrame f).cells.set f.numSlots v =
      f.slots ++ v :: List.replicate free CellValue.top := by
    rw [ofFrame, hfree, ← length_slots, List.set_append_right _ _ le_rfl, Nat.sub_self]
    rfl
  rw [hset]
  simp [ofFrame, slots, Frame.numLocals, Frame.depth, hleft]

/-- Nothing is in the first cell behind the stack. -/
lemma getElem?_cells_ofFrame (hroom : f.depth < f.maxStack) :
    (ofFrame f).cells[f.numSlots]? = some CellValue.top := by
  rw [ofFrame, ← length_slots, List.getElem?_append_right le_rfl, Nat.sub_self,
    List.getElem?_replicate_of_lt (Nat.sub_pos_of_lt hroom)]

lemma push_ofFrame (hf : f.depth ≤ f.maxStack) (v : V) :
    (ofFrame f).push v = settled f (f.push v) := by
  have hfull : (ofFrame f).cells.length ≤ (ofFrame f).numSlots ↔ ¬ f.depth < f.maxStack := by
    rw [length_cells_ofFrame hf]
    exact Nat.add_le_add_iff_left.trans Nat.not_lt.symm
  rw [push, Frame.push]
  by_cases hroom : f.depth < f.maxStack
  · rw [if_neg (hfull.not.2 (not_not.2 hroom)), if_pos hroom, settled, ofFrame_cons hroom]
    rfl
  · rw [if_pos (hfull.2 hroom), if_neg hroom, settled, maxStack_ofFrame hf]

lemma pop_ofFrame (hf : f.depth ≤ f.maxStack) :
    (ofFrame f).pop = match f.pop with
      | .ok (v, f') => (ofFrame f', .ok v)
      | .error e => (ofFrame f, .error e) := by
  cases hs : f.stack with
  | nil =>
      have hdepth : (ofFrame f).depth = 0 := congrArg List.length hs
      rw [pop, if_pos hdepth, Frame.pop, hs]
  | cons v rest =>
      obtain ⟨f₀, hf₀, rfl⟩ := exists_cons hf hs
      obtain ⟨hlt, htop⟩ := List.getElem?_eq_some_iff.1 (getElem?_cells_ofFrame hf₀)
      have hcells : ((ofFrame f₀).cells.set f₀.numSlots v).set f₀.numSlots CellValue.top =
          (ofFrame f₀).cells := by
        rw [List.set_set, ← htop, List.set_getElem_self]
      have hvalue : ((ofFrame f₀).cells.set f₀.numSlots v).getD f₀.numSlots CellValue.top = v := by
        rw [List.getD_eq_getElem?_getD, List.getElem?_set_self hlt, Option.getD_some]
      have hslot : numSlots { ofFrame f₀ with
          cells := (ofFrame f₀).cells.set f₀.numSlots v, depth := f₀.depth + 1 } - 1 =
            f₀.numSlots := rfl
      rw [ofFrame_cons hf₀, pop, if_neg (Nat.succ_ne_zero _), hslot]
      simp only [hcells, hvalue]
      rfl

lemma popN_ofFrame (hf : f.depth ≤ f.maxStack) (count : Nat) :
    (ofFrame f).popN count = settled (f.dropCells count) (f.popN count) := by
  induction count generalizing f with
  | zero => rfl
  | succ count ih =>
      rw [popN, pop_ofFrame hf]
      cases hs : f.stack with
      | nil =>
          have hsame : f.dropCells (count + 1) = f := by
            rw [dropCells, hs, List.drop_nil, ← hs]
          have hdepth : f.depth = 0 := congrArg List.length hs
          rw [Frame.pop, hs, Frame.popN, hdepth, if_neg (Nat.not_succ_le_zero count), hsame]
          rfl
      | cons v rest =>
          obtain ⟨f₀, hf₀, rfl⟩ := exists_cons hf hs
          have hpop : Frame.popN { f₀ with stack := v :: f₀.stack } (count + 1) =
              f₀.popN count := by
            simp only [Frame.popN, Frame.depth, List.length_cons, Nat.add_le_add_iff_right]
            rfl
          rw [hpop]
          exact ih hf₀.le

/-- A live slot is written in its cell. -/
lemma set_cells_ofFrame {slot : Nat} (hslot : slot < f.numSlots) (v : V) :
    (ofFrame f).cells.set slot v =
      f.slots.set slot v ++ List.replicate (f.maxStack - f.depth) CellValue.top := by
  rw [← length_slots] at hslot
  exact List.set_append_left _ _ hslot

lemma setValue_ofFrame (f : Frame V) (slot : Nat) (v : V) :
    (ofFrame f).setValue slot v = settled f (f.setValue slot v) := by
  have hout : (ofFrame f).numSlots ≤ slot ↔ ¬ slot < f.numSlots := not_lt.symm
  rw [setValue, Frame.setValue]
  by_cases hslot : slot < f.numSlots
  · rw [if_neg (hout.not.2 (not_not.2 hslot)), set_cells_ofFrame hslot]
    by_cases hlocals : slot < f.numLocals
    · rw [if_pos hlocals, settled, ← slots_set_locals hlocals]
      simp [ofFrame, Frame.numLocals, Frame.depth]
    · rw [if_neg hlocals, if_pos hslot, settled, ← slots_set_stack hslot hlocals]
      simp [ofFrame, Frame.numLocals, Frame.depth]
  · have hlocals : ¬ slot < f.numLocals := fun h => hslot (Nat.lt_add_right _ h)
    rw [if_pos (hout.2 hslot), if_neg hlocals, if_neg hslot]
    rfl

lemma setLocal_ofFrame (f : Frame V) (index : Nat) (v : V) :
    (ofFrame f).setLocal index v = settled f (f.setLocal index v) := by
  have hout : (ofFrame f).numLocals ≤ index ↔ ¬ index < f.numLocals := not_lt.symm
  rw [setLocal, Frame.setLocal]
  by_cases hindex : index < f.numLocals
  · rw [if_neg (hout.not.2 (not_not.2 hindex)), if_pos hindex, settled,
      set_cells_ofFrame (Nat.lt_add_right _ hindex), ← slots_set_locals hindex]
    simp [ofFrame, Frame.numLocals, Frame.depth]
  · rw [if_pos (hout.2 hindex), if_neg hindex]
    rfl

lemma resetStackTo_ofFrame (hf : f.depth ≤ f.maxStack) (v : V) :
    (ofFrame f).resetStackTo v = settled f.clearStack (f.resetStackTo v) := by
  rw [resetStackTo, clearStack_ofFrame hf]
  exact push_ofFrame (Nat.zero_le _) v

lemma joinCells_ofFrame (hfits : f.Fitting other) :
    (ofFrame f).joinCells (ofFrame other) = ofFrame (f.joinCells other) := by
  have hslots : f.numSlots = other.numSlots := by
    rw [Frame.numSlots, Frame.numSlots, hfits.numLocals_eq, hfits.depth_eq]
  have hcells : (ofFrame f).numSlots = f.numSlots := rfl
  have htake : (ofFrame other).cells.take f.numSlots = other.slots := by
    rw [hslots, take_cells_ofFrame]
  rw [joinCells, hcells, take_cells_ofFrame, htake, drop_cells_ofFrame, ← slots_joinCells hfits]
  conv_rhs => rw [ofFrame, numLocals_joinCells hfits, depth_joinCells hfits]
  rfl

/-- A layout is the layout of one frame. -/
lemma ofFrame_inj (hf : f.depth ≤ f.maxStack) (hf' : f'.depth ≤ f'.maxStack) :
    ofFrame f = ofFrame f' ↔ f = f' := by
  refine ⟨fun h => ?_, congrArg ofFrame⟩
  rw [← toFrame_ofFrame hf, h, toFrame_ofFrame hf']

lemma mergeWith_ofFrame [DecidableEq V] (hf : f.depth ≤ f.maxStack)
    (ho : other.depth ≤ other.maxStack) :
    (ofFrame f).mergeWith (ofFrame other) = match f.mergeWith other with
      | .ok (f', changed) => (ofFrame f', .ok changed)
      | .error e => (ofFrame f, .error e) := by
  have hshape : (ofFrame f).cells.length ≠ (ofFrame other).cells.length ∨
      (ofFrame f).numLocals ≠ (ofFrame other).numLocals ↔
        f.numLocals ≠ other.numLocals ∨ f.maxStack ≠ other.maxStack := by
    have hlocals : ∀ f : Frame V, (ofFrame f).numLocals = f.numLocals := fun _ => rfl
    rw [length_cells_ofFrame hf, length_cells_ofFrame ho, hlocals, hlocals]
    omega
  have hdepth : ∀ f : Frame V, (ofFrame f).depth = f.depth := fun _ => rfl
  have hvalid : ∀ f : Frame V, (ofFrame f).valid = f.valid := fun _ => rfl
  rw [mergeWith, Frame.mergeWith, if_congr hshape rfl rfl, hvalid, hvalid, hdepth, hdepth]
  split_ifs with hother htop hdiffer hdeep
  · rfl
  · rfl
  · rfl
  · rfl
  · obtain ⟨hlocals, hmax⟩ := not_or.1 hdiffer
    have hfits : f.Fitting other := ⟨not_not.1 hlocals, not_not.1 hmax, not_not.1 hdeep⟩
    have hjoin : (f.joinCells other).depth ≤ (f.joinCells other).maxStack :=
      (depth_joinCells hfits).trans_le hf
    rw [joinCells_ofFrame hfits]
    simp only [ne_eq, ofFrame_inj hjoin hf]

/-! ### Sequences of operations -/

lemma answer_settled (left : Frame V) (out : Except Error (Frame V)) :
    answer (fun _ => .done) (settled left out) =
      (ofFrame (settle left out).1, (settle left out).2) := by
  cases out <;> rfl

variable [DecidableEq V]

/-- **An operation in place leaves the layout of the frame that it makes, and answers the same.** -/
theorem run_ofFrame (hf : f.Sized numLocals maxStack)
    (ho : ∀ l, o = .mergeWith l → ∃ other : Frame V, other.Sized numLocals maxStack ∧
      l = ofFrame other) :
    (o.toFrame.run f).1.Sized numLocals maxStack ∧
      o.run (ofFrame f) = (ofFrame (o.toFrame.run f).1, (o.toFrame.run f).2) := by
  have hsized : (o.toFrame.run f).1.Sized numLocals maxStack := by
    refine hf.run fun other hmerge => ?_
    obtain ⟨l, hl, rfl⟩ := toFrame_eq_mergeWith_iff.1 hmerge
    obtain ⟨other, hother, rfl⟩ := ho l hl
    rwa [toFrame_ofFrame hother.room]
  refine ⟨hsized, ?_⟩
  cases o with
  | setValid => exact congrArg (·, _) (setValid_ofFrame hf.room)
  | setTop => exact congrArg (·, _) (setTop_ofFrame hf.room)
  | push v => exact (congrArg _ (push_ofFrame hf.room v)).trans (answer_settled ..)
  | pop =>
      rw [Operation.run, pop_ofFrame hf.room]
      simp only [Operation.toFrame, Frame.Operation.run]
      cases f.pop <;> rfl
  | popN count => exact (congrArg _ (popN_ofFrame hf.room count)).trans (answer_settled ..)
  | setLocal index v => exact (congrArg _ (setLocal_ofFrame f index v)).trans (answer_settled ..)
  | setValue slot v => exact (congrArg _ (setValue_ofFrame f slot v)).trans (answer_settled ..)
  | clearStack => exact congrArg (·, _) (clearStack_ofFrame hf.room)
  | resetStackTo v => exact (congrArg _ (resetStackTo_ofFrame hf.room v)).trans (answer_settled ..)
  | setKnown => rfl
  | clearKnown => rfl
  | mergeWith l =>
      obtain ⟨other, hother, rfl⟩ := ho l rfl
      rw [Operation.run, mergeWith_ofFrame hf.room hother.room, Operation.toFrame,
        toFrame_ofFrame hother.room, Frame.Operation.run]
      cases f.mergeWith other <;> rfl

/-- What any sequence of operations leaves of a new layout, whether they are refused or not. -/
inductive Reached (numLocals maxStack : Nat) : Layout V → Prop
  | new : Reached numLocals maxStack (new numLocals maxStack)
  | run {l : Layout V} {o : Layout.Operation V} (hl : Reached numLocals maxStack l)
      (hother : ∀ other, o = .mergeWith other → Reached numLocals maxStack other) :
      Reached numLocals maxStack (o.run l).1

namespace Reached

/-- **A layout that is reached is the layout of a frame of its shape.** -/
theorem eq_ofFrame (h : Reached numLocals maxStack l) :
    ∃ f : Frame V, f.Sized numLocals maxStack ∧ l = ofFrame f := by
  induction h with
  | new => exact ⟨fresh numLocals maxStack, .fresh .., (ofFrame_fresh ..).symm⟩
  | run _ _ ih ihother =>
      obtain ⟨f, hf, rfl⟩ := ih
      obtain ⟨hsized, hrun⟩ := run_ofFrame hf ihother
      exact ⟨_, hsized, congrArg Prod.fst hrun⟩

/-- What an operation does to the cells is what it does to the contents. -/
theorem run_toFrame (h : Reached numLocals maxStack l)
    (hother : ∀ other, o = .mergeWith other → Reached numLocals maxStack other) :
    o.toFrame.run l.toFrame = ((o.run l).1.toFrame, (o.run l).2) := by
  obtain ⟨f, hf, rfl⟩ := h.eq_ofFrame
  obtain ⟨hsized, hrun⟩ := run_ofFrame hf fun l hl => (hother l hl).eq_ofFrame
  rw [hrun, toFrame_ofFrame hf.room, toFrame_ofFrame hsized.room]

/-- Nothing is left in a cell behind the live slots. -/
lemma eq_top (h : Reached numLocals maxStack l) {slot : Nat} {v : V} (hslot : l.numSlots ≤ slot)
    (hv : l.cells[slot]? = some v) : v = CellValue.top := by
  obtain ⟨f, -, rfl⟩ := h.eq_ofFrame
  have hbehind : f.slots.length ≤ slot := (length_slots f).trans_le hslot
  rw [ofFrame, List.getElem?_append_right hbehind] at hv
  exact List.eq_of_mem_replicate (List.mem_of_getElem? hv)

/-- Layouts that are reached are the same when their contents are. -/
lemma eq_iff_toFrame_eq {numLocals' maxStack' : Nat} (h : Reached numLocals maxStack l)
    (h' : Reached numLocals' maxStack' l') : l = l' ↔ l.toFrame = l'.toFrame := by
  obtain ⟨f, hf, rfl⟩ := h.eq_ofFrame
  obtain ⟨f', hf', rfl⟩ := h'.eq_ofFrame
  rw [toFrame_ofFrame hf.room, toFrame_ofFrame hf'.room, ofFrame_inj hf.room hf'.room]

end Reached

/-- **Frames in memory have one shape and one form.** Whatever sequence of operations has been run
on a new frame, and whether they were refused or not: it has the cells that it was made with, its
stack fits, and nothing is left in a cell behind the live slots. An atomic operation that is refused
leaves it as it is. Made top, it is as new. Two such frames are the same cells just when they have
the same room, and their variables, stacks, validity and known values are the same. What an operation
does to the cells is what it does to these contents. -/
theorem reached_contents (h : Reached numLocals maxStack l) :
    (l.numLocals = numLocals ∧ l.cells.length = numLocals + maxStack ∧ l.depth ≤ maxStack ∧
      ∀ slot v, l.numSlots ≤ slot → l.cells[slot]? = some v → v = CellValue.top) ∧
    (∀ (o : Layout.Operation V) (e : Error), o.Atomic → (o.run l).2 = .error e → (o.run l).1 = l) ∧
    l.setTop = new numLocals maxStack ∧
    (∀ numLocals' maxStack' l', Reached numLocals' maxStack' l' →
      (l = l' ↔ l.locals = l'.locals ∧ l.stack = l'.stack ∧ l.maxStack = l'.maxStack ∧
        l.valid = l'.valid ∧ l.known = l'.known)) ∧
    ∀ o : Layout.Operation V, (∀ other, o = .mergeWith other → Reached numLocals maxStack other) →
      o.toFrame.run l.toFrame = ((o.run l).1.toFrame, (o.run l).2) := by
  have hform : l.setTop = new numLocals maxStack ∧ l.numLocals = numLocals ∧
      l.cells.length = numLocals + maxStack ∧ l.depth ≤ maxStack := by
    obtain ⟨f, hf, rfl⟩ := h.eq_ofFrame
    rw [setTop_ofFrame hf.room, Frame.setTop, ofFrame_fresh, length_cells_ofFrame hf.room,
      hf.numLocals_eq, hf.maxStack_eq]
    exact ⟨rfl, hf.numLocals_eq, rfl, hf.depth_le⟩
  obtain ⟨hnew, hlocals, hcells, hdepth⟩ := hform
  refine ⟨⟨hlocals, hcells, hdepth, fun _ _ => h.eq_top⟩, fun _ _ => run_refused, hnew,
    fun _ _ l' h' => (h.eq_iff_toFrame_eq h').trans ?_, fun _ => h.run_toFrame⟩
  rw [toFrame, toFrame, Frame.mk.injEq, List.reverse_inj]

/-- One cell is on a stack that has room for one. Another push is refused and changes nothing, and
after a pop nothing is left of the value. -/
theorem reached_contents_fullStack :
    let l : Layout Nullity := ⟨[.top, .nonNullProven], 1, 1, true, .empty⟩
    let popped : Layout Nullity := ⟨[.top, .top], 1, 0, true, .empty⟩
    let push : Layout.Operation Nullity := .push .definitelyNull
    Reached 1 1 l ∧ push.run l = (l, .error (.frame (.stackOverflow 1))) ∧ l.setTop = new 1 1 ∧
      Operation.run l .pop = (popped, .ok (.value .nonNullProven)) ∧
      (l = popped ↔ l.stack = popped.stack) := by
  intro l popped push
  have hvalid : Reached 1 1 (Operation.run (new 1 1 : Layout Nullity) .setValid).1 :=
    .run .new nofun
  have hl : Reached 1 1 l := hvalid.run (o := .push .nonNullProven) nofun
  have hpopped : Reached 1 1 (Operation.run l .pop).1 := .run hl nofun
  obtain ⟨-, hrefused, htop, hsame, -⟩ := reached_contents hl
  have hpush : (push.run l).2 = .error (.frame (.stackOverflow 1)) := rfl
  have hkept : (push.run l).1 = l := hrefused push _ trivial hpush
  refine ⟨hl, Prod.ext hkept hpush, htop, rfl, (hsame 1 1 _ hpopped).trans ?_⟩
  decide

end Layout

end Frame

end Nullness
