import Mathlib.Tactic
import Nullness.Frame
import Nullness.Proofs.Dataflow

/-!
# Laws of abstract frames

* `Frame.merge_eq_ok_iff`, `Frame.merge_eq_error_iff`: which frames can be joined, and what comes out;
* `Frame.Below`: one valid frame says at least as much as another of its shape. Cells ascend, and
  known values ascend or are forgotten;
* `Frame.below_merge`: a join lies above the frames that are joined.
-/

namespace Nullness

/-! ### The order of cell values -/

section

variable {V : Type} [CellValue V]

/-- A value says at least as much as another. -/
def CellValue.Le (a b : V) : Prop := join a b = b

variable [LawfulCellValue V] {a b c : V}

namespace CellValue

lemma Le.refl (a : V) : Le a a := LawfulCellValue.join_self a

lemma Le.trans (h : Le a b) (h' : Le b c) : Le a c := by
  unfold Le at *
  rw [← h', ← LawfulCellValue.join_assoc, h]

lemma Le.antisymm (h : Le a b) (h' : Le b a) : a = b := by
  unfold Le at *
  rw [← h', LawfulCellValue.join_comm, h]

instance : Std.Refl (Le : V → V → Prop) := ⟨Le.refl⟩

lemma le_join_left (a b : V) : Le a (join a b) := by
  rw [Le, ← LawfulCellValue.join_assoc, LawfulCellValue.join_self]

lemma le_join_right (a b : V) : Le b (join a b) := by
  rw [LawfulCellValue.join_comm]
  exact le_join_left b a

end CellValue

end

namespace Frame

open CellValue

variable {V : Type} {f f' other : Frame V} {v : V}

/-! ### Cells -/

lemma topValue_eq_ok_iff : f.topValue = .ok v ↔ f.stack[0]? = some v := by
  unfold topValue stackValue
  split <;> simp_all

lemma stackValue_eq_ok_iff {fromTop : Nat} :
    f.stackValue fromTop = .ok v ↔ f.stack[fromTop]? = some v := by
  unfold stackValue
  split <;> simp_all

lemma localValue_eq_ok_iff {index : Nat} :
    f.localValue index = .ok v ↔ f.locals[index]? = some v := by
  unfold localValue
  split <;> simp_all

lemma setLocal_eq_ok_iff {index : Nat} :
    f.setLocal index v = .ok f' ↔
      index < f.numLocals ∧ f' = { f with locals := f.locals.set index v } := by
  unfold setLocal
  split
  · rename_i h
    simp [h, eq_comm]
  · rename_i h
    simp [h]

lemma pushN_eq_ok_iff {count : Nat} :
    f.pushN v count = .ok f' ↔ (count = 0 ∨ f.depth + count ≤ f.maxStack) ∧
      f' = { f with stack := List.replicate count v ++ f.stack } := by
  induction count generalizing f with
  | zero => simp [pushN, eq_comm]
  | succ count ih =>
      rw [pushN, bind_eq_ok_iff]
      simp only [push_eq_ok_iff, ih]
      constructor
      · rintro ⟨_, ⟨hroom, rfl⟩, hfit, rfl⟩
        refine ⟨.inr ?_, ?_⟩
        · simp only [depth, List.length_cons] at hroom hfit ⊢
          omega
        · simp [List.replicate_succ', List.append_assoc]
      · rintro ⟨hfit, rfl⟩
        refine ⟨_, ⟨?_, rfl⟩, ?_, ?_⟩
        · simp only [depth] at hfit ⊢
          omega
        · simp only [depth, List.length_cons] at hfit ⊢
          omega
        · simp [List.replicate_succ', List.append_assoc]

/-! ### Joins -/

section

variable [CellValue V] [DecidableEq V]

/-- Two valid frames have the same shape and depth. -/
structure Fitting (f other : Frame V) : Prop where
  numLocals_eq : f.numLocals = other.numLocals
  maxStack_eq : f.maxStack = other.maxStack
  depth_eq : f.depth = other.depth

lemma merge_eq_ok_iff : f.merge other = .ok f' ↔
    other.valid = false ∧ f = f' ∨ other.valid = true ∧ f.valid = false ∧ other = f' ∨
      other.valid = true ∧ f.valid = true ∧ f.Fitting other ∧ f.joinCells other = f' := by
  cases hother : other.valid with
  | false => simp [merge, mergeWith, hother, Except.map]
  | true =>
      cases hf : f.valid with
      | false => simp [merge, mergeWith, hother, hf, Except.map]
      | true =>
          simp only [merge, mergeWith, hother, hf, Bool.not_true, Bool.false_eq_true, if_false]
          by_cases hshape : f.numLocals ≠ other.numLocals ∨ f.maxStack ≠ other.maxStack
          · have hne : ¬ f.Fitting other := fun h => hshape.elim (· h.1) (· h.2)
            simp [hshape, hne, Except.map]
          · by_cases hdepth : f.depth ≠ other.depth
            · have hne : ¬ f.Fitting other := fun h => hdepth h.3
              simp [hshape, hdepth, hne, Except.map]
            · push Not at hshape hdepth
              have hfits : f.Fitting other := ⟨hshape.1, hshape.2, hdepth⟩
              simp [hshape, hdepth, hfits, Except.map]

/-- A join is refused when two valid frames do not fit. -/
lemma merge_succeeds (h : f.valid = true → other.valid = true → f.Fitting other) :
    ∃ f', f.merge other = .ok f' := by
  cases hother : other.valid with
  | false => exact ⟨f, merge_eq_ok_iff.2 (.inl ⟨hother, rfl⟩)⟩
  | true =>
      cases hf : f.valid with
      | false => exact ⟨other, merge_eq_ok_iff.2 (.inr (.inl ⟨hother, hf, rfl⟩))⟩
      | true =>
          exact ⟨_, merge_eq_ok_iff.2 (.inr (.inr ⟨hother, hf, h hf hother, rfl⟩))⟩

end

/-! ### The order of frames -/

/-- The frame knows a value of a class. -/
def Knows (f : Frame V) (n : Nat) : Prop := (f.knownValue? n).isSome = true

section

variable [CellValue V]

section

variable [LawfulCellValue V] {l l' l'' : List V}

lemma forall₂_le_trans (h : List.Forall₂ Le l l') (h' : List.Forall₂ Le l' l'') :
    List.Forall₂ Le l l'' := by
  induction h generalizing l'' with
  | nil => exact h'
  | cons hab _ ih =>
      cases h' with
      | cons hbc hrest => exact .cons (hab.trans hbc) (ih hrest)

lemma forall₂_zipWith_left (h : l.length = l'.length) :
    List.Forall₂ Le l (List.zipWith join l l') := by
  induction l generalizing l' with
  | nil => simp
  | cons a l ih =>
      cases l' with
      | nil => simp at h
      | cons b l' => exact .cons (le_join_left a b) (ih (by simpa using h))

lemma forall₂_zipWith_right (h : l.length = l'.length) :
    List.Forall₂ Le l' (List.zipWith join l l') := by
  have hcomm : List.zipWith join l l' = List.zipWith join l' l :=
    List.zipWith_comm_of_comm LawfulCellValue.join_comm
  rw [hcomm]
  exact forall₂_zipWith_left h.symm

end

/-- A valid frame lies above another one of its shape. -/
structure Below (f f' : Frame V) : Prop where
  valid : f'.valid = true
  maxStack_eq : f'.maxStack = f.maxStack
  locals : List.Forall₂ Le f.locals f'.locals
  stack : List.Forall₂ Le f.stack f'.stack
  known : ∀ n w, f'.knownValue? n = some w → ∃ v, f.knownValue? n = some v ∧ Le v w

namespace Below

lemma numLocals_eq (h : Below f f') : f'.numLocals = f.numLocals := h.locals.length_eq.symm

lemma depth_eq (h : Below f f') : f'.depth = f.depth := h.stack.length_eq.symm

lemma knows (h : Below f f') {n : Nat} (hn : f'.Knows n) : f.Knows n := by
  obtain ⟨w, hw⟩ := Option.isSome_iff_exists.1 hn
  obtain ⟨v, hv, -⟩ := h.known n w hw
  exact Option.isSome_iff_exists.2 ⟨v, hv⟩

variable [LawfulCellValue V]

lemma refl (h : f.valid = true) : Below f f :=
  ⟨h, rfl, List.forall₂_refl _, List.forall₂_refl _, fun _ w hw => ⟨w, hw, .refl w⟩⟩

lemma trans {f'' : Frame V} (h : Below f f') (h' : Below f' f'') : Below f f'' where
  valid := h'.valid
  maxStack_eq := h'.maxStack_eq.trans h.maxStack_eq
  locals := forall₂_le_trans h.locals h'.locals
  stack := forall₂_le_trans h.stack h'.stack
  known n w hw := by
    obtain ⟨v, hv, hvw⟩ := h'.known n w hw
    obtain ⟨u, hu, huv⟩ := h.known n v hv
    exact ⟨u, hu, huv.trans hvw⟩

end Below

variable [LawfulCellValue V]

/-- Frames of one shape lie below their join. -/
lemma below_joinCells (hf : f.valid = true) (h : f.Fitting other) :
    Below f (f.joinCells other) ∧ Below other (f.joinCells other) := by
  have hknown : ∀ n w, (f.joinCells other).knownValue? n = some w → ∃ u v,
      f.knownValue? n = some u ∧ other.knownValue? n = some v ∧ join u v = w := by
    intro n w hw
    rw [knownValue?, joinCells, SortedMap.get?_interWith] at hw
    obtain ⟨u, hu, hw⟩ := Option.bind_eq_some_iff.1 hw
    obtain ⟨v, hv, rfl⟩ := Option.map_eq_some_iff.1 hw
    exact ⟨u, v, hu, hv, rfl⟩
  constructor
  · refine ⟨hf, rfl, forall₂_zipWith_left h.numLocals_eq, forall₂_zipWith_left h.depth_eq, ?_⟩
    intro n w hw
    obtain ⟨u, v, hu, -, rfl⟩ := hknown n w hw
    exact ⟨u, hu, le_join_left u v⟩
  · refine ⟨hf, h.maxStack_eq, forall₂_zipWith_right h.numLocals_eq,
      forall₂_zipWith_right h.depth_eq, ?_⟩
    intro n w hw
    obtain ⟨u, v, -, hv, rfl⟩ := hknown n w hw
    exact ⟨v, hv, le_join_right u v⟩

/-- **A join lies above the frames that are joined.** -/
theorem below_merge [DecidableEq V] (h : f.merge other = .ok f') :
    (f.valid = true → Below f f') ∧ (other.valid = true → Below other f') := by
  rcases merge_eq_ok_iff.1 h with ⟨ho, rfl⟩ | ⟨ho, hf, rfl⟩ | ⟨ho, hf, hfits, rfl⟩
  · exact ⟨.refl, fun h => by simp [ho] at h⟩
  · exact ⟨fun h => by simp [hf] at h, .refl⟩
  · exact ⟨fun _ => (below_joinCells hf hfits).1, fun _ => (below_joinCells hf hfits).2⟩

end

end Frame

end Nullness
