import Mathlib.Tactic
import Nullness.Proofs.Execution
import Nullness.Proofs.Meaning
import Nullness.Proofs.Transfer

/-!
# What nullness frames say about states

A nullness value is read against a cell (`Nullity.Holds`), and a frame against a state under a
meaning of the value numbers (`Frame.Describes`): every slot is as its cell says, and so is the value
of every class of which the frame knows one.

* `Nullity.Holds.mono`, `Frame.Describes.below`: what holds of a fact holds of all facts above it;
* `NullModel.describes_tighten`: a class may be tightened once it is seen not to be null.
-/

namespace Nullness

open Machine

/-! ### Lists that are related cell by cell -/

section

variable {α β : Type} {R : α → β → Prop} {l : List α} {l' : List β}

lemma forall₂_getElem? (h : List.Forall₂ R l l') {i : Nat} {a : α} {x : β} (ha : l[i]? = some a)
    (hx : l'[i]? = some x) : R a x := by
  obtain ⟨hi, rfl⟩ := List.getElem?_eq_some_iff.1 ha
  obtain ⟨hi', rfl⟩ := List.getElem?_eq_some_iff.1 hx
  exact (List.forall₂_iff_get.1 h).2 i hi hi'

lemma forall₂_exists_left (h : List.Forall₂ R l l') {i : Nat} {x : β} (hx : l'[i]? = some x) :
    ∃ a, l[i]? = some a ∧ R a x := by
  obtain ⟨hi, -⟩ := List.getElem?_eq_some_iff.1 hx
  obtain ⟨a, ha⟩ : ∃ a, l[i]? = some a := ⟨_, List.getElem?_eq_getElem (h.length_eq ▸ hi)⟩
  exact ⟨a, ha, forall₂_getElem? h ha hx⟩

lemma forall₂_exists_right (h : List.Forall₂ R l l') {i : Nat} {a : α} (ha : l[i]? = some a) :
    ∃ x, l'[i]? = some x ∧ R a x := by
  obtain ⟨hi, -⟩ := List.getElem?_eq_some_iff.1 ha
  obtain ⟨x, hx⟩ : ∃ x, l'[i]? = some x := ⟨_, List.getElem?_eq_getElem (h.length_eq ▸ hi)⟩
  exact ⟨x, hx, forall₂_getElem? h ha hx⟩

lemma forall₂_of_getElem? (hlen : l.length = l'.length)
    (h : ∀ (i : Nat) a x, l[i]? = some a → l'[i]? = some x → R a x) : List.Forall₂ R l l' :=
  List.forall₂_iff_get.2 ⟨hlen, fun i hi hi' =>
    h i _ _ (List.getElem?_eq_getElem hi) (List.getElem?_eq_getElem hi')⟩

lemma forall₂_set (h : List.Forall₂ R l l') {a : α} {x : β} (ha : R a x) (i : Nat) :
    List.Forall₂ R (l.set i a) (l'.set i x) := by
  refine forall₂_of_getElem? (by simpa using h.length_eq) fun j c y hc hy => ?_
  rw [List.getElem?_set] at hc hy
  split at hc
  · rename_i heq
    rw [if_pos heq] at hy
    split at hc
    · split at hy
      · cases hc
        cases hy
        exact ha
      · cases hy
    · cases hc
  · rename_i hne
    rw [if_neg hne] at hy
    exact forall₂_getElem? h hc hy

end

/-! ### Values -/

/-- What a nullness value says of a cell holds. Of a cell without a value it says nothing, and of a
cell with a value something is known. -/
def Nullity.Holds (v : Nullity) (x : Cell) : Prop :=
  ∀ y, x = some y →
    v ≠ .top ∧ (v = .definitelyNull → y = .null) ∧ (v.isDefinitelyNotNull = true → y ≠ .null)

namespace Nullity

variable {v w : Nullity} {x : Cell}

lemma holds_none (v : Nullity) : v.Holds none := fun _ h => by cases h

lemma holds_null : definitelyNull.Holds (some .null) := by
  rintro y ⟨⟩
  simp [isDefinitelyNotNull]

lemma holds_of_ne_null (htop : v ≠ .top) (hnull : v ≠ .definitelyNull) (hx : x ≠ some .null) :
    v.Holds x := by
  rintro y rfl
  exact ⟨htop, fun h => absurd h hnull, fun _ h => hx (h ▸ rfl)⟩

lemma holds_of_isUndecided (h : v.isUndecided = true) : v.Holds x := by
  intro y _
  cases v <;> simp_all [isUndecided, isTop, isDefinitelyNull, isDefinitelyNotNull]

lemma Holds.ne_null (h : v.Holds x) (hv : v.isDefinitelyNotNull = true) : x ≠ some .null :=
  fun hx => (h _ hx).2.2 hv rfl

lemma Holds.eq_null (h : v.Holds x) (hv : v = .definitelyNull) (hx : x ≠ none) :
    x = some .null := by
  obtain ⟨y, rfl⟩ := Option.ne_none_iff_exists'.1 hx
  rw [(h y rfl).2.1 hv]

/-- What holds of a value holds of all values above it. -/
lemma Holds.mono (h : v.Holds x) (hle : CellValue.Le v w) : w.Holds x := by
  intro y hy
  have hv := h y hy
  have hle : v.join w = w := hle
  cases v <;> cases w <;> simp_all [Nullity.join, isDefinitelyNotNull, rank]

lemma holds_nullity {mark : NullMark} (h : mark = .nonNull → x ≠ some .null) :
    mark.nullity.Holds x := by
  cases mark with
  | nonNull => exact holds_of_ne_null (by decide) (by decide) (h rfl)
  | nullable | checkForNull | unknown => exact holds_of_isUndecided rfl

lemma Holds.suppressNull (h : v.Holds x) : (NullModel.suppressNull v).Holds x := by
  unfold NullModel.suppressNull
  split
  · exact holds_of_isUndecided rfl
  · exact h

end Nullity

/-! ### Frames -/

/-- Under a meaning of the value numbers, a frame says what is in the slots of a state and which
values the classes have. -/
structure Frame.Describes (f : NullFrame) (ν : Nat → Cell) (s : State Cell) : Prop where
  valid : f.valid = true
  locals : List.Forall₂ Nullity.Holds f.locals s.locals
  stack : List.Forall₂ Nullity.Holds f.stack s.stack
  known : ∀ n v, f.knownValue? n = some v → v.Holds (ν n)

namespace Frame.Describes

open Nullness.Frame

variable {f f' : NullFrame} {ν ν' : Nat → Cell} {s : State Cell} {v : Nullity} {x : Cell}

lemma numLocals_eq (h : f.Describes ν s) : f.numLocals = s.locals.length := h.locals.length_eq

lemma depth_eq (h : f.Describes ν s) : f.depth = s.stack.length := h.stack.length_eq

lemma slots (h : f.Describes ν s) : List.Forall₂ Nullity.Holds f.slots s.slots :=
  List.rel_append h.locals (List.rel_reverse h.stack)

/-- A frame may be read slot by slot. -/
lemma of_slots (hvalid : f.valid = true) (hlocals : f.numLocals = s.locals.length)
    (hslots : List.Forall₂ Nullity.Holds f.slots s.slots)
    (hknown : ∀ n v, f.knownValue? n = some v → v.Holds (ν n)) : f.Describes ν s := by
  have hf : f.locals.length = f.numLocals := rfl
  refine ⟨hvalid, ?_, ?_, hknown⟩
  · have h := List.forall₂_take f.numLocals hslots
    rwa [Frame.slots, State.slots, List.take_left' hf, List.take_left' hlocals.symm] at h
  · have h := List.forall₂_drop f.numLocals hslots
    rw [Frame.slots, State.slots, List.drop_left' hf, List.drop_left' hlocals.symm] at h
    exact List.forall₂_reverse_iff.1 h

/-- What holds of a frame holds of all frames above it. -/
lemma below (h : f.Describes ν s) (hbelow : Below f f') : f'.Describes ν s where
  valid := hbelow.valid
  locals := by
    refine forall₂_of_getElem? (hbelow.numLocals_eq.trans h.numLocals_eq) fun i w x hw hx => ?_
    obtain ⟨v, hv, hle⟩ := forall₂_exists_left hbelow.locals hw
    exact (forall₂_getElem? h.locals hv hx).mono hle
  stack := by
    refine forall₂_of_getElem? (hbelow.depth_eq.trans h.depth_eq) fun i w x hw hx => ?_
    obtain ⟨v, hv, hle⟩ := forall₂_exists_left hbelow.stack hw
    exact (forall₂_getElem? h.stack hv hx).mono hle
  known n w hw := by
    obtain ⟨v, hv, hle⟩ := hbelow.known n w hw
    exact (h.known n v hv).mono hle

/-- A meaning matters at the known classes only. -/
lemma congr (h : f.Describes ν s) (hν : ∀ n, f.Knows n → ν' n = ν n) : f.Describes ν' s where
  valid := h.valid
  locals := h.locals
  stack := h.stack
  known n v hv := hν n (by simp [Knows, hv]) ▸ h.known n v hv

lemma mapSlots {g : Nat → Nullity → Nullity} (h : f.Describes ν s)
    (hg : ∀ i v x, f.slots[i]? = some v → s.slots[i]? = some x → v.Holds x → (g i v).Holds x) :
    (f.mapSlots g).Describes ν s := by
  refine of_slots h.valid ((kept_mapSlots f g).numLocals_eq.trans h.numLocals_eq) ?_ h.known
  rw [slots_mapSlots]
  refine forall₂_of_getElem? (by rw [List.length_mapIdx]; exact h.slots.length_eq) ?_
  intro i w x hw hx
  rw [List.getElem?_mapIdx] at hw
  obtain ⟨v, hv, rfl⟩ := Option.map_eq_some_iff.1 hw
  exact hg i v x hv hx (forall₂_getElem? h.slots hv hx)

lemma mapKnown {g : Nullity → Nullity} (h : f.Describes ν s)
    (hg : ∀ v x, v.Holds x → (g v).Holds x) : (f.mapKnown g).Describes ν s where
  valid := h.valid
  locals := h.locals
  stack := h.stack
  known n w hw := by
    rw [knownValue?_mapKnown] at hw
    obtain ⟨v, hv, rfl⟩ := Option.map_eq_some_iff.1 hw
    exact hg v _ (h.known n v hv)

lemma setKnown {n : Nat} (h : f.Describes ν s) (hv : v.Holds (ν n)) :
    (f.setKnown n v).Describes ν s where
  valid := h.valid
  locals := h.locals
  stack := h.stack
  known n' w hw := by
    rw [knownValue?_setKnown] at hw
    split at hw
    · rename_i heq
      cases hw
      exact heq ▸ hv
    · exact h.known n' w hw

lemma clearKnown (h : f.Describes ν s) : f.clearKnown.Describes ν s where
  valid := h.valid
  locals := h.locals
  stack := h.stack
  known n w hw := by cases hw

/-- The stack may change together. -/
lemma withStack {stack : List Nullity} {cells : List Cell} (h : f.Describes ν s)
    (hstack : List.Forall₂ Nullity.Holds stack cells) :
    ({ f with stack } : NullFrame).Describes ν (s.withStack cells) where
  valid := h.valid
  locals := h.locals
  stack := hstack
  known := h.known

/-- The heap is not described. -/
lemma withHeap (h : f.Describes ν s) {s' : State Cell} (hlocals : s'.locals = s.locals)
    (hstack : s'.stack = s.stack) : f.Describes ν s' where
  valid := h.valid
  locals := hlocals ▸ h.locals
  stack := hstack ▸ h.stack
  known := h.known

lemma dropCells (h : f.Describes ν s) (count : Nat) :
    (f.dropCells count).Describes ν (s.withStack (s.stack.drop count)) :=
  h.withStack (List.forall₂_drop count h.stack)

/-- A local variable gets a value that holds of what it has. -/
lemma setLocal {slot : Nat} (h : f.Describes ν s) (hx : s.locals[slot]? = some x)
    (hv : v.Holds x) : ∃ f', f.setLocal slot v = .ok f' ∧ f'.Describes ν s := by
  obtain ⟨hlt, rfl⟩ := List.getElem?_eq_some_iff.1 hx
  refine ⟨_, setLocal_eq_ok_iff.2 ⟨h.numLocals_eq ▸ hlt, rfl⟩, h.valid, ?_, h.stack, h.known⟩
  have hset := forall₂_set h.locals hv slot
  rwa [List.set_getElem_self] at hset

end Frame.Describes

/-! ### Values that cannot be null -/

namespace NullModel

open Nullness.Frame

variable {f : NullFrame} {ν : Nat → Cell} {s : State Cell} {numbers : NumberedFrame} {number : Nat}

/-- The number of a slot means what the slot holds. -/
lemma meaning_slot (hm : numbers.Models ν s) {i : Nat} (hi : numbers.slot? i = some number) :
    s.slots[i]? = some (ν number) := by
  rw [← hm.slots_eq, List.getElem?_map, show numbers.slots[i]? = some number from hi]
  rfl

lemma meaning_stack (hm : numbers.Models ν s) {fromTop : Nat}
    (h : numbers.stackValue? fromTop = some number) : s.stack[fromTop]? = some (ν number) := by
  rw [← hm.stack, List.getElem?_map, show numbers.stack[fromTop]? = some number from h]
  rfl

/-- **A class may be tightened once it is seen not to be null.** -/
theorem describes_tighten (h : f.Describes ν s) (hm : numbers.Models ν s)
    (hne : ν number ≠ some .null) : (tighten numbers number f).Describes ν s := by
  have hguarded : Nullity.nonNullGuarded.Holds (ν number) :=
    Nullity.holds_of_ne_null (by decide) (by decide) hne
  have hcells : ∀ {f : NullFrame}, f.Describes ν s → (f.mapSlots fun i v =>
      if numbers.slot? i = some number && v.isUndecided then .nonNullGuarded else v).Describes ν s := by
    intro f h
    refine h.mapSlots fun i v x _ hx hv => ?_
    split
    · rename_i hi
      rw [Bool.and_eq_true, decide_eq_true_eq] at hi
      exact Option.some.inj ((meaning_slot hm hi.1).symm.trans hx) ▸ hguarded
    · exact hv
  unfold tighten
  split
  · exact hcells h
  · split
    · exact hcells h
    · exact hcells (h.setKnown hguarded)

/-- A class that is seen not to be null is not found to be null. -/
lemma classIsNull_eq_false (h : f.Describes ν s) (hm : numbers.Models ν s)
    (hne : ν number ≠ some .null) (hassigned : ν number ≠ none) :
    classIsNull numbers number f = false := by
  rw [classIsNull, Bool.or_eq_false_iff, decide_eq_false_iff_not, List.any_eq_false]
  refine ⟨fun hknown => hne ((h.known number _ hknown).eq_null rfl hassigned), ?_⟩
  rintro ⟨v, i⟩ hmem hi
  rw [Bool.and_eq_true, decide_eq_true_eq] at hi
  have hv : f.slots[i]? = some v := List.mem_zipIdx_iff_getElem?.1 hmem
  have hholds := forall₂_getElem? h.slots hv (meaning_slot hm hi.1)
  exact hne (hholds.eq_null (by simpa [Nullity.isDefinitelyNull] using hi.2) hassigned)

end NullModel

end Nullness
