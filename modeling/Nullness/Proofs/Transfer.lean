import Mathlib.Tactic
import Nullness.Analysis
import Nullness.Proofs.Frame
import Nullness.Proofs.Machine

/-!
# What instructions do to nullness frames

The shape of the frame after an instruction, and the classes whose values it may know. Values do not
matter here.

* `Frame.Kept`: a frame of the same shape that knows the value of no further class;
* `NullModel.Tightened`: classes are tightened one after the other;
* `NullModel.learned?`: the one class whose value an instruction may get to know;
* `NullModel.apply_applied`: **an instruction changes the depth by its effect, and at most one class
  becomes known.**
-/

namespace Nullness

/-- Moves values between the local variables and the stack, or drops one. -/
def Opcode.isMove : Opcode → Bool
  | .load _ | .store _ | .pop | .dup | .dupX1 | .swap => true
  | _ => false

namespace Frame

variable {V : Type} {f f' f'' : Frame V}

/-- A frame of the same shape that knows nothing of further classes. -/
structure Kept (f f' : Frame V) : Prop where
  valid_eq : f'.valid = f.valid
  numLocals_eq : f'.numLocals = f.numLocals
  depth_eq : f'.depth = f.depth
  maxStack_eq : f'.maxStack = f.maxStack
  known : ∀ n, f'.Knows n → f.Knows n

lemma Kept.refl (f : Frame V) : Kept f f := ⟨rfl, rfl, rfl, rfl, fun _ h => h⟩

lemma Kept.trans (h : Kept f f') (h' : Kept f' f'') : Kept f f'' where
  valid_eq := h'.valid_eq.trans h.valid_eq
  numLocals_eq := h'.numLocals_eq.trans h.numLocals_eq
  depth_eq := h'.depth_eq.trans h.depth_eq
  maxStack_eq := h'.maxStack_eq.trans h.maxStack_eq
  known n hn := h.known n (h'.known n hn)

lemma kept_mapSlots (f : Frame V) (g : Nat → V → V) : Kept f (f.mapSlots g) where
  valid_eq := rfl
  numLocals_eq := by simp [mapSlots, numLocals]
  depth_eq := by simp [mapSlots, depth]
  maxStack_eq := rfl
  known _ h := h

lemma knownValue?_mapKnown (f : Frame V) (g : V → V) (n : Nat) :
    (f.mapKnown g).knownValue? n = (f.knownValue? n).map g := by
  simp only [knownValue?, mapKnown, SortedMap.mapValues, SortedMap.get?_filterMap]
  cases f.known.get? n <;> rfl

lemma kept_mapKnown (f : Frame V) (g : V → V) : Kept f (f.mapKnown g) where
  valid_eq := rfl
  numLocals_eq := rfl
  depth_eq := rfl
  maxStack_eq := rfl
  known n h := by simpa [Knows, knownValue?_mapKnown] using h

lemma knownValue?_setKnown (f : Frame V) (n n' : Nat) (v : V) :
    (f.setKnown n v).knownValue? n' = if n' = n then some v else f.knownValue? n' :=
  SortedMap.get?_insert ..

lemma knows_setKnown {n n' : Nat} {v : V} : (f.setKnown n v).Knows n' ↔ n' = n ∨ f.Knows n' := by
  rw [Knows, knownValue?_setKnown]
  split <;> simp_all [Knows]

/-- Another value of a class that is known already. -/
lemma kept_setKnown {n : Nat} (v : V) (h : f.Knows n) : Kept f (f.setKnown n v) where
  valid_eq := rfl
  numLocals_eq := rfl
  depth_eq := rfl
  maxStack_eq := rfl
  known _ h' := (knows_setKnown.1 h').elim (· ▸ h) id

lemma kept_setLocal {index : Nat} {v : V} (h : f.setLocal index v = .ok f') : Kept f f' := by
  obtain ⟨-, rfl⟩ := setLocal_eq_ok_iff.1 h
  exact ⟨rfl, by simp [numLocals], rfl, rfl, fun _ h => h⟩

/-! ### Moving values -/

/-- What an instruction that moves values does to a frame. -/
inductive Moved : Opcode → Frame V → Frame V → Prop
  | load {f : Frame V} {slot : Nat} {v : V} (hv : f.locals[slot]? = some v)
      (hroom : f.depth < f.maxStack) : Moved (.load slot) f { f with stack := v :: f.stack }
  | store {f : Frame V} {slot : Nat} {v : V} {rest : List V} (hs : f.stack = v :: rest)
      (hslot : slot < f.numLocals) :
      Moved (.store slot) f { f with locals := f.locals.set slot v, stack := rest }
  | pop {f : Frame V} {v : V} {rest : List V} (hs : f.stack = v :: rest) :
      Moved .pop f { f with stack := rest }
  | dup {f : Frame V} {v : V} {rest : List V} (hs : f.stack = v :: rest)
      (hroom : f.depth < f.maxStack) : Moved .dup f { f with stack := v :: v :: rest }
  | dupX1 {f : Frame V} {v w : V} {rest : List V} (hs : f.stack = v :: w :: rest)
      (hroom : f.depth < f.maxStack) : Moved .dupX1 f { f with stack := v :: w :: v :: rest }
  | swap {f : Frame V} {v w : V} {rest : List V} (hs : f.stack = v :: w :: rest)
      (hroom : f.depth ≤ f.maxStack) : Moved .swap f { f with stack := w :: v :: rest }

lemma Moved.known_eq {op : Opcode} (h : Moved op f f') : f'.known = f.known := by
  cases h <;> rfl

end Frame

section

variable [DescriptorReader] {call : CallSite} {d : MethodDescriptor}

/-! ### Calls with a readable descriptor -/

lemma CallSite.consumed_eq_ok_iff {count : Nat} : call.consumed = .ok count ↔
    ∃ d, MethodDescriptor.parse call.descriptor = .ok d ∧
      d.parameters.length + call.receivers = count := by
  simp only [CallSite.consumed, CallSite.parameterCount, bind_eq_ok_iff, pure_eq_ok_iff]
  constructor
  · rintro ⟨_, ⟨d, hd, rfl⟩, h⟩
    exact ⟨d, hd, h⟩
  · rintro ⟨d, hd, h⟩
    exact ⟨_, ⟨d, hd, rfl⟩, h⟩

lemma CallSite.parameterCount_eq (hd : MethodDescriptor.parse call.descriptor = .ok d) :
    call.parameterCount = .ok d.parameters.length := by
  rw [CallSite.parameterCount, hd]; rfl

lemma CallSite.returnKind_eq (hd : MethodDescriptor.parse call.descriptor = .ok d) :
    call.returnKind = .ok d.returnKind := by
  rw [CallSite.returnKind, hd]; rfl

lemma Opcode.effect_invoke (hd : MethodDescriptor.parse call.descriptor = .ok d) :
    (Opcode.invoke call).effect = .ok ⟨d.parameters.length + call.receivers,
      if d.returnKind = .void then 0 else 1⟩ := by
  rw [Opcode.effect, hd]
  cases h : d.returnKind <;> simp [bind, Except.bind, pure, Except.pure, h]

end

/-- The frame that a modelled instruction leaves. -/
def Yields (x : Except Error Modeled) (f : NullFrame) : Prop := ∃ slot, x = .ok ⟨f, slot⟩

lemma yields_ok {out : Modeled} {f : NullFrame} : Yields (.ok out) f ↔ out.frame = f := by
  constructor
  · rintro ⟨slot, h⟩
    cases h
    rfl
  · rintro rfl
    exact ⟨out.newNull, rfl⟩

lemma yields_bind {α : Type} {x : Except Error α} {k : α → Except Error Modeled} {f : NullFrame} :
    Yields (x >>= k) f ↔ ∃ a, x = .ok a ∧ Yields (k a) f := by
  simp only [Yields, bind_eq_ok_iff]
  exact ⟨fun ⟨slot, a, ha, hk⟩ => ⟨a, ha, slot, hk⟩, fun ⟨a, ha, slot, hk⟩ => ⟨slot, a, ha, hk⟩⟩

namespace NullModel

open Nullness.Frame

variable {g : FlowGraph} {m : NullModel g} {b : g.Node} {index : Nat} {op : Opcode}
  {f f' : NullFrame} {v : Nullity}

lemma yields_unremarkable {x : Except Error NullFrame} : Yields (unremarkable x) f ↔ x = .ok f := by
  rw [unremarkable, yields_bind]
  constructor
  · rintro ⟨_, rfl, h⟩
    exact congrArg _ (yields_ok.1 h)
  · rintro rfl
    exact ⟨f, rfl, yields_ok.2 rfl⟩

/-- An instruction that moves values does nothing else. -/
lemma moved_of_yields [DescriptorReader] (hmove : op.isMove = true)
    (h : Yields (m.applyOp b index op f) f') :
    Moved op f f' := by
  cases op with
  | load slot =>
      have h := yields_unremarkable.1 h
      simp only [bind_eq_ok_iff, localValue_eq_ok_iff, push_eq_ok_iff] at h
      obtain ⟨v, hv, hroom, rfl⟩ := h
      exact .load hv hroom
  | store slot =>
      have h := yields_unremarkable.1 h
      simp only [bind_eq_ok_iff, Prod.exists, pop_eq_ok_iff, setLocal_eq_ok_iff] at h
      obtain ⟨v, _, ⟨rest, hs, rfl⟩, hslot, rfl⟩ := h
      exact .store hs hslot
  | pop =>
      obtain ⟨hcount, rfl⟩ := popN_eq_ok_iff.1 (yields_unremarkable.1 h)
      obtain ⟨v, rest, hs⟩ := List.exists_cons_of_length_pos hcount
      rw [dropCells, hs]
      exact .pop hs
  | dup =>
      have h := yields_unremarkable.1 h
      simp only [bind_eq_ok_iff, topValue_eq_ok_iff, push_eq_ok_iff] at h
      obtain ⟨v, hv, hroom, rfl⟩ := h
      cases hs : f.stack with
      | nil => simp [hs] at hv
      | cons w rest =>
          obtain rfl : w = v := by simpa [hs] using hv
          exact .dup hs hroom
  | dupX1 =>
      have h := yields_unremarkable.1 h
      simp only [bind_eq_ok_iff, Prod.exists, pop_eq_ok_iff, push_eq_ok_iff] at h
      obtain ⟨v, _, ⟨_, hs, rfl⟩, w, _, ⟨rest, rfl, rfl⟩, h⟩ := h
      obtain ⟨_, ⟨-, rfl⟩, _, ⟨-, rfl⟩, hroom, rfl⟩ := h
      exact .dupX1 hs (by simpa [depth, hs] using hroom)
  | swap =>
      have h := yields_unremarkable.1 h
      simp only [bind_eq_ok_iff, Prod.exists, pop_eq_ok_iff, push_eq_ok_iff] at h
      obtain ⟨v, _, ⟨_, hs, rfl⟩, w, _, ⟨rest, rfl, rfl⟩, _, ⟨-, rfl⟩, hroom, rfl⟩ := h
      exact .swap hs (by simpa [depth, hs] using hroom)
  | _ => cases hmove

/-- Values can be moved where there is room for them. -/
lemma yields_of_moved [DescriptorReader] (h : Moved op f f') : Yields
    (m.applyOp b index op f) f' := by
  cases h with
  | load hv hroom =>
      exact yields_unremarkable.2 (bind_eq_ok_iff.2
        ⟨_, localValue_eq_ok_iff.2 hv, push_eq_ok_iff.2 ⟨hroom, rfl⟩⟩)
  | store hs hslot =>
      exact yields_unremarkable.2 (bind_eq_ok_iff.2
        ⟨(_, _), pop_eq_ok_iff.2 ⟨_, hs, rfl⟩, setLocal_eq_ok_iff.2 ⟨hslot, rfl⟩⟩)
  | pop hs =>
      have hcount : 1 ≤ f.depth := by simp [depth, hs]
      exact yields_unremarkable.2 (popN_eq_ok_iff.2 ⟨hcount, by rw [dropCells, hs]; rfl⟩)
  | dup hs hroom =>
      exact yields_unremarkable.2 (bind_eq_ok_iff.2
        ⟨_, topValue_eq_ok_iff.2 (by rw [hs]; rfl), push_eq_ok_iff.2 ⟨hroom, by rw [hs]⟩⟩)
  | dupX1 hs hroom =>
      simp only [depth, hs, List.length_cons] at hroom
      refine yields_unremarkable.2 ?_
      simp only [bind_eq_ok_iff, Prod.exists, pop_eq_ok_iff, push_eq_ok_iff, depth]
      refine ⟨_, _, ⟨_, hs, rfl⟩, _, _, ⟨_, rfl, rfl⟩, _, ⟨?_, rfl⟩, _, ⟨?_, rfl⟩, ?_, rfl⟩
      all_goals
        simp only [List.length_cons]
        omega
  | swap hs hroom =>
      simp only [depth, hs, List.length_cons] at hroom
      refine yields_unremarkable.2 ?_
      simp only [bind_eq_ok_iff, Prod.exists, pop_eq_ok_iff, push_eq_ok_iff, depth]
      refine ⟨_, _, ⟨_, hs, rfl⟩, _, _, ⟨_, rfl, rfl⟩, _, ⟨?_, rfl⟩, ?_, rfl⟩
      all_goals
        simp only [List.length_cons]
        omega

/-! ### Values that are produced and remembered -/

/-- The frame with a produced value on the stack, which is the known value of its class from then
on. -/
def withResult (m : NullModel g) (b : g.Node) (index : Nat) (f : NullFrame) (v : Nullity) :
    NullFrame :=
  match m.resultNumber? b index with
  | none => { f with stack := v :: f.stack }
  | some number => { f with stack := v :: f.stack }.setKnown number v

lemma yields_produce :
    Yields (m.produce b index f v) f' ↔ f.depth < f.maxStack ∧ m.withResult b index f v = f' := by
  rw [produce, yields_bind]
  simp only [push_eq_ok_iff]
  constructor
  · rintro ⟨_, ⟨hroom, rfl⟩, h⟩
    refine ⟨hroom, Eq.trans ?_ (yields_ok.1 h)⟩
    unfold withResult
    cases m.resultNumber? b index <;> rfl
  · rintro ⟨hroom, h⟩
    refine ⟨_, ⟨hroom, rfl⟩, yields_ok.2 (Eq.trans ?_ h)⟩
    unfold withResult
    cases m.resultNumber? b index <;> rfl

/-- The class of the stored value that a load finds after a store. -/
def storedNumber? (m : NullModel g) (b : g.Node) (index : Nat) (load : Option (Load Nat)) :
    Option Nat :=
  if m.config.trackValueNumbers then
    load.bind fun l => (m.numbers.factAfter? b index).bind (·.available? l)
  else none

lemma remember_eq (load : Option (Load Nat)) : m.remember b index load v f =
    match m.storedNumber? b index load with
    | none => f
    | some number => f.setKnown number v := by
  unfold remember storedNumber?
  split <;> rfl

/-- The load of the cell that a store has written. -/
def storedLoad? (m : NullModel g) (b : g.Node) (index : Nat) : Opcode → Option (Load Nat)
  | .putField field => (m.operand? b index 1).map fun reference => .field (some reference) field
  | .putStatic field => some (.field none field)
  | .arrayStore => (m.operand? b index 2).bind fun array =>
      (m.operand? b index 1).map fun position => .element array position
  | _ => none

/-- The class whose value an instruction may get to know. -/
def learned? (m : NullModel g) (b : g.Node) (index : Nat) (op : Opcode) : Option Nat :=
  match op with
  | .putField _ | .putStatic _ | .arrayStore => m.storedNumber? b index (m.storedLoad? b index op)
  | _ => m.resultNumber? b index

/-! ### Values that cannot be null -/

lemma kept_tighten (numbers : NumberedFrame) (number : Nat) (f : NullFrame) :
    Kept f (tighten numbers number f) := by
  unfold tighten
  split
  · exact kept_mapSlots f _
  · rename_i v hv
    have hknows : f.Knows number := by simp [Knows, hv]
    split
    · exact kept_mapSlots f _
    · exact (kept_setKnown _ hknows).trans (kept_mapSlots _ _)

/-- Classes have been tightened one after the other. -/
def Tightened : NullFrame → NullFrame → Prop :=
  Relation.ReflTransGen fun f f' => ∃ numbers number, tighten numbers number f = f'

lemma Tightened.kept (h : Tightened f f') : Kept f f' := by
  induction h with
  | refl => exact .refl f
  | tail _ hstep ih =>
      obtain ⟨numbers, number, rfl⟩ := hstep
      exact ih.trans (kept_tighten numbers number _)

lemma tightened_guardEach {before : NumberedFrame} {count : Nat} {arguments : List Nat}
    (h : arguments.foldlM (guardArgument before count) f = some f') : Tightened f f' := by
  induction arguments generalizing f with
  | nil =>
      obtain rfl : f = f' := by simpa using h
      exact .refl
  | cons argument arguments ih =>
      rw [List.foldlM_cons] at h
      obtain ⟨f₁, hfirst, hrest⟩ := Option.bind_eq_some_iff.1 h
      refine Relation.ReflTransGen.trans ?_ (ih hrest)
      unfold guardArgument at hfirst
      split at hfirst
      · cases hfirst
        exact .refl
      · split at hfirst
        · cases hfirst
        · cases hfirst
          exact .single ⟨before, _, rfl⟩

lemma tightened_guardArguments [DescriptorReader] {call : CallSite} {targets : List MethodId}
    (h : m.guardArguments b index call targets f = .ok (some f')) : Tightened f f' := by
  unfold guardArguments at h
  simp only at h
  split at h
  · obtain rfl : f = f' := by simpa using h
    exact .refl
  split at h
  · obtain rfl : f = f' := by simpa using h
    exact .refl
  · obtain ⟨count, -, hfold⟩ := bind_eq_ok_iff.1 h
    exact tightened_guardEach (pure_eq_ok_iff.1 hfold)

lemma kept_applySummary [DescriptorReader] {call : CallSite} {targets : List MethodId}
    (h : m.applySummary b index call targets f = .ok f') : Kept f f' := by
  unfold applySummary at h
  split at h
  · cases h
    exact .refl f
  · obtain ⟨consumed, -, h⟩ := bind_eq_ok_iff.1 h
    split at h
    · unfold guardBeforeThrower at h
      simp only at h
      split at h
      · cases h
        exact .refl f
      · exact kept_setLocal h
    · cases h
      exact .refl f
  · rename_i parameters _
    obtain ⟨consumed, -, h⟩ := bind_eq_ok_iff.1 h
    split at h
    · cases h
      exact .refl f
    · refine foldlM_ok (P := fun x => Kept f x) ?_ (.refl f) h
      rintro ⟨slot, distance⟩ - x x' hx hstep
      simp only at hstep
      split at hstep
      · exact hx.trans (kept_setLocal hstep)
      · cases hstep
        exact hx

lemma tightened_afterDereference (number : Option Nat) (f : NullFrame) :
    Tightened f (m.afterDereference b index number f) := by
  unfold afterDereference
  split
  · exact .single ⟨_, _, rfl⟩
  · exact .refl

lemma kept_afterAssertion (op : Opcode) (f : NullFrame) : Kept f (m.afterAssertion op f) := by
  unfold afterAssertion
  split
  · split
    · exact (kept_mapSlots f _).trans (kept_mapKnown _ _)
    · exact .refl f
  · exact .refl f

/-! ### Instructions -/

variable [DescriptorReader]

/-- The effect of an instruction on the shape of a frame and on the classes that it knows. -/
structure Applied (m : NullModel g) (b : g.Node) (index : Nat) (op : Opcode) (f f' : NullFrame) :
    Prop where
  valid_eq : f'.valid = f.valid
  numLocals_eq : f'.numLocals = f.numLocals
  maxStack_eq : f'.maxStack = f.maxStack
  effect : ∃ effect, op.effect = .ok effect ∧ effect.pops ≤ f.depth ∧
    f'.depth + effect.pops = f.depth + effect.pushes
  room : f'.depth ≤ f.depth ∨ f'.depth ≤ f.maxStack
  known : ∀ n, f'.Knows n → f.Knows n ∨ m.learned? b index op = some n

lemma Applied.of_kept_left {f₀ : NullFrame} (h : Kept f f₀) (h' : Applied m b index op f₀ f') :
    Applied m b index op f f' where
  valid_eq := h'.valid_eq.trans h.valid_eq
  numLocals_eq := h'.numLocals_eq.trans h.numLocals_eq
  maxStack_eq := h'.maxStack_eq.trans h.maxStack_eq
  effect := h.depth_eq ▸ h'.effect
  room := h.depth_eq ▸ h.maxStack_eq ▸ h'.room
  known n hn := (h'.known n hn).imp_left (h.known n)

lemma Applied.of_kept_right {f₀ : NullFrame} (h : Applied m b index op f f₀) (h' : Kept f₀ f') :
    Applied m b index op f f' where
  valid_eq := h'.valid_eq.trans h.valid_eq
  numLocals_eq := h'.numLocals_eq.trans h.numLocals_eq
  maxStack_eq := h'.maxStack_eq.trans h.maxStack_eq
  effect := by simpa only [h'.depth_eq] using h.effect
  room := by simpa only [h'.depth_eq] using h.room
  known n hn := h.known n (h'.known n hn)

/-- Cells are taken and a value is produced. -/
lemma applied_withResult {count : Nat} (heffect : op.effect = .ok ⟨count, 1⟩)
    (hlearned : m.learned? b index op = m.resultNumber? b index) (hcount : count ≤ f.depth)
    (hroom : (f.dropCells count).depth < f.maxStack) :
    Applied m b index op f (m.withResult b index (f.dropCells count) v) := by
  unfold withResult
  cases hn : m.resultNumber? b index with
  | none =>
      refine ⟨rfl, rfl, rfl, ⟨_, heffect, hcount, ?_⟩, .inr hroom, fun n h => .inl h⟩
      simp only [depth, dropCells, List.length_cons, List.length_drop] at hcount ⊢
      omega
  | some number =>
      refine ⟨rfl, rfl, rfl, ⟨_, heffect, hcount, ?_⟩, .inr hroom, fun n h => ?_⟩
      · simp only [depth, setKnown, dropCells, List.length_cons, List.length_drop] at hcount ⊢
        omega
      · rcases knows_setKnown.1 h with rfl | h
        · exact .inr (hlearned.trans hn)
        · exact .inl h

/-- Cells are taken and others are left, about which nothing is learned. -/
lemma applied_stack {effect : StackEffect} {stack : List Nullity} (heffect : op.effect = .ok effect)
    (hpops : effect.pops ≤ f.depth)
    (hdepth : stack.length + effect.pops = f.depth + effect.pushes)
    (hroom : stack.length ≤ f.depth ∨ stack.length ≤ f.maxStack) :
    Applied m b index op f { f with stack } :=
  ⟨rfl, rfl, rfl, ⟨effect, heffect, hpops, hdepth⟩, hroom, fun _ h => .inl h⟩

lemma applied_moved (h : Moved op f f') : Applied m b index op f f' := by
  cases h with
  | load _ hroom => exact applied_stack rfl (Nat.zero_le _) rfl (.inr hroom)
  | store hs =>
      exact ⟨rfl, by simp [numLocals], rfl, ⟨_, rfl, by simp [depth, hs], by simp [depth, hs]⟩,
        .inl (by simp [depth, hs]), fun _ h => .inl h⟩
  | pop hs =>
      exact applied_stack rfl (by simp [depth, hs]) (by simp [depth, hs]) (.inl (by simp [depth, hs]))
  | dup hs hroom | dupX1 hs hroom =>
      rw [depth, hs] at hroom
      exact applied_stack rfl (by simp [depth, hs]) (by simp [depth, hs]) (.inr hroom)
  | swap hs =>
      exact applied_stack rfl (by simp [depth, hs]) (by simp [depth, hs]) (.inl (by simp [depth, hs]))

/-- A stored value is remembered. -/
lemma applied_remember {count : Nat} (heffect : op.effect = .ok ⟨count, 0⟩)
    (hlearned : m.learned? b index op = m.storedNumber? b index (m.storedLoad? b index op))
    (hcount : count ≤ f.depth) : Applied m b index op f
      (m.remember b index (m.storedLoad? b index op) v (f.dropCells count)) := by
  have hshrinks : (f.dropCells count).depth ≤ f.depth := by simp [depth, dropCells]
  rw [remember_eq]
  cases hn : m.storedNumber? b index (m.storedLoad? b index op) with
  | none =>
      refine ⟨rfl, rfl, rfl, ⟨_, heffect, hcount, ?_⟩, .inl hshrinks, fun n h => .inl h⟩
      simp only [depth, dropCells, List.length_drop] at hcount ⊢
      omega
  | some number =>
      refine ⟨rfl, rfl, rfl, ⟨_, heffect, hcount, ?_⟩, .inl hshrinks, fun n h => ?_⟩
      · simp only [depth, setKnown, dropCells, List.length_drop] at hcount ⊢
        omega
      · rcases knows_setKnown.1 h with rfl | h
        · exact .inr (hlearned.trans hn)
        · exact .inl h

lemma applied_produce {count : Nat} (heffect : op.effect = .ok ⟨count, 1⟩)
    (hlearned : m.learned? b index op = m.resultNumber? b index)
    (h : Yields (do m.produce b index (← f.popN count) v) f') : Applied m b index op f f' := by
  obtain ⟨_, hpop, h⟩ := yields_bind.1 h
  obtain ⟨hcount, rfl⟩ := popN_eq_ok_iff.1 hpop
  obtain ⟨hroom, rfl⟩ := yields_produce.1 h
  exact applied_withResult heffect hlearned hcount hroom

/-- Cells are taken, and a value that is not produced is left. -/
lemma applied_unknown {count : Nat} {f₀ : NullFrame} (heffect : op.effect = .ok ⟨count, 1⟩)
    (hpop : f.popN count = .ok f₀) (h : Yields (do return ⟨← f₀.push v, none⟩) f') :
    Applied m b index op f f' := by
  obtain ⟨f₁, hpush, h⟩ := yields_bind.1 h
  obtain rfl : f₁ = f' := yields_ok.1 h
  obtain ⟨hcount, rfl⟩ := popN_eq_ok_iff.1 hpop
  obtain ⟨hroom, rfl⟩ := push_eq_ok_iff.1 hpush
  refine applied_stack heffect hcount ?_ (.inr hroom)
  simp only [depth, dropCells, List.length_cons, List.length_drop] at hcount ⊢
  omega

omit [DescriptorReader] in
/-- What is pushed for a field: the known value of the load, or else one that depends on the field, which
is either produced or pushed without a claim. -/
lemma loadField_cases {isStatic : Bool} {field : FieldRef} {out : Modeled}
    (h : m.loadField b index isStatic field f = .ok out) :
    ∃ popped, f.popN (if isStatic then 0 else 1) = .ok popped ∧
      ((∃ v, m.produce b index popped v = .ok out ∧
          ∀ known, m.knownResult? b index f = some known → v = known) ∨
        m.knownResult? b index f = none ∧
          (do return ⟨← popped.push .nonNullSilent, none⟩) = Except.ok out) := by
  obtain ⟨popped, hpop, h⟩ := bind_eq_ok_iff.1 h
  refine ⟨popped, hpop, ?_⟩
  split at h
  · rename_i known hknown
    exact .inl ⟨known, h, fun v hv => Option.some.inj (hknown.symm.trans hv)⟩
  · rename_i hnone
    have produced : ∀ {v}, m.produce b index popped v = .ok out →
        ∃ v, m.produce b index popped v = .ok out ∧
          ∀ known, m.knownResult? b index f = some known → v = known :=
      fun h => ⟨_, h, fun known hknown => by cases hnone.symm.trans hknown⟩
    unfold readField at h
    simp only at h
    split at h
    · exact .inr ⟨hnone, h⟩
    split at h
    · exact .inl (produced h)
    split at h
    · exact .inl (produced h)
    · exact .inl (produced h)
    · exact .inr ⟨hnone, h⟩
    · exact .inr ⟨hnone, h⟩

lemma applied_loadField {isStatic : Bool} {field : FieldRef}
    (heffect : op.effect = .ok ⟨if isStatic then 0 else 1, 1⟩)
    (hlearned : m.learned? b index op = m.resultNumber? b index)
    (h : Yields (m.loadField b index isStatic field f) f') : Applied m b index op f f' := by
  obtain ⟨slot, h⟩ := h
  obtain ⟨popped, hpop, ⟨v, h, -⟩ | ⟨-, h⟩⟩ := loadField_cases h
  · exact applied_produce heffect hlearned (yields_bind.2 ⟨popped, hpop, slot, h⟩)
  · exact applied_unknown heffect hpop ⟨slot, h⟩

lemma applied_applyEffect (h : applyEffect op f = .ok f') : Applied m b index op f f' := by
  obtain ⟨effect, heffect, h⟩ := bind_eq_ok_iff.1 h
  obtain ⟨_, hpop, h⟩ := bind_eq_ok_iff.1 h
  obtain ⟨hpops, rfl⟩ := popN_eq_ok_iff.1 hpop
  obtain ⟨hroom, rfl⟩ := pushN_eq_ok_iff.1 h
  refine applied_stack heffect hpops ?_ ?_
  all_goals
    simp only [depth, dropCells, List.length_append, List.length_replicate, List.length_drop]
      at hpops hroom ⊢
    omega

/-- A call that has found no argument wrong. -/
lemma applied_finishCall {call : CallSite} {targets : List MethodId}
    (h : Yields (m.finishCall b index call targets f) f') :
    Applied m b index (.invoke call) f f' := by
  obtain ⟨consumed, hconsumed, h⟩ := yields_bind.1 h
  obtain ⟨popped, hpop, h⟩ := yields_bind.1 h
  obtain ⟨kind, hkind, h⟩ := yields_bind.1 h
  obtain ⟨d, hd, rfl⟩ := CallSite.consumed_eq_ok_iff.1 hconsumed
  have heffect := Opcode.effect_invoke hd
  obtain rfl : d.returnKind = kind := by
    simpa [CallSite.returnKind_eq hd] using hkind
  split at h
  · rename_i hk
    rw [hk] at heffect
    exact applied_produce heffect rfl (yields_bind.2 ⟨popped, hpop, h⟩)
  · rename_i hk
    rw [hk] at heffect
    exact applied_unknown heffect hpop h
  · rename_i hk
    rw [hk, if_pos rfl] at heffect
    obtain rfl : popped = f' := yields_ok.1 h
    obtain ⟨hpops, rfl⟩ := popN_eq_ok_iff.1 hpop
    refine applied_stack heffect hpops ?_ (.inl ?_)
    all_goals
      simp only [depth, List.length_drop] at hpops ⊢
      omega

/-- The frame with the arguments of a call guarded, or none when the call cannot complete. -/
def guarded (m : NullModel g) (b : g.Node) (index : Nat) (call : CallSite) (f : NullFrame) :
    Except Error (Option NullFrame) :=
  if m.config.trackValueNumbers then
    m.guardArguments b index call (m.hierarchy.targets call) f
  else .ok (some f)

/-- The frame after what is told by the summary of a called method. -/
def summarized (m : NullModel g) (b : g.Node) (index : Nat) (call : CallSite) (f : NullFrame) :
    Except Error NullFrame :=
  if call.kind = .static then m.applySummary b index call (m.hierarchy.targets call) f else .ok f

/-- The three parts of a call. -/
lemma invoke_eq_ok_iff {call : CallSite} {out : Modeled} : m.invoke b index call f = .ok out ↔
    m.guarded b index call f = .ok none ∧ ⟨f.setTop, none⟩ = out ∨
      ∃ f₁ f₂, m.guarded b index call f = .ok (some f₁) ∧ m.summarized b index call f₁ = .ok f₂ ∧
        m.finishCall b index call (m.hierarchy.targets call) f₂ = .ok out := by
  have hinvoke : m.invoke b index call f = m.guarded b index call f >>= fun f? =>
      f?.elim (.ok ⟨f.setTop, none⟩) fun f₁ => m.summarized b index call f₁ >>= fun f₂ =>
        m.finishCall b index call (m.hierarchy.targets call) f₂ := by
    unfold invoke guarded summarized
    split_ifs
    all_goals
      refine bind_congr fun f? => ?_
      cases f? <;> rfl
  rw [hinvoke, bind_eq_ok_iff]
  constructor
  · rintro ⟨_ | f₁, hguarded, h⟩
    · exact .inl ⟨hguarded, Except.ok.inj h⟩
    · obtain ⟨f₂, hsummarized, h⟩ := bind_eq_ok_iff.1 h
      exact .inr ⟨f₁, f₂, hguarded, hsummarized, h⟩
  · rintro (⟨hguarded, rfl⟩ | ⟨f₁, f₂, hguarded, hsummarized, h⟩)
    · exact ⟨none, hguarded, rfl⟩
    · exact ⟨some f₁, hguarded, bind_eq_ok_iff.2 ⟨f₂, hsummarized, h⟩⟩

lemma yields_invoke {call : CallSite} : Yields (m.invoke b index call f) f' ↔
    m.guarded b index call f = .ok none ∧ f.setTop = f' ∨
      ∃ f₁ f₂, m.guarded b index call f = .ok (some f₁) ∧ m.summarized b index call f₁ = .ok f₂ ∧
        Yields (m.finishCall b index call (m.hierarchy.targets call) f₂) f' := by
  simp only [Yields, invoke_eq_ok_iff]
  constructor
  · rintro ⟨slot, ⟨hguarded, hout⟩ | ⟨f₁, f₂, hguarded, hsummarized, h⟩⟩
    · exact .inl ⟨hguarded, congrArg Modeled.frame hout⟩
    · exact .inr ⟨f₁, f₂, hguarded, hsummarized, slot, h⟩
  · rintro (⟨hguarded, rfl⟩ | ⟨f₁, f₂, hguarded, hsummarized, slot, h⟩)
    · exact ⟨none, .inl ⟨hguarded, rfl⟩⟩
    · exact ⟨slot, .inr ⟨f₁, f₂, hguarded, hsummarized, h⟩⟩

lemma tightened_guarded {call : CallSite} (h : m.guarded b index call f = .ok (some f')) :
    Tightened f f' := by
  unfold guarded at h
  split at h
  · exact tightened_guardArguments h
  · cases h
    exact .refl

lemma kept_summarized {call : CallSite} (h : m.summarized b index call f = .ok f') :
    Kept f f' := by
  unfold summarized at h
  split at h
  · exact kept_applySummary h
  · cases h
    exact .refl f

/-- A call that leaves a valid frame has not been given up. -/
lemma guarded_ne_none {call : CallSite} (h : Yields (m.invoke b index call f) f')
    (hvalid : f'.valid = true) : m.guarded b index call f ≠ .ok none := by
  intro hnone
  rcases yields_invoke.1 h with ⟨-, rfl⟩ | ⟨f₁, f₂, hguarded, -, -⟩
  · cases hvalid
  · cases hnone.symm.trans hguarded

lemma applied_invoke {call : CallSite} (h : Yields (m.invoke b index call f) f')
    (hguarded : m.guarded b index call f ≠ .ok none) : Applied m b index (.invoke call) f f' := by
  rcases yields_invoke.1 h with ⟨hnone, -⟩ | ⟨f₁, f₂, hguarded, hsummarized, h⟩
  · exact absurd hnone hguarded
  · exact .of_kept_left ((tightened_guarded hguarded).kept.trans (kept_summarized hsummarized))
      (applied_finishCall h)

/-- Before it is known that an instruction has completed. Only a call may be given up. -/
lemma applied_applyOp (h : Yields (m.applyOp b index op f) f')
    (hguarded : ∀ call, op = .invoke call → m.guarded b index call f ≠ .ok none) :
    Applied m b index op f f' := by
  have same : op.effect = .ok ⟨0, 0⟩ → f = f' → Applied m b index op f f' := by
    rintro heffect rfl
    exact ⟨rfl, rfl, rfl, ⟨_, heffect, Nat.zero_le _, rfl⟩, .inl le_rfl,
      fun _ h => .inl h⟩
  cases op with
  | nop | goto | «return» | checkCast => exact same rfl (yields_ok.1 h)
  | constNull | constReference | new =>
      have hpop : f.popN 0 = .ok f := rfl
      exact applied_produce rfl rfl (yields_bind.2 ⟨f, hpop, h⟩)
  | newArray | multiNewArray => exact applied_produce rfl rfl h
  | load | store | pop | dup | dupX1 | swap => exact applied_moved (moved_of_yields rfl h)
  | getField field => exact applied_loadField rfl rfl h
  | getStatic field => exact applied_loadField rfl rfl h
  | putField field | putStatic field | arrayStore =>
      obtain ⟨stored, -, h⟩ := bind_eq_ok_iff.1 (yields_unremarkable.1 h)
      obtain ⟨_, hpop, h⟩ := bind_eq_ok_iff.1 h
      obtain ⟨hpops, rfl⟩ := popN_eq_ok_iff.1 hpop
      obtain rfl := pure_eq_ok_iff.1 h
      exact applied_remember rfl rfl hpops
  | arrayLoad =>
      simp only [applyOp] at h
      split at h
      · exact applied_produce rfl rfl h
      · exact applied_applyEffect (yields_unremarkable.1 h)
  | invoke call => exact applied_invoke h (hguarded call rfl)
  | _ => exact applied_applyEffect (yields_unremarkable.1 h)

/-- An instruction in terms of its effect before it is known to have completed. -/
lemma apply_eq_ok_iff (hvalid : f.valid = true) {out : Modeled} :
    m.apply b index op f = .ok out ↔ ∃ out₀, m.applyOp b index op f = .ok out₀ ∧
      out = ⟨if out₀.frame.valid then
          m.afterAssertion op
            (m.afterDereference b index (m.dereferencedClass? b index op f) out₀.frame)
        else out₀.frame, out₀.newNull⟩ := by
  simp only [apply, hvalid, Bool.not_true, Bool.false_eq_true, if_false]
  rw [bind_eq_ok_iff]
  refine exists_congr fun out₀ => and_congr_right fun _ => ?_
  cases hv : out₀.frame.valid with
  | false => exact pure_eq_ok_iff.trans eq_comm
  | true => exact pure_eq_ok_iff.trans eq_comm

/-- The frame after an instruction, in terms of the frame before it is known to have completed. -/
lemma yields_apply (hvalid : f.valid = true) : Yields (m.apply b index op f) f' ↔
    ∃ f₀, Yields (m.applyOp b index op f) f₀ ∧ f' = if f₀.valid then
      m.afterAssertion op (m.afterDereference b index (m.dereferencedClass? b index op f) f₀)
      else f₀ := by
  simp only [Yields, apply_eq_ok_iff hvalid]
  constructor
  · rintro ⟨slot, out₀, hout, h⟩
    exact ⟨out₀.frame, ⟨out₀.newNull, hout⟩, congrArg Modeled.frame h⟩
  · rintro ⟨f₀, ⟨slot, hout⟩, rfl⟩
    exact ⟨slot, _, hout, rfl⟩

/-- **An instruction changes the depth by its effect, and at most one class becomes known.** -/
theorem apply_applied (hvalid : f.valid = true) (h : Yields (m.apply b index op f) f')
    (hvalid' : f'.valid = true) : Applied m b index op f f' := by
  obtain ⟨f₀, h₀, rfl⟩ := (yields_apply hvalid).1 h
  cases hv : f₀.valid with
  | false => simp [hv] at hvalid'
  | true =>
      rw [if_pos rfl]
      have hguarded : ∀ call, op = .invoke call → m.guarded b index call f ≠ .ok none := by
        rintro call rfl
        exact guarded_ne_none h₀ hv
      exact (applied_applyOp h₀ hguarded).of_kept_right
        ((tightened_afterDereference _ _).kept.trans (kept_afterAssertion _ _))

end NullModel

end Nullness
