import Mathlib.Tactic
import Nullness.Proofs.Dataflow
import Nullness.Proofs.Machine

/-!
# Steps of value frames

What an instruction does to a value frame, apart from the meaning of the labels.

* `ValueFrame.Stepped`, `ValueFrame.step_eq_ok_iff`: what each instruction does to a frame;
* `ValueFrame.step_shaped`, `ValueFrame.step_succeeds`: a frame follows an instruction exactly when
  the instruction finds what it needs (`Opcode.Fits`), and its stack changes by the effect;
* `ValueFrame.labels_step`: the labels after an instruction are old, or those of fresh results.
-/

namespace Nullness

namespace Load

variable {α : Type}

@[simp] lemma labels_object (object : α) (field : FieldRef) :
    (Load.field (some object) field).labels = [object] := rfl

@[simp] lemma labels_static (field : FieldRef) : (Load.field none field : Load α).labels = [] := rfl

@[simp] lemma labels_element (array index : α) : (Load.element array index).labels = [array, index] :=
  rfl

end Load

namespace ValueFrame

variable {α : Type} [Ord α]

lemma pop_eq_ok_iff {f f' : ValueFrame α} {label : α} :
    f.pop = .ok (label, f') ↔ ∃ rest, f.stack = label :: rest ∧ f' = { f with stack := rest } := by
  unfold pop
  cases hs : f.stack with
  | nil => simp
  | cons a rest =>
      simp only [Except.ok.injEq, Prod.mk.injEq, List.cons.injEq]
      constructor
      · rintro ⟨rfl, rfl⟩
        exact ⟨rest, ⟨rfl, rfl⟩, rfl⟩
      · rintro ⟨_, ⟨rfl, rfl⟩, rfl⟩
        exact ⟨rfl, rfl⟩

lemma popN_eq_ok_iff {f f' : ValueFrame α} {count : Nat} :
    f.popN count = .ok f' ↔ count ≤ f.depth ∧ f' = { f with stack := f.stack.drop count } := by
  unfold popN
  split
  · rename_i h
    simp [h, eq_comm]
  · rename_i h
    simp [h]

/-- The frame after an instruction that neither copies nor reads the heap: its operands are gone, and
its results have fresh labels. -/
def plain (f : ValueFrame α) (output : Nat → α) (effect : StackEffect)
    (loads : SortedMap (Load α) α) : ValueFrame α :=
  ⟨f.locals, ((List.range effect.pushes).map output).reverse ++ f.stack.drop effect.pops, loads⟩

lemma plain_step [DescriptorReader] {f f' : ValueFrame α} {output : Nat → α} {op : Opcode}
    (keep : SortedMap (Load α) α → SortedMap (Load α) α) :
    (do
      let effect ← op.effect
      let f ← f.popN effect.pops
      return { f with loads := keep f.loads }.pushOutputs output effect.pushes :
        Except Error (ValueFrame α)) = .ok f' ↔
      ∃ effect, op.effect = .ok effect ∧ effect.pops ≤ f.depth ∧
        f' = f.plain output effect (keep f.loads) := by
  simp only [bind_eq_ok_iff, popN_eq_ok_iff, pure_eq_ok_iff]
  constructor
  · rintro ⟨effect, heffect, _, ⟨hpops, rfl⟩, rfl⟩
    exact ⟨effect, heffect, hpops, rfl⟩
  · rintro ⟨effect, heffect, hpops, rfl⟩
    exact ⟨effect, heffect, _, ⟨hpops, rfl⟩, rfl⟩

@[simp] lemma slots_ofSlots (numLocals : Nat) (slots : List α) (loads : SortedMap (Load α) α) :
    (ofSlots numLocals slots loads).slots = slots := by
  rw [ValueFrame.slots, ofSlots, List.reverse_reverse, List.take_append_drop]

lemma numLocals_ofSlots {numLocals : Nat} {slots : List α} (loads : SortedMap (Load α) α)
    (h : numLocals ≤ slots.length) : (ofSlots numLocals slots loads).numLocals = numLocals := by
  simp [ofSlots, ValueFrame.numLocals, h]

section

variable {β : Type} [Ord β] [Std.TransOrd β] (g : α → β) (f : ValueFrame α)

@[simp] lemma slots_map : (f.map g).slots = f.slots.map g := by
  simp [slots, ValueFrame.map]

lemma slot?_map {slot : Nat} {a : α} (h : f.slots[slot]? = some a) :
    (f.map g).slot? slot = some (g a) := by
  rw [slot?, slots_map, List.getElem?_map, h]
  rfl

@[simp] lemma numLocals_map : (f.map g).numLocals = f.numLocals := by
  simp [numLocals, ValueFrame.map]

@[simp] lemma depth_map : (f.map g).depth = f.depth := by
  simp [depth, ValueFrame.map]

@[simp] lemma numSlots_map : (f.map g).numSlots = f.numSlots := by
  simp [numSlots]

end

/-- The first slots are the local variables. -/
lemma getElem?_slots {f : ValueFrame α} {slot : Nat} (h : slot < f.numLocals) :
    f.slots[slot]? = f.locals[slot]? :=
  List.getElem?_append_left h

/-- Every live slot has a label. -/
lemma exists_label {f : ValueFrame α} {slot : Nat} (h : slot < f.numSlots) :
    ∃ a, f.slots[slot]? = some a :=
  ⟨_, List.getElem?_eq_getElem (by rwa [length_slots])⟩

lemma lt_numSlots {f : ValueFrame α} {slot : Nat} {a : α} (h : f.slots[slot]? = some a) :
    slot < f.numSlots := by
  rw [← length_slots]
  exact (List.getElem?_eq_some_iff.1 h).1

lemma mem_labels_of_slot {f : ValueFrame α} {slot : Nat} {a : α} (h : f.slots[slot]? = some a) :
    a ∈ f.labels :=
  List.mem_append_left _ (List.mem_of_getElem? h)

section

variable [Std.LawfulEqOrd α]

lemma mem_labels {f : ValueFrame α} {a : α} :
    a ∈ f.labels ↔ a ∈ f.locals ∨ a ∈ f.stack ∨
      ∃ l label, f.available? l = some label ∧ (a ∈ l.labels ∨ a = label) := by
  simp only [labels, slots, List.mem_append, List.mem_reverse, List.mem_flatMap, List.mem_singleton,
    Prod.exists, available?, SortedMap.get?_eq_some_iff, or_assoc]

lemma available?_killField {f : ValueFrame α} {field : FieldRef} {l : Load α} {label : α} :
    (f.killField field).available? l = some label ↔
      f.available? l = some label ∧ ∀ reference, l ≠ .field reference field := by
  simp only [available?, killField, SortedMap.get?_filter, Option.filter_eq_some_iff]
  cases l with
  | field reference fld => simp
  | element array index => simp

lemma available?_killElements {f : ValueFrame α} {l : Load α} {label : α} :
    f.killElements.available? l = some label ↔
      f.available? l = some label ∧ ∀ array index, l ≠ .element array index := by
  simp only [available?, killElements, SortedMap.get?_filter, Option.filter_eq_some_iff]
  cases l with
  | field reference fld => simp
  | element array index => simp

end

variable [Std.TransOrd α]

lemma readHeap_eq (f : ValueFrame α) (fresh : α) (l : Load α) :
    f.readHeap fresh l = { f with
      stack := (f.available? l).getD fresh :: f.stack
      loads := if (f.available? l).isSome then f.loads else f.loads.insert l fresh } := by
  unfold readHeap
  split
  · rename_i label h
    simp [h, push]
  · rename_i h
    simp [h, push]

/-! ### What an instruction does -/

/-- What an instruction does to a frame. All instructions that neither move labels nor use the heap are
one case. -/
inductive Stepped [DescriptorReader] (output : Nat → α) :
    Opcode → ValueFrame α → ValueFrame α → Prop
  | load {f : ValueFrame α} {slot : Nat} {label : α} (hlabel : f.locals[slot]? = some label) :
      Stepped output (.load slot) f (f.push label)
  | store {f : ValueFrame α} {slot : Nat} {label : α} {rest : List α} (hslot : slot < f.numLocals)
      (hs : f.stack = label :: rest) :
      Stepped output (.store slot) f { f with locals := f.locals.set slot label, stack := rest }
  | pop {f : ValueFrame α} {label : α} {rest : List α} (hs : f.stack = label :: rest) :
      Stepped output .pop f { f with stack := rest }
  | dup {f : ValueFrame α} {label : α} {rest : List α} (hs : f.stack = label :: rest) :
      Stepped output .dup f { f with stack := label :: label :: rest }
  | dupX1 {f : ValueFrame α} {first second : α} {rest : List α}
      (hs : f.stack = first :: second :: rest) :
      Stepped output .dupX1 f { f with stack := first :: second :: first :: rest }
  | swap {f : ValueFrame α} {first second : α} {rest : List α}
      (hs : f.stack = first :: second :: rest) :
      Stepped output .swap f { f with stack := second :: first :: rest }
  | getField {f : ValueFrame α} {field : FieldRef} {object : α} {rest : List α}
      (hs : f.stack = object :: rest) :
      Stepped output (.getField field) f
        (({ f with stack := rest } : ValueFrame α).readHeap (output 0) (.field (some object) field))
  | getStatic (f : ValueFrame α) (field : FieldRef) :
      Stepped output (.getStatic field) f (f.readHeap (output 0) (.field none field))
  | arrayLoad {f : ValueFrame α} {index array : α} {rest : List α}
      (hs : f.stack = index :: array :: rest) :
      Stepped output .arrayLoad f
        (({ f with stack := rest } : ValueFrame α).readHeap (output 0) (.element array index))
  | putField {f : ValueFrame α} {field : FieldRef} {stored object : α} {rest : List α}
      (hs : f.stack = stored :: object :: rest) :
      Stepped output (.putField field) f
        ((({ f with stack := rest } : ValueFrame α).killField field).writeHeap
          (.field (some object) field) stored)
  | putStatic {f : ValueFrame α} {field : FieldRef} {stored : α} {rest : List α}
      (hs : f.stack = stored :: rest) :
      Stepped output (.putStatic field) f
        ((({ f with stack := rest } : ValueFrame α).killField field).writeHeap
          (.field none field) stored)
  | arrayStore {f : ValueFrame α} {stored index array : α} {rest : List α}
      (hs : f.stack = stored :: index :: array :: rest) :
      Stepped output .arrayStore f
        (({ f with stack := rest } : ValueFrame α).killElements.writeHeap
          (.element array index) stored)
  | invoke {f : ValueFrame α} {call : CallSite} {effect : StackEffect}
      (heffect : (Opcode.invoke call).effect = .ok effect) (hpops : effect.pops ≤ f.depth) :
      Stepped output (.invoke call) f (f.plain output effect .empty)
  | plain {f : ValueFrame α} {op : Opcode} {effect : StackEffect} (hplain : op.isPlain = true)
      (heffect : op.effect = .ok effect) (hpops : effect.pops ≤ f.depth) :
      Stepped output op f (f.plain output effect f.loads)

variable {f f' : ValueFrame α} {output : Nat → α} {op : Opcode}

/-- **A step does what its instruction does.** -/
lemma step_eq_ok_iff [DescriptorReader] : f.step output op = .ok f' ↔ Stepped output op f f' := by
  constructor
  · intro h
    cases op with
    | nop | goto | «return» | checkCast =>
        obtain rfl : f = f' := by simpa [step] using h
        change Stepped output _ f (f.plain output ⟨0, 0⟩ f.loads)
        exact .plain rfl rfl (Nat.zero_le _)
    | load slot =>
        simp only [step] at h
        split at h
        · rename_i label hlabel
          obtain rfl := Except.ok.inj h
          exact .load hlabel
        · cases h
    | store slot =>
        simp only [step] at h
        split at h
        · rename_i hslot
          simp only [bind_eq_ok_iff, Prod.exists, pop_eq_ok_iff, pure_eq_ok_iff] at h
          obtain ⟨_, _, ⟨_, hs, rfl⟩, rfl⟩ := h
          exact .store hslot hs
        · cases h
    | getStatic field =>
        obtain rfl := Except.ok.inj h
        exact .getStatic f field
    | invoke call =>
        obtain ⟨effect, heffect, hpops, rfl⟩ := (plain_step fun _ => .empty).1 h
        exact .invoke heffect hpops
    | pop | dup | getField | putStatic =>
        simp only [step, bind_eq_ok_iff, Prod.exists, pop_eq_ok_iff, pure_eq_ok_iff] at h
        obtain ⟨_, _, ⟨_, hs, rfl⟩, rfl⟩ := h
        constructor
        exact hs
    | dupX1 | swap | arrayLoad | putField =>
        simp only [step, bind_eq_ok_iff, Prod.exists, pop_eq_ok_iff, pure_eq_ok_iff] at h
        obtain ⟨_, _, ⟨_, hs, rfl⟩, _, _, ⟨_, rfl, rfl⟩, rfl⟩ := h
        constructor
        exact hs
    | arrayStore =>
        simp only [step, bind_eq_ok_iff, Prod.exists, pop_eq_ok_iff, pure_eq_ok_iff] at h
        obtain ⟨_, _, ⟨_, hs, rfl⟩, _, _, ⟨_, rfl, rfl⟩, _, _, ⟨_, rfl, rfl⟩, rfl⟩ := h
        exact .arrayStore hs
    | _ =>
        obtain ⟨effect, heffect, hpops, rfl⟩ := (plain_step id).1 h
        exact .plain rfl heffect hpops
  · intro h
    cases h with
    | load hlabel => rw [step, hlabel]
    | store hslot hs =>
        simp only [step, if_pos hslot, ValueFrame.pop, hs]
        rfl
    | pop hs | dup hs | getField hs | putStatic hs | dupX1 hs | swap hs | arrayLoad hs | putField hs
    | arrayStore hs =>
        simp only [step, ValueFrame.pop, hs]
        rfl
    | getStatic => rfl
    | invoke heffect hpops => exact (plain_step fun _ => .empty).2 ⟨_, heffect, hpops, rfl⟩
    | @plain _ op effect hplain heffect hpops =>
        have hstep : _ = Except.ok (f.plain output effect f.loads) :=
          (plain_step id).2 ⟨effect, heffect, hpops, rfl⟩
        cases op with
        | load | store | pop | dup | dupX1 | swap | getField | getStatic | arrayLoad | putField
        | putStatic | arrayStore | invoke => cases hplain
        | _ => exact hstep

/-! ### The shape of a step -/

/-- The frame after a step has the locals that there were, and a stack changed by the effect of the
instruction. -/
structure Shaped [DescriptorReader] (op : Opcode) (f f' : ValueFrame α) (effect : StackEffect) :
    Prop where
  fits : op.Fits f.numLocals f.depth effect
  numLocals_eq : f'.numLocals = f.numLocals
  depth_eq : f'.depth + effect.pops = f.depth + effect.pushes

omit [Std.TransOrd α] in
/-- Results take the place of operands. -/
lemma depth_plain {effect : StackEffect} (loads : SortedMap (Load α) α) (hpops : effect.pops ≤ f.depth) :
    (f.plain output effect loads).depth + effect.pops = f.depth + effect.pushes := by
  simp only [depth, ValueFrame.plain, List.length_append, List.length_reverse, List.length_map,
    List.length_range, List.length_drop] at hpops ⊢
  omega

lemma step_shaped [DescriptorReader] (h : f.step output op = .ok f') :
    ∃ effect, Shaped op f f' effect := by
  cases step_eq_ok_iff.1 h with
  | load hlabel =>
      have hlt := (List.getElem?_eq_some_iff.1 hlabel).1
      exact ⟨_, ⟨rfl, Nat.zero_le _, by simp [Opcode.slot?, numLocals, hlt]⟩, rfl, rfl⟩
  | store hslot hs =>
      exact ⟨_, ⟨rfl, by simp [depth, hs], by simp [Opcode.slot?, hslot]⟩, by simp [numLocals],
        by simp [depth, hs]⟩
  | pop hs | dup hs | dupX1 hs | swap hs =>
      exact ⟨_, ⟨rfl, by simp [depth, hs], by simp [Opcode.slot?]⟩, rfl, by simp [depth, hs]⟩
  | getField hs | arrayLoad hs =>
      exact ⟨_, ⟨rfl, by simp [depth, hs], by simp [Opcode.slot?]⟩, by simp [numLocals, readHeap_eq],
        by simp [depth, hs, readHeap_eq]⟩
  | getStatic =>
      exact ⟨_, ⟨rfl, Nat.zero_le _, by simp [Opcode.slot?]⟩, by simp [numLocals, readHeap_eq],
        by simp [depth, readHeap_eq]⟩
  | putField hs | putStatic hs | arrayStore hs =>
      exact ⟨_, ⟨rfl, by simp [depth, hs], by simp [Opcode.slot?]⟩, rfl,
        by simp [depth, hs, writeHeap, killField, killElements]⟩
  | invoke heffect hpops =>
      exact ⟨_, ⟨heffect, hpops, by simp [Opcode.slot?]⟩, rfl, depth_plain _ hpops⟩
  | plain hplain heffect hpops =>
      exact ⟨_, ⟨heffect, hpops, by simp [Opcode.slot?_of_isPlain hplain]⟩, rfl, depth_plain _ hpops⟩

/-- A step succeeds when the instruction finds what it needs. -/
lemma step_succeeds [DescriptorReader] {effect : StackEffect}
    (h : op.Fits f.numLocals f.depth effect) :
    ∃ f', f.step output op = .ok f' := by
  obtain ⟨heffect, hpops, hslot⟩ := h
  suffices ∃ f', Stepped output op f f' from this.imp fun _ => step_eq_ok_iff.2
  cases op with
  | load slot => exact ⟨_, .load (List.getElem?_eq_getElem (hslot slot rfl))⟩
  | getStatic field => exact ⟨_, .getStatic f field⟩
  | invoke call => exact ⟨_, .invoke heffect hpops⟩
  | store slot =>
      cases heffect
      obtain ⟨_, _, hs⟩ := List.exists_cons_of_length_pos hpops
      exact ⟨_, .store (hslot slot rfl) hs⟩
  | pop | dup | getField | putStatic =>
      cases heffect
      obtain ⟨_, _, hs⟩ := List.exists_cons_of_length_pos hpops
      exact ⟨_, by constructor; exact hs⟩
  | dupX1 | swap | arrayLoad | putField =>
      cases heffect
      rcases hs : f.stack with _ | ⟨_, _ | ⟨_, _⟩⟩
      · simp [depth, hs] at hpops
      · simp [depth, hs] at hpops
      · exact ⟨_, by constructor; exact hs⟩
  | arrayStore =>
      cases heffect
      rcases hs : f.stack with _ | ⟨_, _ | ⟨_, _ | ⟨_, _⟩⟩⟩
      · simp [depth, hs] at hpops
      · simp [depth, hs] at hpops
      · simp [depth, hs] at hpops
      · exact ⟨_, .arrayStore hs⟩
  | _ => exact ⟨_, .plain rfl heffect hpops⟩

/-- An instruction keeps all local variables but the one that it stores to. -/
lemma getElem?_locals_step [DescriptorReader] {slot : Nat} (h : f.step output op = .ok f')
    (hstore : op ≠ .store slot) :
    f'.locals[slot]? = f.locals[slot]? := by
  cases step_eq_ok_iff.1 h with
  | store => exact List.getElem?_set_ne fun heq => hstore (congrArg Opcode.store heq)
  | getField | getStatic | arrayLoad => rw [readHeap_eq]
  | _ => rfl

/-! ### Labels -/

section

variable [Std.LawfulEqOrd α] {p : α → Prop}

omit [Std.TransOrd α]

lemma mem_labels_of_local {a : α} (h : a ∈ f.locals) : a ∈ f.labels := mem_labels.2 (.inl h)

lemma mem_labels_of_stack {a : α} (h : a ∈ f.stack) : a ∈ f.labels := mem_labels.2 (.inr (.inl h))

lemma mem_labels_of_load {l : Load α} {label a : α} (h : f.available? l = some label)
    (ha : a ∈ l.labels) : a ∈ f.labels :=
  mem_labels.2 (.inr (.inr ⟨l, label, h, .inl ha⟩))

lemma mem_labels_of_available {l : Load α} {label : α} (h : f.available? l = some label) :
    label ∈ f.labels :=
  mem_labels.2 (.inr (.inr ⟨l, label, h, .inr rfl⟩))

/-- What holds of the labels in the slots and of those of the available loads holds of all labels. -/
lemma labels_forall (hlocals : ∀ a ∈ f.locals, p a) (hstack : ∀ a ∈ f.stack, p a)
    (hloads : ∀ l label, f.available? l = some label → (∀ a ∈ l.labels, p a) ∧ p label) :
    ∀ a ∈ f.labels, p a := by
  intro a ha
  rcases mem_labels.1 ha with h | h | ⟨l, label, h, ha | rfl⟩
  · exact hlocals a h
  · exact hstack a h
  · exact (hloads l label h).1 a ha
  · exact (hloads l a h).2

/-- A frame that only moves and forgets labels has no new ones. -/
lemma labels_of_moved (hf : ∀ a ∈ f.labels, p a)
    (hlocals : ∀ a ∈ f'.locals, a ∈ f.locals ∨ a ∈ f.stack)
    (hstack : ∀ a ∈ f'.stack, a ∈ f.locals ∨ a ∈ f.stack)
    (hloads : ∀ l label, f'.available? l = some label → f.available? l = some label) :
    ∀ a ∈ f'.labels, p a := by
  have hslot : ∀ a, a ∈ f.locals ∨ a ∈ f.stack → p a := fun a ha =>
    hf a (ha.elim mem_labels_of_local mem_labels_of_stack)
  refine labels_forall (fun a ha => hslot a (hlocals a ha)) (fun a ha => hslot a (hstack a ha)) ?_
  intro l label h
  have h := hloads l label h
  exact ⟨fun a ha => hf a (mem_labels_of_load h ha), hf label (mem_labels_of_available h)⟩

/-- Labels may be moved on the stack. -/
lemma labels_withStack {stack : List α} (hstack : ∀ a ∈ stack, a ∈ f.stack) :
    ∀ a ∈ ({ f with stack } : ValueFrame α).labels, a ∈ f.labels :=
  labels_of_moved (f := f) (fun _ ha => ha) (fun _ ha => .inl ha) (fun a ha => .inr (hstack a ha))
    fun _ _ hl => hl

lemma labels_killField {field : FieldRef} {a : α} (ha : a ∈ (f.killField field).labels) :
    a ∈ f.labels := by
  have kept : ∀ a ∈ (f.killField field).labels, a ∈ f.labels :=
    labels_of_moved (fun _ h => h) (fun _ h => .inl h) (fun _ h => .inr h)
      fun _ _ hl => (available?_killField.1 hl).1
  exact kept a ha

lemma labels_killElements {a : α} (ha : a ∈ f.killElements.labels) : a ∈ f.labels := by
  have kept : ∀ a ∈ f.killElements.labels, a ∈ f.labels :=
    labels_of_moved (fun _ h => h) (fun _ h => .inl h) (fun _ h => .inr h)
      fun _ _ hl => (available?_killElements.1 hl).1
  exact kept a ha

/-- Results have fresh labels. -/
lemma labels_plain {effect : StackEffect} {loads : SortedMap (Load α) α}
    (hloads : ∀ l label, loads.get? l = some label → f.available? l = some label) :
    ∀ a ∈ (f.plain output effect loads).labels, a ∈ f.labels ∨ ∃ k, a = output k := by
  apply labels_forall
  · exact fun a ha => .inl (mem_labels_of_local ha)
  · intro a ha
    rcases List.mem_append.1 ha with ha | ha
    · obtain ⟨k, -, rfl⟩ := List.mem_map.1 (List.mem_reverse.1 ha)
      exact .inr ⟨k, rfl⟩
    · exact .inl (mem_labels_of_stack (List.mem_of_mem_drop ha))
  · intro l label hl
    have hl := hloads l label hl
    exact ⟨fun a ha => .inl (mem_labels_of_load hl ha), .inl (mem_labels_of_available hl)⟩

lemma labels_push {label : α} (hf : ∀ a ∈ f.labels, p a) (hlabel : p label) :
    ∀ a ∈ (f.push label).labels, p a := by
  apply labels_forall
  · exact fun a ha => hf a (mem_labels_of_local ha)
  · intro a ha
    rcases List.mem_cons.1 ha with rfl | ha
    · exact hlabel
    · exact hf a (mem_labels_of_stack ha)
  · exact fun l label h =>
      ⟨fun a ha => hf a (mem_labels_of_load h ha), hf label (mem_labels_of_available h)⟩

end

variable [Std.LawfulEqOrd α] [DecidableEq α]

lemma available?_writeHeap {l l' : Load α} {stored : α} :
    (f.writeHeap l stored).available? l' = if l' = l then some stored else f.available? l' :=
  SortedMap.get?_insert ..

variable {p : α → Prop}

lemma labels_writeHeap {l : Load α} {stored : α} (hf : ∀ a ∈ f.labels, p a)
    (hl : ∀ a ∈ l.labels, p a) (hstored : p stored) :
    ∀ a ∈ (f.writeHeap l stored).labels, p a := by
  apply labels_forall
  · exact fun a ha => hf a (mem_labels_of_local ha)
  · exact fun a ha => hf a (mem_labels_of_stack ha)
  · intro l' label h
    rw [available?_writeHeap] at h
    split at h
    · rename_i heq
      cases h
      exact ⟨heq ▸ hl, hstored⟩
    · exact ⟨fun a ha => hf a (mem_labels_of_load h ha), hf label (mem_labels_of_available h)⟩

lemma labels_readHeap {fresh : α} {l : Load α} (hf : ∀ a ∈ f.labels, p a)
    (hl : ∀ a ∈ l.labels, p a) (hfresh : p fresh) : ∀ a ∈ (f.readHeap fresh l).labels, p a := by
  unfold readHeap
  split
  · rename_i label h
    exact labels_push hf (hf label (mem_labels_of_available h))
  · exact labels_push (labels_writeHeap hf hl hfresh) hfresh

/-- The labels after an instruction are old, or those of fresh results. -/
lemma labels_step [DescriptorReader] (h : f.step output op = .ok f') :
    ∀ a ∈ f'.labels, a ∈ f.labels ∨ ∃ k, a = output k := by
  have old : ∀ a ∈ f.labels, a ∈ f.labels ∨ ∃ k, a = output k := fun _ ha => .inl ha
  have onStack : ∀ a ∈ f.stack, a ∈ f.labels ∨ ∃ k, a = output k :=
    fun a ha => .inl (mem_labels_of_stack ha)
  have operands : ∀ {as : List α}, (∀ a ∈ as, a ∈ f.stack) →
      ∀ a ∈ as, a ∈ f.labels ∨ ∃ k, a = output k :=
    fun has a ha => onStack a (has a ha)
  have popped : ∀ {stack : List α}, (∀ a ∈ stack, a ∈ f.stack) →
      ∀ a ∈ ({ f with stack } : ValueFrame α).labels, a ∈ f.labels ∨ ∃ k, a = output k :=
    fun hstack a ha => .inl (labels_withStack hstack a ha)
  cases step_eq_ok_iff.1 h with
  | load hlabel => exact labels_push old (.inl (mem_labels_of_local (List.mem_of_getElem? hlabel)))
  | store _ hs =>
      refine labels_of_moved old (fun a ha => ?_) (by simp +contextual [hs]) fun _ _ h => h
      rcases List.mem_or_eq_of_mem_set ha with ha | rfl
      · exact .inl ha
      · exact .inr (by simp [hs])
  | pop hs | dup hs | dupX1 hs | swap hs => exact popped (by simp +contextual [hs])
  | getField hs | arrayLoad hs =>
      exact labels_readHeap (popped (by simp +contextual [hs])) (operands (by simp [hs]))
        (.inr ⟨0, rfl⟩)
  | getStatic => exact labels_readHeap old (by simp) (.inr ⟨0, rfl⟩)
  | putField hs | putStatic hs =>
      exact labels_writeHeap (fun a ha => popped (by simp +contextual [hs]) a (labels_killField ha))
        (operands (by simp [hs])) (onStack _ (by simp [hs]))
  | arrayStore hs =>
      exact labels_writeHeap (fun a ha => popped (by simp +contextual [hs]) a (labels_killElements ha))
        (operands (by simp [hs])) (onStack _ (by simp [hs]))
  | invoke => exact labels_plain (by simp)
  | plain => exact labels_plain fun _ _ h => h

end ValueFrame

end Nullness
