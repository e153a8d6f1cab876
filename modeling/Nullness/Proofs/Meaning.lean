import Mathlib.Tactic
import Nullness.Proofs.ValueFrame

/-!
# What value frames say about states

A value frame is read against a state under a meaning of its labels (`ValueFrame.Models`): every
slot holds what its label means, and so does the cell of the heap that an available load reads.

The main statement is `ValueFrame.Models.step`: **the frame after an instruction models the state
after it**, once the labels of fresh results mean those results. No other label changes its meaning,
and for that the labels of the fresh results must not have been in use.
-/

namespace Nullness

open Machine

lemma Load.map_congr {α β : Type} {l : Load α} {ρ ρ' : α → β} (h : ∀ a ∈ l.labels, ρ' a = ρ a) :
    l.map ρ' = l.map ρ := by
  cases l with
  | field reference fld =>
      cases reference with
      | none => rfl
      | some a => simpa [Load.map] using h
  | element array index => simpa [Load.map] using h

/-- Two meanings agree but for some labels. -/
def AgreeBut {α V : Type} (changed : α → Prop) (ρ ρ' : α → V) : Prop :=
  ∀ a, ¬ changed a → ρ' a = ρ a

lemma AgreeBut.refl {α V : Type} (changed : α → Prop) (ρ : α → V) : AgreeBut changed ρ ρ :=
  fun _ _ => rfl

lemma AgreeBut.mono {α V : Type} {changed changed' : α → Prop} {ρ ρ' : α → V}
    (h : AgreeBut changed ρ ρ') (hle : ∀ a, changed a → changed' a) : AgreeBut changed' ρ ρ' :=
  fun a ha => h a fun hc => ha (hle a hc)

/-- Different labels can be given any meanings. -/
lemma exists_meaning {α V : Type} {output : Nat → α} (hinj : Function.Injective output)
    (ρ : α → V) (values : List V) :
    ∃ ρ', AgreeBut (fun a => ∃ k < values.length, a = output k) ρ ρ' ∧
      ∀ k v, values[k]? = some v → ρ' (output k) = v := by
  refine ⟨Function.extend output (fun k => (values[k]?).getD (ρ (output k))) ρ, fun a ha => ?_,
    fun k v hv => by rw [hinj.extend_apply, hv, Option.getD_some]⟩
  by_cases hout : ∃ k, output k = a
  · obtain ⟨k, rfl⟩ := hout
    have hk : ¬ k < values.length := fun hk => ha ⟨k, hk, rfl⟩
    rw [hinj.extend_apply, List.getElem?_eq_none (Nat.not_lt.1 hk), Option.getD_none]
  · exact Function.extend_apply' _ _ _ hout

/-- The label of a result that an instruction pushes. -/
def Opcode.IsResult [DescriptorReader] {α : Type} (op : Opcode) (output : Nat → α) (a : α) : Prop :=
  ∃ effect k, op.effect = .ok effect ∧ k < effect.pushes ∧ a = output k

namespace ValueFrame

variable {α V : Type} [Ord α]

/-- Under a meaning of the labels, a frame says what is in the slots of a state and in the cells of
the heap that its available loads read. -/
structure Models (f : ValueFrame α) (ρ : α → V) (s : State V) : Prop where
  locals : f.locals.map ρ = s.locals
  stack : f.stack.map ρ = s.stack
  loads : ∀ l label, f.available? l = some label → s.heap (l.map ρ) = ρ label

namespace Models

variable {f f' : ValueFrame α} {ρ ρ' : α → V} {s s' : State V} {output : Nat → α} {op : Opcode}

lemma length_locals (hm : Models f ρ s) : s.locals.length = f.numLocals := by
  rw [← hm.locals, List.length_map]; rfl

lemma length_stack (hm : Models f ρ s) : s.stack.length = f.depth := by
  rw [← hm.stack, List.length_map]; rfl

lemma slots_eq (hm : Models f ρ s) : f.slots.map ρ = s.slots := by
  rw [slots, State.slots, List.map_append, List.map_reverse, hm.locals, hm.stack]

/-- A frame may be read slot by slot. -/
lemma of_slots (hlocals : f.numLocals = s.locals.length) (hslots : f.slots.map ρ = s.slots)
    (hloads : ∀ l label, f.available? l = some label → s.heap (l.map ρ) = ρ label) :
    Models f ρ s := by
  rw [slots, State.slots, List.map_append, List.map_reverse] at hslots
  obtain ⟨h1, h2⟩ := List.append_inj hslots (by rw [List.length_map]; exact hlocals)
  exact ⟨h1, List.reverse_inj.1 h2, hloads⟩

lemma withStack {stack : List α} {cells : List V} (hm : Models f ρ s) (h : stack.map ρ = cells) :
    Models { f with stack } ρ (s.withStack cells) where
  locals := hm.locals
  stack := h
  loads := hm.loads

lemma push (hm : Models f ρ s) (label : α) :
    Models (f.push label) ρ (s.withStack (ρ label :: s.stack)) :=
  hm.withStack (by rw [List.map_cons, hm.stack])

section

variable [Std.LawfulEqOrd α]

/-- A meaning matters at the labels of the frame only. -/
lemma congr (hm : Models f ρ s) (h : ∀ a ∈ f.labels, ρ' a = ρ a) : Models f ρ' s where
  locals := (List.map_congr_left fun a ha => h a (mem_labels_of_local ha)).trans hm.locals
  stack := (List.map_congr_left fun a ha => h a (mem_labels_of_stack ha)).trans hm.stack
  loads l label hl := by
    rw [Load.map_congr fun a ha => h a (mem_labels_of_load hl ha),
      h label (mem_labels_of_available hl)]
    exact hm.loads l label hl

lemma killField (hm : Models f ρ s) (field : FieldRef) : Models (f.killField field) ρ s where
  locals := hm.locals
  stack := hm.stack
  loads l label h := hm.loads l label (available?_killField.1 h).1

lemma killElements (hm : Models f ρ s) : Models f.killElements ρ s where
  locals := hm.locals
  stack := hm.stack
  loads l label h := hm.loads l label (available?_killElements.1 h).1

/-- Results of any kind are pushed; the heap may change if no load stays available. -/
lemma plain [DescriptorReader] {effect : StackEffect} {pushed : List V} {heap : Load V → V}
    {loads : SortedMap (Load α) α} (heffect : op.effect = .ok effect) (hm : Models f ρ s)
    (hinj : Function.Injective output) (hfresh : ∀ k, output k ∉ f.labels)
    (hlen : pushed.length = effect.pushes)
    (hloads : ∀ l label, loads.get? l = some label → f.available? l = some label ∧ heap = s.heap) :
    ∃ ρ', AgreeBut (op.IsResult output) ρ ρ' ∧
      Models (f.plain output effect loads) ρ'
        ⟨s.locals, pushed ++ s.stack.drop effect.pops, heap⟩ := by
  obtain ⟨ρ', hagree, hmeans⟩ := exists_meaning hinj ρ pushed.reverse
  have hold : ∀ a ∈ f.labels, ρ' a = ρ a := fun a ha => hagree a fun ⟨k, _, hk⟩ =>
    hfresh k (hk ▸ ha)
  have hchanged : AgreeBut (op.IsResult output) ρ ρ' := hagree.mono fun a ⟨k, hk, ha⟩ =>
    ⟨effect, k, heffect, by simpa [hlen] using hk, ha⟩
  refine ⟨ρ', hchanged, (hm.congr hold).locals, ?_, fun l label h => ?_⟩
  · have hresults : ((List.range effect.pushes).map output).map ρ' = pushed.reverse := by
      apply List.ext_getElem
      · simp [hlen]
      · intro k h1 h2
        rw [List.getElem_map, List.getElem_map, List.getElem_range]
        exact hmeans k _ (List.getElem?_eq_getElem h2)
    rw [ValueFrame.plain, List.map_append, List.map_reverse, hresults, List.reverse_reverse,
      List.map_drop, (hm.congr hold).stack]
  · obtain ⟨h, rfl⟩ := hloads l label h
    exact (hm.congr hold).loads l label h

end

variable [Std.TransOrd α] [Std.LawfulEqOrd α] [DecidableEq α]

/-! ### Stores -/

section

variable [DecidableEq V]

/-- A cell of the heap is written that no other available load reads. -/
lemma write {l : Load α} {stored : α} (hm : Models f ρ s)
    (hother : ∀ l' label, f.available? l' = some label → l'.map ρ ≠ l.map ρ) :
    Models (f.writeHeap l stored) ρ (s.write (l.map ρ) (ρ stored)) where
  locals := hm.locals
  stack := hm.stack
  loads l' label h := by
    rw [available?_writeHeap] at h
    simp only [State.write]
    split at h
    · rename_i heq
      cases h
      rw [heq, Function.update_self]
    · rw [Function.update_of_ne (hother l' label h)]
      exact hm.loads l' label h

/-- A store to a field leaves no load of that field available, whatever its object. -/
lemma write_field (hm : Models f ρ s) (reference : Option α) (field : FieldRef) (stored : α) :
    Models ((f.killField field).writeHeap (.field reference field) stored) ρ
      (s.write (.field (reference.map ρ) field) (ρ stored)) := by
  refine (hm.killField field).write (l := .field reference field) fun l' label h => ?_
  have hne := (available?_killField.1 h).2
  cases l' with
  | field reference' fld =>
      intro heq
      obtain ⟨-, rfl⟩ : reference'.map ρ = reference.map ρ ∧ fld = field := by
        simpa [Load.map] using heq
      exact hne reference' rfl
  | element array index => simp [Load.map]

/-- A store to an array leaves no load of an element available. -/
lemma write_element (hm : Models f ρ s) (array index stored : α) :
    Models (f.killElements.writeHeap (.element array index) stored) ρ
      (s.write (.element (ρ array) (ρ index)) (ρ stored)) := by
  refine hm.killElements.write (l := .element array index) fun l' label h => ?_
  have hne := (available?_killElements.1 h).2
  cases l' with
  | field reference fld => simp [Load.map]
  | element array' index' => exact absurd rfl (hne array' index')

end

/-! ### Instructions -/

/-- A heap read pushes what the cell holds. -/
lemma readHeap [DescriptorReader] {l : Load α} (hm : Models f ρ s)
    (hpushes : op.IsResult output (output 0)) (hinj : Function.Injective output)
    (hfresh : ∀ k, output k ∉ f.labels) (hl : ∀ k, output k ∉ l.labels) :
    ∃ ρ', AgreeBut (op.IsResult output) ρ ρ' ∧
      Models (f.readHeap (output 0) l) ρ' (s.withStack (s.heap (l.map ρ) :: s.stack)) := by
  unfold ValueFrame.readHeap
  split
  · rename_i label h
    refine ⟨ρ, .refl _ ρ, ?_⟩
    rw [hm.loads l label h]
    exact hm.push label
  · obtain ⟨ρ', hagree, hmeans⟩ := exists_meaning hinj ρ [s.heap (l.map ρ)]
    have hmeans : ρ' (output 0) = s.heap (l.map ρ) := hmeans 0 _ rfl
    have hold : ∀ a ∈ f.labels, ρ' a = ρ a := fun a ha => hagree a fun ⟨k, _, hk⟩ =>
      hfresh k (hk ▸ ha)
    have hchanged : AgreeBut (op.IsResult output) ρ ρ' := hagree.mono fun a ⟨k, hk, ha⟩ => by
      obtain rfl : k = 0 := by simpa using hk
      exact ha ▸ hpushes
    have hm' : Models (f.writeHeap l (output 0)) ρ' s := by
      refine ⟨(hm.congr hold).locals, (hm.congr hold).stack, fun l' label h => ?_⟩
      rw [available?_writeHeap] at h
      split at h
      · rename_i heq
        cases h
        rw [heq, Load.map_congr fun a ha => hagree a fun ⟨k, _, hk⟩ => hl k (hk ▸ ha), hmeans]
      · exact (hm.congr hold).loads l' label h
    refine ⟨ρ', hchanged, ?_⟩
    have := hm'.push (output 0)
    rwa [hmeans] at this

/-- **The frame after an instruction models the state after it.** Only labels of fresh results change
their meaning. -/
theorem step [DescriptorReader] [DecidableEq V] (hm : Models f ρ s)
    (hinj : Function.Injective output)
    (hfresh : ∀ k, output k ∉ f.labels) (hstep : f.step output op = .ok f') (h : Exec op s s') :
    ∃ ρ', AgreeBut (op.IsResult output) ρ ρ' ∧ Models f' ρ' s' := by
  have cells : ∀ {as : List α} {vs : List V}, f.stack = as → s.stack = vs → as.map ρ = vs :=
    fun hf hs => by rw [← hf, hm.stack, hs]
  have popped : ∀ {stack}, (∀ a ∈ stack, a ∈ f.stack) → ∀ k,
      output k ∉ ({ f with stack } : ValueFrame α).labels :=
    fun hstack k hk => hfresh k (labels_withStack hstack _ hk)
  have operands : ∀ {as : List α}, (∀ a ∈ as, a ∈ f.stack) → ∀ k, output k ∉ as :=
    fun has k hk => hfresh k (mem_labels_of_stack (has _ hk))
  have result : ∀ {op : Opcode} {pops : Nat}, op.effect = .ok ⟨pops, 1⟩ →
      op.IsResult output (output 0) := fun heffect => ⟨_, 0, heffect, Nat.one_pos, rfl⟩
  cases step_eq_ok_iff.1 hstep with
  | @load _ _ label hlabel =>
      obtain ⟨v, hv, rfl⟩ := h
      obtain rfl : ρ label = v := by simpa [← hm.locals, hlabel] using hv
      exact ⟨ρ, .refl _ ρ, hm.push label⟩
  | store _ hf =>
      obtain ⟨v, rest, hs, -, rfl⟩ := h
      cases cells hf hs
      exact ⟨ρ, .refl _ ρ, by rw [List.map_set, hm.locals], rfl, hm.loads⟩
  | pop hf | dup hf =>
      obtain ⟨v, rest, hs, rfl⟩ := h
      cases cells hf hs
      exact ⟨ρ, .refl _ ρ, hm.withStack rfl⟩
  | dupX1 hf | swap hf =>
      obtain ⟨v, w, rest, hs, rfl⟩ := h
      cases cells hf hs
      exact ⟨ρ, .refl _ ρ, hm.withStack rfl⟩
  | getField hf =>
      obtain ⟨v, rest, hs, rfl⟩ := h
      cases cells hf hs
      exact (hm.withStack rfl).readHeap (result rfl) hinj (popped (by simp +contextual [hf]))
        (operands (by simp [hf]))
  | getStatic =>
      obtain rfl := h
      exact hm.readHeap (result rfl) hinj hfresh (by simp)
  | arrayLoad hf =>
      obtain ⟨v, w, rest, hs, rfl⟩ := h
      cases cells hf hs
      exact (hm.withStack rfl).readHeap (result rfl) hinj (popped (by simp +contextual [hf]))
        (operands (by simp [hf]))
  | @putField _ field stored object _ hf =>
      obtain ⟨v, w, rest, hs, rfl⟩ := h
      cases cells hf hs
      exact ⟨ρ, .refl _ ρ, (hm.withStack rfl).write_field (some object) field stored⟩
  | @putStatic _ field stored _ hf =>
      obtain ⟨v, rest, hs, rfl⟩ := h
      cases cells hf hs
      exact ⟨ρ, .refl _ ρ, (hm.withStack rfl).write_field none field stored⟩
  | @arrayStore _ stored index array _ hf =>
      obtain ⟨v, w, u, rest, hs, rfl⟩ := h
      cases cells hf hs
      exact ⟨ρ, .refl _ ρ, (hm.withStack rfl).write_element array index stored⟩
  | invoke heffect =>
      obtain ⟨effect, pushed, heap, heffect', -, hlen, rfl⟩ := h
      obtain rfl := Except.ok.inj (heffect.symm.trans heffect')
      exact plain heffect hm hinj hfresh hlen (by simp)
  | plain hplain heffect =>
      obtain ⟨effect, pushed, heffect', -, hlen, rfl⟩ := h.of_isPlain hplain
      obtain rfl := Except.ok.inj (heffect.symm.trans heffect')
      exact plain heffect hm hinj hfresh hlen fun _ _ hl => ⟨hl, rfl⟩

end Models

end ValueFrame

end Nullness
