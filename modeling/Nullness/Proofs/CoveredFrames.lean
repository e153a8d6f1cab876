import Mathlib.Tactic
import Nullness.Proofs.AvailableLoads

/-!
# Frames that say more

Two runs of the same instructions may label what they meet differently, and one may know more than
the other: that more slots hold the same value, or that more loads are available. A frame covers
another under a renaming of labels (`ValueFrame.Covers`) if all that the other says of its slots and
of the heap holds of it too.

* `ValueFrame.Covers.step`: **a covering frame still covers after an instruction**, if the renaming
  takes the label of a read to what the covering frame has read;
* `ValueFrame.named?_of_available`: a load that becomes available has just been named.
-/

namespace Nullness

/-- Whether an instruction reads the heap. -/
def Opcode.readsHeap : Opcode → Bool
  | .getField _ | .getStatic _ | .arrayLoad => true
  | _ => false

lemma Opcode.readsHeap_of_isPlain {op : Opcode} (hplain : op.isPlain = true) :
    op.readsHeap = false := by
  cases op with
  | getField | getStatic | arrayLoad => cases hplain
  | _ => rfl

namespace ValueFrame

variable {α : Type} [Ord α]

/-- Under a renaming of labels, a frame says of its slots and of the heap all that another frame
says. -/
structure Covers (ρ : α → α) (f g : ValueFrame α) : Prop where
  locals : f.locals = g.locals.map ρ
  stack : f.stack = g.stack.map ρ
  loads : ∀ l label, g.available? l = some label → f.available? (l.map ρ) = some (ρ label)

section

variable [Std.TransOrd α] [Std.LawfulEqOrd α] [DecidableEq α]

/-- What a heap read pushes is available afterwards. -/
lemma available?_self_readHeap (f : ValueFrame α) (fresh : α) (l : Load α) :
    (f.readHeap fresh l).available? l = (f.readHeap fresh l).topValue? := by
  unfold readHeap
  split
  · rename_i label hl
    exact hl
  · have hwritten : (f.writeHeap l fresh).available? l = some fresh := by
      rw [available?_writeHeap, if_pos rfl]
    exact hwritten

variable {f f' : ValueFrame α} {output : Nat → α} {op : Opcode} {l : Load α} {a label : α}

omit [Std.LawfulEqOrd α] [DecidableEq α] in
/-- A heap read takes operands from the stack and reads the load that they name. -/
lemma exists_readHeap [DescriptorReader] (h : f.step output op = .ok f')
    (hreads : op.readsHeap = true) :
    ∃ stack read, (∀ a ∈ stack, a ∈ f.stack) ∧ (∀ a ∈ read.labels, a ∈ f.stack) ∧
      f' = ({ f with stack } : ValueFrame α).readHeap (output 0) read := by
  cases step_eq_ok_iff.1 h with
  | getField hs | arrayLoad hs =>
      exact ⟨_, _, by simp +contextual [hs], by simp [hs], rfl⟩
  | getStatic => exact ⟨f.stack, _, fun _ ha => ha, by simp, rfl⟩
  | plain hplain => exact absurd (Opcode.readsHeap_of_isPlain hplain) (by simp [hreads])
  | _ => cases hreads

/-- **A load that becomes available has just been named.** -/
theorem named?_of_available [DescriptorReader] (h : f.step output op = .ok f')
    (hl : f'.available? l = some label)
    (hnew : f.available? l = none) : f.named? op = some l := by
  have hwritten : ∀ {f₀ : ValueFrame α} {l₀ : Load α} {x : α}, (∀ label, f₀.available? l = some label →
      f.available? l = some label) → (f₀.writeHeap l₀ x).available? l = some label → l = l₀ := by
    intro f₀ l₀ x hold hl
    by_contra hne
    rw [available?_writeHeap, if_neg hne] at hl
    cases (hold label hl).symm.trans hnew
  cases loadsStep_of_step h with
  | kept _ hloads =>
      rw [available?, hloads] at hl
      cases hl.symm.trans hnew
  | @read f₀ l₀ _ hloads _ hnamed =>
      have hold : ∀ label, f₀.available? l = some label → f.available? l = some label := by
        intro label hl
        rwa [available?, hloads] at hl
      rw [hnamed]
      unfold readHeap at hl
      split at hl
      · cases (hold label hl).symm.trans hnew
      · exact congrArg some (hwritten hold hl).symm
  | written _ hold _ hnamed => rw [hnamed, hwritten (hold l) hl]
  | called _ hloads =>
      rw [available?, hloads] at hl
      cases hl

/-- A label that is new after a heap read is on top of the stack. -/
lemma topValue?_of_new [DescriptorReader] (h : f.step output op = .ok f')
    (hreads : op.readsHeap = true)
    (ha : a ∈ f'.labels) (hnew : a ∉ f.labels) : f'.topValue? = some a := by
  obtain ⟨stack, read, hstack, hread, rfl⟩ := exists_readHeap h hreads
  have hbefore := labels_withStack (f := f) hstack
  have hold : ∀ a ∈ (({ f with stack } : ValueFrame α).readHeap (output 0) read).labels,
      a ∈ f.labels ∨
        (({ f with stack } : ValueFrame α).readHeap (output 0) read).topValue? = some a := by
    unfold readHeap
    split
    · exact labels_push (fun a ha => .inl (hbefore a ha)) (.inr rfl)
    · exact labels_push (labels_writeHeap (fun a ha => .inl (hbefore a ha))
        (fun a ha => .inl (mem_labels_of_stack (hread a ha))) (.inr rfl)) (.inr rfl)
  exact (hold a ha).resolve_left hnew

end

namespace Covers

variable {ρ ρ' : α → α} {f f' g g' : ValueFrame α} {output : Nat → α} {op : Opcode}

lemma numLocals_eq (hc : f.Covers ρ g) : f.numLocals = g.numLocals := by
  rw [numLocals, hc.locals, List.length_map]
  rfl

lemma depth_eq (hc : f.Covers ρ g) : f.depth = g.depth := by
  rw [depth, hc.stack, List.length_map]
  rfl

lemma slots_eq (hc : f.Covers ρ g) : f.slots = g.slots.map ρ := by
  rw [slots, slots, hc.locals, hc.stack, List.map_append, List.map_reverse]

/-- A frame may be compared slot by slot. -/
lemma of_slots (hlocals : f.numLocals = g.numLocals) (hslots : f.slots = g.slots.map ρ)
    (hloads : ∀ l label, g.available? l = some label → f.available? (l.map ρ) = some (ρ label)) :
    f.Covers ρ g := by
  rw [slots, slots, List.map_append, List.map_reverse] at hslots
  obtain ⟨h1, h2⟩ := List.append_inj hslots (by rw [List.length_map]; exact hlocals)
  exact ⟨h1, List.reverse_inj.1 h2, hloads⟩

lemma withStack {stack stack' : List α} (hc : f.Covers ρ g) (hstack : stack' = stack.map ρ) :
    Covers ρ { f with stack := stack' } { g with stack } :=
  ⟨hc.locals, hstack, hc.loads⟩

lemma push (hc : f.Covers ρ g) (label : α) : (f.push (ρ label)).Covers ρ (g.push label) where
  locals := hc.locals
  stack := by simp [ValueFrame.push, hc.stack]
  loads := hc.loads

/-- A heap access names the same load in both frames. -/
lemma named?_eq (hc : f.Covers ρ g) (op : Opcode) : f.named? op = (g.named? op).map (Load.map ρ) := by
  cases op <;> simp only [named?, storedLoad?, stackValue?, hc.stack, List.getElem?_map,
    Option.map_none, Option.map_some, Load.map]
  case getField => cases g.stack[0]? <;> rfl
  case putField => cases g.stack[1]? <;> rfl
  case arrayLoad => cases g.stack[1]? <;> cases g.stack[0]? <;> rfl
  case arrayStore => cases g.stack[2]? <;> cases g.stack[1]? <;> rfl

variable [Std.LawfulEqOrd α]

lemma killField (hc : f.Covers ρ g) (field : FieldRef) :
    (f.killField field).Covers ρ (g.killField field) where
  locals := hc.locals
  stack := hc.stack
  loads l label hl := by
    obtain ⟨hl, hother⟩ := available?_killField.1 hl
    refine available?_killField.2 ⟨hc.loads l label hl, fun reference heq => ?_⟩
    cases l with
    | field reference' fld =>
        obtain ⟨-, rfl⟩ := Load.field.inj heq
        exact hother reference' rfl
    | element array index => cases heq

lemma killElements (hc : f.Covers ρ g) : f.killElements.Covers ρ g.killElements where
  locals := hc.locals
  stack := hc.stack
  loads l label hl := by
    obtain ⟨hl, hother⟩ := available?_killElements.1 hl
    refine available?_killElements.2 ⟨hc.loads l label hl, fun array index heq => ?_⟩
    cases l with
    | field reference fld => cases heq
    | element array' index' => exact hother array' index' rfl

variable [Std.TransOrd α] [DecidableEq α]

/-- A cell is written of which the frame knew nothing under another name. -/
lemma writeHeap {l : Load α} (hc : f.Covers ρ g)
    (hother : ∀ l' label, g.available? l' = some label → l'.map ρ ≠ l.map ρ) (stored : α) :
    (f.writeHeap (l.map ρ) (ρ stored)).Covers ρ (g.writeHeap l stored) where
  locals := hc.locals
  stack := hc.stack
  loads l' label hl := by
    rw [available?_writeHeap] at hl ⊢
    split at hl
    · rename_i heq
      rw [heq, if_pos rfl, Option.some.inj hl]
    · rw [if_neg (hother l' label hl)]
      exact hc.loads l' label hl

/-- A store to a field leaves no load of that field available, whatever its object. -/
lemma write_field (hc : f.Covers ρ g) (reference : Option α) (field : FieldRef) (stored : α) :
    ((f.killField field).writeHeap (.field (reference.map ρ) field) (ρ stored)).Covers ρ
      ((g.killField field).writeHeap (.field reference field) stored) := by
  refine (hc.killField field).writeHeap (l := .field reference field) (fun l' label hl => ?_) stored
  cases l' with
  | field reference' fld =>
      intro heq
      obtain ⟨-, rfl⟩ := Load.field.inj heq
      exact (available?_killField.1 hl).2 reference' rfl
  | element array index => simp [Load.map]

/-- A store to an array leaves no load of an element available. -/
lemma write_element (hc : f.Covers ρ g) (array index stored : α) :
    (f.killElements.writeHeap (.element (ρ array) (ρ index)) (ρ stored)).Covers ρ
      (g.killElements.writeHeap (.element array index) stored) := by
  refine hc.killElements.writeHeap (l := .element array index) (fun l' label hl => ?_) stored
  cases l' with
  | field reference fld => simp [Load.map]
  | element array' index' => exact absurd rfl ((available?_killElements.1 hl).2 array' index')

/-- A heap read pushes in both frames what the renaming says, if that is what the covering frame has
read. -/
lemma readHeap {l : Load α} {fresh : α} (hc : f.Covers ρ g)
    (hread : (f.readHeap fresh (l.map ρ)).topValue? = some (ρ fresh)) :
    (f.readHeap fresh (l.map ρ)).Covers ρ (g.readHeap fresh l) := by
  have hkept : ∀ l' label, g.available? l' = some label →
      (f.readHeap fresh (l.map ρ)).available? (l'.map ρ) = some (ρ label) :=
    fun l' label hl => available?_of_readHeap (hc.loads l' label hl)
  cases hl : g.available? l with
  | some label =>
      -- what one frame has is available in the other as well
      have hf : f.readHeap fresh (l.map ρ) = f.push (ρ label) := by
        rw [ValueFrame.readHeap, hc.loads l label hl]
      have hg : g.readHeap fresh l = g.push label := by rw [ValueFrame.readHeap, hl]
      rw [hf, hg]
      exact hc.push label
  | none =>
      have hg : g.readHeap fresh l = (g.writeHeap l fresh).push fresh := by
        rw [ValueFrame.readHeap, hl]
        rfl
      rw [hg]
      refine ⟨?_, ?_, fun l' label hl' => ?_⟩
      · rw [readHeap_eq]
        exact hc.locals
      · rw [readHeap_eq] at hread ⊢
        obtain hread : (f.available? (l.map ρ)).getD fresh = ρ fresh := Option.some.inj hread
        simp [hread, hc.stack, ValueFrame.push, ValueFrame.writeHeap]
      · have hl' : (g.writeHeap l fresh).available? l' = some label := hl'
        rw [available?_writeHeap] at hl'
        split at hl'
        · rename_i heq
          obtain rfl := Option.some.inj hl'
          rw [heq, available?_self_readHeap, hread]
        · exact hkept l' label hl'

omit [Std.TransOrd α] [Std.LawfulEqOrd α] [DecidableEq α] in
/-- Results that the renaming keeps are pushed. -/
lemma plain {effect : StackEffect} {loads loads' : SortedMap (Load α) α} (hc : f.Covers ρ g)
    (hkept : ∀ k, ρ (output k) = output k)
    (hloads : ∀ l label, loads'.get? l = some label → loads.get? (l.map ρ) = some (ρ label)) :
    (f.plain output effect loads).Covers ρ (g.plain output effect loads') where
  locals := hc.locals
  stack := by
    have hresults : (List.range effect.pushes).map (ρ ∘ output)
        = (List.range effect.pushes).map output := List.map_congr_left fun k _ => hkept k
    simp only [ValueFrame.plain, List.map_append, List.map_reverse, List.map_map, hresults,
      List.map_drop, hc.stack]
  loads := hloads

/-- **A covering frame still covers after an instruction**, if the renaming takes the label of a read
to what the covering frame has read, and keeps the labels of other results. -/
theorem step [DescriptorReader] (hc : f.Covers ρ g) (hf : f.step output op = .ok f')
    (hg : g.step output op = .ok g')
    (hread : op.readsHeap = true → f'.topValue? = some (ρ (output 0)))
    (hkept : op.readsHeap = false → ∀ k, ρ (output k) = output k) : f'.Covers ρ g' := by
  -- what the covering frame pops is what the other one pops, under the new names
  have cells : ∀ {labels : List α}, g.stack = labels → f.stack = labels.map ρ :=
    fun hs => by rw [hc.stack, hs]
  -- the covering frame takes the same step, and a frame has one step only
  have same : ∀ {f₀}, Stepped output op f f₀ → f' = f₀ :=
    fun h₀ => Except.ok.inj (hf.symm.trans (step_eq_ok_iff.2 h₀))
  have depth_le : ∀ {count}, count ≤ g.depth → count ≤ f.depth := fun h => h.trans_eq hc.depth_eq.symm
  cases step_eq_ok_iff.1 hg with
  | @load _ slot label hlabel =>
      have hlocal : f.locals[slot]? = some (ρ label) := by
        rw [hc.locals, List.getElem?_map, hlabel, Option.map_some]
      obtain rfl := same (.load hlocal)
      exact hc.push label
  | store hslot hs =>
      obtain rfl := same (.store (hslot.trans_eq hc.numLocals_eq.symm) (cells hs))
      exact ⟨by simp [hc.locals, List.map_set], rfl, hc.loads⟩
  | pop hs =>
      obtain rfl := same (.pop (cells hs))
      exact hc.withStack rfl
  | dup hs =>
      obtain rfl := same (.dup (cells hs))
      exact hc.withStack rfl
  | dupX1 hs =>
      obtain rfl := same (.dupX1 (cells hs))
      exact hc.withStack rfl
  | swap hs =>
      obtain rfl := same (.swap (cells hs))
      exact hc.withStack rfl
  | @getField _ field object _ hs =>
      obtain rfl := same (.getField (cells hs))
      exact (hc.withStack rfl).readHeap (l := .field (some object) field) (hread rfl)
  | getStatic _ field =>
      obtain rfl := same (.getStatic f field)
      exact hc.readHeap (l := .field none field) (hread rfl)
  | @arrayLoad _ index array _ hs =>
      obtain rfl := same (.arrayLoad (cells hs))
      exact (hc.withStack rfl).readHeap (l := .element array index) (hread rfl)
  | @putField _ field stored object _ hs =>
      obtain rfl := same (.putField (cells hs))
      exact (hc.withStack rfl).write_field (some object) field stored
  | @putStatic _ field stored _ hs =>
      obtain rfl := same (.putStatic (cells hs))
      exact (hc.withStack rfl).write_field none field stored
  | @arrayStore _ stored index array _ hs =>
      obtain rfl := same (.arrayStore (cells hs))
      exact (hc.withStack rfl).write_element array index stored
  | invoke heffect hpops =>
      obtain rfl := same (.invoke heffect (depth_le hpops))
      exact hc.plain (hkept rfl) (by simp)
  | plain hplain heffect hpops =>
      obtain rfl := same (.plain hplain heffect (depth_le hpops))
      exact hc.plain (hkept (Opcode.readsHeap_of_isPlain hplain)) hc.loads

end Covers

end ValueFrame

end Nullness
