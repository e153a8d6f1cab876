import Mathlib.Tactic
import Nullness.Proofs.Knowledge
import Nullness.Proofs.NumberedDepths

/-!
# Where available loads come from

A load whose result is available at a point has been read or written by an instruction on the way, and
the frame after that instruction tells its label: it is the label on top of the stack, or the label
under which the written cell is available. So there are no more labels of available loads than
instructions.

* `ValueFrame.LoadsStep`: what an instruction does to the available loads;
* `ValueNumbering.available_told`: **the label of an available load is told by an instruction;**
* `NullModel.learnedNumbers`: the classes whose values instructions may get to know, at most one for
  each instruction;
* `NullModel.available_learned`: the number of an available load is among them.
-/

namespace Nullness

/-! ### Renamed loads -/

lemma SortedMap.isSome_get?_ofList {κ α : Type} [Ord κ] [Std.TransOrd κ] [Std.LawfulEqOrd κ]
    [DecidableEq κ] {l : List (κ × α)} {e : κ × α} (h : e ∈ l) :
    ((SortedMap.ofList l).get? e.1).isSome = true := by
  have hfold : ∀ (l : List (κ × α)) (m : SortedMap κ α),
      (m.get? e.1).isSome = true ∨ e ∈ l →
        ((l.foldl (fun m e => m.insert e.1 e.2) m).get? e.1).isSome = true := by
    intro l
    induction l with
    | nil => exact fun m h => h.resolve_right List.not_mem_nil
    | cons a l ih =>
        intro m h
        refine ih _ ?_
        rw [get?_insert]
        rcases h with h | h
        · left
          split
          · rfl
          · exact h
        · rcases List.mem_cons.1 h with rfl | h
          · exact .inl (by rw [if_pos rfl]; rfl)
          · exact .inr h
  exact hfold l .empty (.inr h)

lemma Load.map_injOn {α β : Type} {r : α → β} {l l' : Load α}
    (hr : ∀ a ∈ l.labels, ∀ a' ∈ l'.labels, r a = r a' → a = a') (h : l.map r = l'.map r) :
    l = l' := by
  cases l with
  | field reference fld =>
      cases l' with
      | field reference' fld' =>
          simp only [Load.map, Load.field.injEq] at h
          obtain ⟨href, rfl⟩ := h
          cases reference with
          | none =>
              cases reference' with
              | none => rfl
              | some _ => cases href
          | some a =>
              cases reference' with
              | none => cases href
              | some a' =>
                  rw [hr a (by simp) a' (by simp) (Option.some.inj href)]
      | element _ _ => cases h
  | element array index =>
      cases l' with
      | field _ _ => cases h
      | element array' index' =>
          simp only [Load.map, Load.element.injEq] at h
          rw [hr array (by simp) array' (by simp) h.1, hr index (by simp) index' (by simp) h.2]

/-- Neither a call nor a write to the heap. -/
def Opcode.keepsHeap : Opcode → Bool
  | .invoke _ | .putField _ | .putStatic _ | .arrayStore => false
  | _ => true

lemma Opcode.keepsHeap_of_isPlain {op : Opcode} (hplain : op.isPlain = true) :
    op.keepsHeap = true := by
  cases op with
  | invoke | putField | putStatic | arrayStore => cases hplain
  | _ => rfl

namespace ValueFrame

section

variable {α β : Type} [Ord α] [Ord β] [Std.LawfulEqOrd α] [Std.TransOrd β] [Std.LawfulEqOrd β]
  [DecidableEq β] {f : ValueFrame α} {r : α → β}

/-- An available load stays available when labels get different names. -/
lemma available?_map_of (hr : ∀ a ∈ f.labels, ∀ a' ∈ f.labels, r a = r a' → a = a') {l : Load α}
    {label : α} (h : f.available? l = some label) :
    (f.map r).available? (l.map r) = some (r label) := by
  have hmem : (l.map r, r label) ∈ f.loads.entries.map fun e => (e.1.map r, r e.2) :=
    List.mem_map.2 ⟨(l, label), SortedMap.get?_eq_some_iff.1 h, rfl⟩
  obtain ⟨label', hlabel'⟩ := Option.isSome_iff_exists.1 (SortedMap.isSome_get?_ofList hmem)
  obtain ⟨l₁, label₁, hl₁, hmap, rfl⟩ := available?_map (f := f) hlabel'
  obtain rfl : l₁ = l := Load.map_injOn
    (fun a ha a' ha' => hr a (mem_labels_of_load hl₁ ha) a' (mem_labels_of_load h ha')) hmap
  obtain rfl := Option.some.inj (hl₁.symm.trans h)
  exact hlabel'

end

/-! ### Through an instruction -/

variable {α : Type} [Ord α]

/-- The load of the cell that a store writes. -/
def storedLoad? (f : ValueFrame α) : Opcode → Option (Load α)
  | .putField field => (f.stackValue? 1).map fun reference => .field (some reference) field
  | .putStatic field => some (.field none field)
  | .arrayStore => (f.stackValue? 2).bind fun array =>
      (f.stackValue? 1).map fun position => .element array position
  | _ => none

/-- The load that a heap access names by the operands that it finds on the stack. -/
def named? (f : ValueFrame α) : Opcode → Option (Load α)
  | .getField field => (f.stackValue? 0).map fun reference => .field (some reference) field
  | .getStatic field => some (.field none field)
  | .arrayLoad => (f.stackValue? 1).bind fun array =>
      (f.stackValue? 0).map fun position => .element array position
  | op => f.storedLoad? op

/-- The label that the frames before and after an instruction tell: that of the cell which a store
writes, and else the one on top of the stack. -/
def told? (f f' : ValueFrame α) (op : Opcode) : Option α :=
  match op with
  | .putField _ | .putStatic _ | .arrayStore => (f.storedLoad? op).bind f'.available?
  | _ => f'.topValue?

variable [Std.TransOrd α] [Std.LawfulEqOrd α] [DecidableEq α] {f f' : ValueFrame α}
  {output : Nat → α} {op : Opcode} {l : Load α} {label : α}

lemma available?_readHeap {fresh : α} {read : Load α}
    (hl : (f.readHeap fresh read).available? l = some label) :
    f.available? l = some label ∨ (f.readHeap fresh read).topValue? = some label := by
  unfold readHeap at hl ⊢
  split at hl
  · exact .inl hl
  · have hl : (f.writeHeap read fresh).available? l = some label := hl
    rw [available?_writeHeap] at hl
    split at hl
    · obtain rfl := Option.some.inj hl
      exact .inr rfl
    · exact .inl hl

lemma available?_of_readHeap {fresh : α} {read : Load α} (hl : f.available? l = some label) :
    (f.readHeap fresh read).available? l = some label := by
  unfold readHeap
  split
  · exact hl
  · rename_i hread
    have hne : l ≠ read := by
      rintro rfl
      rw [hread] at hl
      cases hl
    have hwritten : (f.writeHeap read fresh).available? l = some label := by
      rw [available?_writeHeap, if_neg hne]
      exact hl
    exact hwritten

/-- What an instruction does to the available loads. -/
inductive LoadsStep (f : ValueFrame α) (output : Nat → α) (op : Opcode) : ValueFrame α → Prop
  | kept {f' : ValueFrame α} (hkeeps : op.keepsHeap = true) (hloads : f'.loads = f.loads) :
      LoadsStep f output op f'
  | read {f₀ : ValueFrame α} {l₀ : Load α} (hkeeps : op.keepsHeap = true)
      (hloads : f₀.loads = f.loads)
      (htold : f.told? (f₀.readHeap (output 0) l₀) op = (f₀.readHeap (output 0) l₀).topValue?)
      (hnamed : f.named? op = some l₀) :
      LoadsStep f output op (f₀.readHeap (output 0) l₀)
  | written {f₀ : ValueFrame α} {l₀ : Load α} {x : α} (hchanges : op.keepsHeap = false)
      (hold : ∀ l label, f₀.available? l = some label → f.available? l = some label)
      (htold : f.told? (f₀.writeHeap l₀ x) op = (f₀.writeHeap l₀ x).available? l₀)
      (hnamed : f.named? op = some l₀) :
      LoadsStep f output op (f₀.writeHeap l₀ x)
  | called {f' : ValueFrame α} (hcall : ∃ call, op = .invoke call) (hloads : f'.loads = .empty) :
      LoadsStep f output op f'

omit [DecidableEq α] in
lemma loadsStep_of_step [DescriptorReader] (h : f.step output op = .ok f') :
    f.LoadsStep output op f' := by
  cases step_eq_ok_iff.1 h with
  | load | store | pop | dup | dupX1 | swap => exact .kept rfl rfl
  | getField hs | arrayLoad hs => exact .read rfl rfl rfl (by simp [named?, stackValue?, hs])
  | getStatic => exact .read rfl rfl rfl rfl
  | putStatic => exact .written rfl (fun _ _ hl => (available?_killField.1 hl).1) rfl rfl
  | putField hs =>
      exact .written rfl (fun _ _ hl => (available?_killField.1 hl).1)
        (by simp [told?, storedLoad?, stackValue?, hs])
        (by simp [named?, storedLoad?, stackValue?, hs])
  | arrayStore hs =>
      exact .written rfl (fun _ _ hl => (available?_killElements.1 hl).1)
        (by simp [told?, storedLoad?, stackValue?, hs])
        (by simp [named?, storedLoad?, stackValue?, hs])
  | invoke => exact .called ⟨_, rfl⟩ rfl
  | plain hplain => exact .kept (Opcode.keepsHeap_of_isPlain hplain) rfl

/-- A load that is available after an instruction was available before it, or the instruction tells
its label. -/
lemma available?_step [DescriptorReader] (h : f.step output op = .ok f')
    (hl : f'.available? l = some label) :
    f.available? l = some label ∨ f.told? f' op = some label := by
  cases loadsStep_of_step h with
  | kept _ hloads =>
      rw [available?, hloads] at hl
      exact .inl hl
  | read _ hloads htold =>
      rw [htold]
      refine (available?_readHeap hl).imp_left fun hl => ?_
      rw [available?, hloads] at hl
      exact hl
  | @written _ l₀ _ _ hold htold =>
      by_cases heq : l = l₀
      · exact .inr (htold.trans (heq ▸ hl))
      · rw [available?_writeHeap, if_neg heq] at hl
        exact .inl (hold l label hl)
  | called _ hloads =>
      rw [available?, hloads] at hl
      cases hl

/-- An available load stays available while the heap is kept. -/
lemma available?_of_keepsHeap [DescriptorReader] (hkeeps : op.keepsHeap = true)
    (h : f.step output op = .ok f')
    (hl : f.available? l = some label) : f'.available? l = some label := by
  cases loadsStep_of_step h with
  | kept _ hloads => rwa [available?, hloads]
  | read _ hloads =>
      refine available?_of_readHeap ?_
      rwa [available?, hloads]
  | written hchanges => simp [hkeeps] at hchanges
  | called hcall =>
      obtain ⟨call, rfl⟩ := hcall
      cases hkeeps

end ValueFrame

/-! ### On the way from the entry -/

namespace ValueNumbering

open FlowGraph

variable [DescriptorReader] {g : FlowGraph} {numLocals maxStack n : Nat}
  {s : Solution g OriginFact Unit} {b : g.Node} {index depth : Nat} {l : Load ValueOrigin}
  {label : ValueOrigin}

/-- The frames around some instruction tell a label. -/
def Told (g : FlowGraph) (numLocals maxStack : Nat) (s : Solution g OriginFact Unit)
    (label : ValueOrigin) : Prop :=
  ∃ (b : g.Node) (index : Nat) (i : Instruction) (f f' : ValueFrame ValueOrigin),
    (g.instructions b)[index]? = some i ∧ At g numLocals maxStack s b index f ∧
      At g numLocals maxStack s b (index + 1) f' ∧ f.told? f' i.op = some label

/-- From the start of a block to every point in it. -/
lemma told_within (hstart : ∀ f l label, At g numLocals maxStack s b 0 f →
      f.available? l = some label → Told g numLocals maxStack s label)
    (hindex : index ≤ (g.instructions b).length) {f : ValueFrame ValueOrigin}
    (hf : At g numLocals maxStack s b index f) (hl : f.available? l = some label) :
    Told g numLocals maxStack s label := by
  induction index generalizing f with
  | zero => exact hstart f l label hf hl
  | succ index ih =>
      have hi := List.getElem?_eq_getElem (show index < (g.instructions b).length by omega)
      obtain ⟨f₀, hf₀, hstep⟩ := of_at_succ hi hf
      rcases ValueFrame.available?_step hstep hl with hl | htold
      · exact ih (by omega) hf₀ hl
      · exact ⟨b, index, _, f₀, f, hi, hf₀, hf, htold⟩

/-- What the start of a block knows of the loads in a frame that is brought there. -/
lemma told_brought {e : g.Arc} {f : ValueFrame ValueOrigin}
    (hsolve : (analysis g numLocals maxStack).solve = .ok s) (he : e ∈ g.edges)
    (hreach : g.Reachable e.source)
    (hbrings : (analysis g numLocals maxStack).Brings s.table e (some f))
    (hsource : ∀ l label, f.available? l = some label → Told g numLocals maxStack s label) :
    ∀ f' l label, At g numLocals maxStack s e.target 0 f' → f'.available? l = some label →
      Told g numLocals maxStack s label := by
  intro f' l label hf' hl
  obtain ⟨_, f'', ⟨⟩, hf'', hjoined⟩ := FlowAnalysis.flow_bound pointInvariant_wellShaped
    joinBound_joined rfl hsolve he hreach hbrings
  obtain rfl := Option.some.inj (hf'.symm.trans hf'')
  exact hsource l label (hjoined.loads l label hl)

/-- **The label of an available load is told by an instruction.** -/
theorem available_told (hsolve : (analysis g numLocals maxStack).solve = .ok s)
    (hindex : index ≤ (g.instructions b).length) {f : ValueFrame ValueOrigin}
    (hf : At g numLocals maxStack s b index f) (hl : f.available? l = some label) :
    Told g numLocals maxStack s label := by
  have hcons := FlowAnalysis.solve_consistent rfl hsolve
  obtain ⟨-, n, harrives⟩ := arrives_of_frame hsolve hindex hf
  refine told_within ?_ hindex hf hl
  clear hf hl hindex
  generalize f.depth = depth at harrives
  induction harrives with
  | entry =>
      intro f l label hf hl
      obtain ⟨f', hf', hjoined⟩ := at_entry hsolve
      obtain rfl := Option.some.inj (hf.symm.trans hf')
      cases hjoined.loads l label hl
  | step _ _ _ ih => exact ih
  | @jump n e depth hsource he hkind ih =>
      obtain ⟨f, hf, -⟩ := frame_of_arrives hsolve hsource
      exact told_brought hsolve he hsource.reachable (brings_result hcons hkind hf)
        fun l label hl => told_within ih le_rfl hf hl
  | @throw n e depth hsource he hkind ih =>
      obtain ⟨f, hf, -⟩ := frame_of_arrives hsolve hsource
      have hstart : (s.table.get e.source).start = some f := by
        rw [At, FlowAnalysis.factAt_eq_within, FlowAnalysis.within_zero] at hf
        exact hf
      obtain ⟨x, hx, htop⟩ := hcons.exists_thrown (b := e.source) (by rw [hstart]; rfl)
      obtain ⟨x, rfl⟩ := isTop_eq_false_iff.1 htop
      obtain ⟨index, hindex, hwithin⟩ := hcons.thrown hx
      exact told_brought hsolve he hsource.reachable
        (f := handlerFrame e.target x) (.thrown hkind hx rfl rfl rfl)
        fun l label hl => told_within ih hindex hwithin.symm hl

end ValueNumbering

/-! ### What instructions let frames know -/

/-- The instructions of a graph, counted block by block. -/
lemma FlowGraph.sum_length_instructions (g : FlowGraph) :
    (g.nodes.map fun b => (g.instructions b).length).sum = g.instructionCount := by
  have hcode : g.nodes.map g.instructions = g.code.toList := by
    apply List.ext_getElem
    · simp [FlowGraph.nodes]
    · intro i hi hi'
      simp [FlowGraph.nodes, FlowGraph.instructions, Vector.get]
  rw [FlowGraph.instructionCount, List.length_flatten, ← hcode, List.map_map]
  rfl

namespace NullModel

open ValueNumbering

variable {g : FlowGraph} {m : NullModel g} {numLocals maxStack : Nat}
  {sv : Solution g OriginFact Unit} {order : List ValueOrigin} {b : g.Node} {index : Nat}
  {op : Opcode}

/-- The classes whose values instructions may get to know. -/
def learnedNumbers (m : NullModel g) : List Nat :=
  g.nodes.flatMap fun b => (g.instructions b).zipIdx.filterMap fun (i, index) =>
    m.learned? b index i.op

lemma mem_learnedNumbers {i : Instruction} {number : Nat} (hi : (g.instructions b)[index]? = some i)
    (h : m.learned? b index i.op = some number) : number ∈ m.learnedNumbers := by
  refine List.mem_flatMap.2 ⟨b, List.mem_finRange b, List.mem_filterMap.2 ⟨(i, index), ?_, h⟩⟩
  rw [List.mem_zipIdx_iff_getElem?]
  exact hi

/-- At most one class is learned in each instruction. -/
lemma length_learnedNumbers_le (m : NullModel g) : m.learnedNumbers.length ≤ g.instructionCount := by
  rw [← FlowGraph.sum_length_instructions, learnedNumbers, List.length_flatMap]
  refine List.sum_le_sum fun b _ => ?_
  exact (List.length_filterMap_le _ _).trans_eq List.length_zipIdx

section

variable [DescriptorReader] (hn : Numbers m.numbers numLocals maxStack sv order)
  (htrack : m.config.trackValueNumbers = true)

include hn

lemma operand?_numbered (hindex : index ≤ (g.instructions b).length) {f : ValueFrame ValueOrigin}
    (hf : At g numLocals maxStack sv b index f) (fromTop : Nat) :
    m.operand? b index fromTop = (f.stackValue? fromTop).map (numberOf order) := by
  rw [operand?, (hn.factAt?_eq_some_iff hindex).2 ⟨f, hf, rfl⟩]
  simp [ValueFrame.stackValue?, ValueFrame.map]

lemma storedLoad?_numbered (hindex : index ≤ (g.instructions b).length)
    {f : ValueFrame ValueOrigin} (hf : At g numLocals maxStack sv b index f) :
    m.storedLoad? b index op = (f.storedLoad? op).map (Load.map (numberOf order)) := by
  have hoperand := operand?_numbered hn hindex hf
  cases op with
  | putField field =>
      rw [storedLoad?, hoperand, ValueFrame.storedLoad?]
      cases f.stackValue? 1 <;> rfl
  | putStatic field => rfl
  | arrayStore =>
      rw [storedLoad?, hoperand, hoperand, ValueFrame.storedLoad?]
      cases f.stackValue? 2 <;> cases f.stackValue? 1 <;> rfl
  | _ => rfl

include htrack

/-- An instruction may get to know the class of the label that it tells. -/
lemma learned?_of_told {i : Instruction} {f f' : ValueFrame ValueOrigin} {label : ValueOrigin}
    (hi : (g.instructions b)[index]? = some i) (hf : At g numLocals maxStack sv b index f)
    (hf' : At g numLocals maxStack sv b (index + 1) f') (h : f.told? f' i.op = some label) :
    m.learned? b index i.op = some (numberOf order label) := by
  have hlt := (List.getElem?_eq_some_iff.1 hi).1
  have hafter : m.numbers.factAfter? b index = some (f'.map (numberOf order)) :=
    (hn.factAt?_eq_some_iff hlt).2 ⟨f', hf', rfl⟩
  have result : f'.topValue? = some label →
      m.resultNumber? b index = some (numberOf order label) := by
    intro h
    rw [ValueFrame.topValue?, ValueFrame.stackValue?] at h
    rw [resultNumber?, if_pos htrack, hafter]
    simp [ValueFrame.topValue?, ValueFrame.stackValue?, ValueFrame.map, h]
  have stored : (f.storedLoad? i.op).bind f'.available? = some label →
      m.storedNumber? b index (m.storedLoad? b index i.op) = some (numberOf order label) := by
    intro h
    obtain ⟨l, hl, h⟩ := Option.bind_eq_some_iff.1 h
    rw [storedNumber?, if_pos htrack, storedLoad?_numbered hn hlt.le hf, hl, hafter]
    exact ValueFrame.available?_map_of (fun a ha a' _ =>
      numberOf_injective (hn.mem_order hlt hf' ha)) h
  generalize i.op = op at h stored ⊢
  cases op with
  | putField | putStatic | arrayStore => exact stored h
  | _ => exact result h

omit hn in
include htrack in
/-- The number of a load that is available at the start of a block is learned somewhere. -/
lemma available_learned (h : ValueTable.ofGraph g numLocals maxStack = .ok m.numbers)
    {numbers : NumberedFrame} (hnumbers : m.numbers.startFact? b = some numbers) {l : Load Nat}
    {number : Nat} (hl : numbers.available? l = some number) : number ∈ m.learnedNumbers := by
  obtain ⟨sv, order, hn⟩ := numbers_ofGraph h
  obtain ⟨f, hf, rfl⟩ := (hn.factAt?_eq_some_iff (Nat.zero_le _)).1 hnumbers
  obtain ⟨l', label, hl', -, rfl⟩ := ValueFrame.available?_map hl
  obtain ⟨c, index, i, f₀, f', hi, hf₀, hf', htold⟩ :=
    available_told hn.solve (Nat.zero_le _) hf hl'
  exact mem_learnedNumbers hi (learned?_of_told hn htrack hi hf₀ hf' htold)

end

end NullModel

end Nullness
