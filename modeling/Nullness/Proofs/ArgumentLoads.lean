import Mathlib.Tactic
import Nullness.Descriptor.Reader
import Nullness.Proofs.CalledLocals
import Nullness.Proofs.NumberedDepths

/-!
# Loads in front of a call

The local variables that were passed to a call are found by walking backwards from it over loads, and
over block boundaries where only a fall-through leads from one block to the next. On the way back the
frames of value numbering lose the cells that the loads have put on the stack, and nothing else: a
load copies the label of its variable, and a block that is entered on one edge alone starts with the
frame at the end of the block before it. The block of the entry needs an argument of its own, since
control also comes there from outside, but then with an empty stack.

* `LoadWalk.turn`, `LoadWalk.Ends`: the walk, one instruction or one boundary at a time;
* `LoadWalk.ends`: every walk ends, with what a search by whole blocks finds;
* `ValueNumbering.Traced.turn`, `ValueNumbering.Traced.of_ends`: what one turn and a whole walk tell
  of the labels at its start;
* `NullModel.argumentLoads_exact`: **guarded arguments are the arguments.**
-/

namespace Nullness

open NullModel

/-! ### The walk -/

/-- A walk backwards from a point: where it has come to, the slots of the loads that it has passed,
nearest first, and the number of block boundaries that it has passed. -/
structure LoadWalk (g : FlowGraph) where
  block : g.Node
  index : Nat
  slots : List Nat
  hops : Nat

namespace LoadWalk

variable {g : FlowGraph} {count : Nat} {w w' : LoadWalk g}

/-- A walk that has passed nothing. -/
def start (b : g.Node) (index : Nat) : LoadWalk g := ⟨b, index, [], 0⟩

/-- One turn of a walk that looks for so many loads: it ends with an answer, or passes a load or a
block boundary. -/
def turn (count : Nat) (w : LoadWalk g) : Option (List Nat) ⊕ LoadWalk g :=
  if count ≤ w.slots.length then .inl (some w.slots)
  else
    match w.index with
    | 0 =>
      if g.size < w.hops + 1 then .inl none
      else
        match g.fallThroughPredecessor? w.block with
        | none => .inl none
        | some p => .inr ⟨p, (g.instructions p).length, w.slots, w.hops + 1⟩
    | index + 1 =>
      match (g.ops w.block)[index]? with
      | some (.load slot) => .inr ⟨w.block, index, w.slots ++ [slot], w.hops⟩
      | _ => .inl none

/-- A walk ends after so many turns with an answer. -/
inductive Ends (count : Nat) : Nat → LoadWalk g → Option (List Nat) → Prop
  | answers {w : LoadWalk g} {answer : Option (List Nat)} :
      w.turn count = .inl answer → Ends count 1 w answer
  | goesOn {turns : Nat} {w w' : LoadWalk g} {answer : Option (List Nat)} :
      w.turn count = .inr w' → Ends count turns w' answer → Ends count (turns + 1) w answer

/-- A walk that passes a load or a boundary still looks for a load. -/
lemma turn_cases (h : w.turn count = .inr w') : w.slots.length < count ∧
    ((w.index = 0 ∧ w.hops < g.size ∧ ∃ p, g.fallThroughPredecessor? w.block = some p ∧
        w' = ⟨p, (g.instructions p).length, w.slots, w.hops + 1⟩) ∨
      ∃ index slot, w.index = index + 1 ∧ (g.ops w.block)[index]? = some (.load slot) ∧
        w' = ⟨w.block, index, w.slots ++ [slot], w.hops⟩) := by
  rw [turn] at h
  split at h
  · cases h
  rename_i hmissing
  refine ⟨Nat.lt_of_not_le hmissing, ?_⟩
  split at h
  · rename_i hindex
    split at h
    · cases h
    rename_i hhops
    split at h
    · cases h
    · rename_i p hp
      exact .inl ⟨hindex, by omega, p, hp, (Sum.inr.inj h).symm⟩
  · rename_i index hindex
    split at h
    · rename_i slot hload
      exact .inr ⟨index, slot, hindex, hload, (Sum.inr.inj h).symm⟩
    · cases h

/-- A walk that finds something has found enough. -/
lemma turn_eq_inl_some {slots : List Nat} (h : w.turn count = .inl (some slots)) :
    count ≤ w.slots.length ∧ w.slots = slots := by
  rw [turn] at h
  split at h
  · rename_i hdone
    exact ⟨hdone, by simpa using h⟩
  · split at h
    · split at h
      · cases h
      · split at h <;> cases h
    · split at h <;> cases h

/-! ### Walks end -/

/-- A walk stays in the graph, and passes no more loads and boundaries than it may. -/
structure Bounded (count : Nat) (w : LoadWalk g) : Prop where
  index_le : w.index ≤ (g.instructions w.block).length
  length_le : w.slots.length ≤ count
  hops_le : w.hops ≤ g.size

/-- How many loads and boundaries may still be passed. -/
def left (count : Nat) (w : LoadWalk g) : Nat := count - w.slots.length + (g.size - w.hops)

lemma Bounded.turn (hw : w.Bounded count) (h : w.turn count = .inr w') :
    w'.Bounded count ∧ w'.left count + 1 = w.left count := by
  have hindex := hw.index_le
  have hhops := hw.hops_le
  obtain ⟨hmissing, ⟨-, hhop, p, -, rfl⟩ | ⟨index, slot, heq, -, rfl⟩⟩ := turn_cases h
  · refine ⟨⟨le_rfl, hw.length_le, hhop⟩, ?_⟩
    simp only [left]
    omega
  · refine ⟨⟨by simp only; omega, by simpa using hmissing, hhops⟩, ?_⟩
    simp only [left, List.length_append, List.length_singleton]
    omega

/-- What a search by whole blocks finds from where a walk has come to. -/
def found (count : Nat) (w : LoadWalk g) : Option (List Nat) :=
  (loadsBackwards (g.size - w.hops) w.block (count - w.slots.length)
    ((g.ops w.block).take w.index).reverse).map (w.slots ++ ·)

lemma found_start (b : g.Node) (index : Nat) :
    (start b index).found count = argumentLoads b index count := by
  simp [found, start, argumentLoads]

/-- A turn keeps what is found. -/
lemma found_turn (hw : w.Bounded count) :
    w.found count = Sum.elim id (found count) (w.turn count) := by
  by_cases hdone : count ≤ w.slots.length
  · rw [turn, if_pos hdone, found, Nat.sub_eq_zero_of_le hdone, Machine.loadsBackwards_zero]
    simp
  obtain ⟨missing, hmissing⟩ : ∃ missing, count - w.slots.length = missing + 1 :=
    ⟨count - w.slots.length - 1, by omega⟩
  rw [turn, if_neg hdone, found, hmissing]
  cases hindex : w.index with
  | zero =>
      rw [List.take_zero, List.reverse_nil]
      by_cases hhops : g.size < w.hops + 1
      · rw [Nat.sub_eq_zero_of_le (Nat.le_of_lt_succ hhops), Machine.loadsBackwards_nil_zero]
        simp [hhops]
      · obtain ⟨blocks, hblocks⟩ : ∃ blocks, g.size - w.hops = blocks + 1 :=
          ⟨g.size - w.hops - 1, by omega⟩
        have hfewer : g.size - (w.hops + 1) = blocks := by omega
        rw [hblocks, Machine.loadsBackwards_nil]
        cases g.fallThroughPredecessor? w.block with
        | none => simp [hhops]
        | some p => simp [hhops, found, hmissing, hfewer, g.take_ops, opsBackwards]
  | succ index =>
      obtain ⟨op, hop⟩ : ∃ op, (g.ops w.block)[index]? = some op := by
        refine ⟨_, List.getElem?_eq_getElem ?_⟩
        have := hw.index_le
        rw [FlowGraph.ops, List.length_map]
        omega
      have hless : count - (w.slots.length + 1) = missing := by omega
      rw [List.take_add_one, hop, Option.toList_some, List.reverse_append, List.reverse_singleton,
        List.singleton_append]
      by_cases hload : ∃ slot, op = .load slot
      · obtain ⟨slot, rfl⟩ := hload
        rw [Machine.loadsBackwards_load]
        simp [hop, found, hless, Function.comp_def]
      · push Not at hload
        rw [Machine.loadsBackwards_other hload]
        cases op <;> first | exact absurd rfl (hload _) | simp [hop]

/-- Every walk ends, and soon, with what a search by whole blocks finds. -/
lemma ends (hw : w.Bounded count) :
    ∃ turns ≤ w.left count + 1, Ends count turns w (w.found count) := by
  induction hn : w.left count generalizing w with
  | zero =>
      cases hturn : w.turn count with
      | inl answer =>
          refine ⟨1, le_rfl, .answers ?_⟩
          rw [found_turn hw, hturn]
          rfl
      | inr w' =>
          have := (hw.turn hturn).2
          omega
  | succ n ih =>
      cases hturn : w.turn count with
      | inl answer =>
          refine ⟨1, by omega, .answers ?_⟩
          rw [found_turn hw, hturn]
          rfl
      | inr w' =>
          obtain ⟨hw', hleft⟩ := hw.turn hturn
          obtain ⟨turns, hturns, hends⟩ := ih hw' (by omega)
          refine ⟨turns + 1, by omega, .goesOn hturn ?_⟩
          rw [found_turn hw, hturn]
          exact hends

lemma bounded_start (count : Nat) {b : g.Node} {index : Nat}
    (hindex : index ≤ (g.instructions b).length) :
    (start b index).Bounded count :=
  ⟨hindex, Nat.zero_le _, Nat.zero_le _⟩

/-- The loads in front of a point are found by walking there. -/
lemma ends_argumentLoads (count : Nat) {b : g.Node} {index : Nat}
    (hindex : index ≤ (g.instructions b).length) :
    ∃ turns ≤ count + g.size + 1,
      Ends count turns (start b index) (argumentLoads b index count) := by
  obtain ⟨turns, hturns, hends⟩ := ends (bounded_start count hindex)
  exact ⟨turns, hturns, found_start b index ▸ hends⟩

end LoadWalk

/-! ### Labels along a walk -/

namespace ValueNumbering

variable [DescriptorReader] {g : FlowGraph} {numLocals maxStack count : Nat}
  {s : Solution g OriginFact Unit} {b p : g.Node} {index : Nat} {f : ValueFrame ValueOrigin}
  {w w' : LoadWalk g}

section

variable (hsolve : (analysis g numLocals maxStack).solve = .ok s)

include hsolve

/-- Control comes to the entry with an empty stack. -/
lemma depth_entry (hf : At g numLocals maxStack s g.entry 0 f) : f.depth = 0 := by
  obtain ⟨f', hf', hjoined⟩ := at_entry hsolve
  obtain rfl := hf.unique hf'
  exact hjoined.depth_eq

/-- A block that is entered on one edge alone starts with the frame at the end of its
predecessor. -/
lemma at_predecessor (hp : g.fallThroughPredecessor? b = some p) (hb : b ≠ g.entry)
    (hf : At g numLocals maxStack s b 0 f) :
    At g numLocals maxStack s p (g.instructions p).length f := by
  obtain ⟨e, hincoming, hkind, rfl⟩ := FlowGraph.fallThroughPredecessor?_eq_some_iff.1 hp
  obtain ⟨-, n, harrives⟩ := arrives_of_frame hsolve (Nat.zero_le _) hf
  have hcons := FlowAnalysis.solve_consistent rfl hsolve
  have hstart := FlowAnalysis.solve_solves rfl hsolve harrives.reachable
  have hfirst : s.startFact b = some f := hf
  have hnormal : e.kind.isException = false := by rw [hkind]; rfl
  rw [FlowAnalysis.startOf, hincoming, FlowAnalysis.initial, if_neg hb, List.foldlM_cons,
    hfirst] at hstart
  obtain ⟨joined, hjoin, hjoined⟩ := bind_eq_ok_iff.1 hstart
  obtain rfl := pure_eq_ok_iff.1 hjoined
  rw [FlowAnalysis.joinAlong] at hjoin
  simp only [hnormal, Bool.false_eq_true, if_false, carried?_eq hcons] at hjoin
  rw [At, FlowAnalysis.factAt_eq_within, Solution.startFact, ← hcons.result]
  cases hresult : (s.table.get e.source).result with
  | none =>
      rw [hresult] at hjoin
      cases hjoin
  | some v =>
      rw [hresult] at hjoin
      exact Except.ok.inj hjoin

end

/-- The loads that a walk has passed have put the topmost labels of a frame on the stack, and the
frame that it has come to is the same without them. -/
structure Traced (g : FlowGraph) (numLocals maxStack : Nat) (s : Solution g OriginFact Unit)
    (f : ValueFrame ValueOrigin) (w : LoadWalk g) : Prop where
  rest : ∃ f', At g numLocals maxStack s w.block w.index f' ∧ f'.locals = f.locals ∧
    f'.stack = f.stack.drop w.slots.length
  loaded : List.Forall₂ (fun slot label => f.locals[slot]? = some label) w.slots
    (f.stack.take w.slots.length)

lemma traced_start (hf : At g numLocals maxStack s b index f) :
    Traced g numLocals maxStack s f (.start b index) :=
  ⟨⟨f, hf, rfl, rfl⟩, .nil⟩

variable (hsolve : (analysis g numLocals maxStack).solve = .ok s) (hcount : count ≤ f.depth)

include hsolve hcount

/-- A turn goes on along the labels. -/
lemma Traced.turn (h : Traced g numLocals maxStack s f w) (hturn : w.turn count = .inr w') :
    Traced g numLocals maxStack s f w' := by
  obtain ⟨f', hf', hlocals, hstack⟩ := h.rest
  obtain ⟨hmissing, ⟨hindex, -, p, hp, rfl⟩ | ⟨index, slot, hindex, hload, rfl⟩⟩ :=
    LoadWalk.turn_cases hturn
  · rw [hindex] at hf'
    have hentry : w.block ≠ g.entry := by
      -- there are still cells on the stack
      intro heq
      have hdepth := depth_entry hsolve (heq ▸ hf')
      rw [ValueFrame.depth, hstack, List.length_drop] at hdepth
      have : count ≤ f.stack.length := hcount
      omega
    exact ⟨⟨f', at_predecessor hsolve hp hentry hf', hlocals, hstack⟩, h.loaded⟩
  · rw [hindex] at hf'
    obtain ⟨i, hi, hop⟩ : ∃ i, (g.instructions w.block)[index]? = some i ∧ i.op = .load slot := by
      rw [FlowGraph.ops, List.getElem?_map] at hload
      exact Option.map_eq_some_iff.1 hload
    obtain ⟨f'', hf'', hstep⟩ := of_at_succ hi hf'
    obtain ⟨label, hlabel, rfl⟩ : ∃ label, f''.locals[slot]? = some label ∧ f''.push label = f' := by
      rw [hop, ValueFrame.step] at hstep
      split at hstep
      · rename_i label hlabel
        exact ⟨label, hlabel, Except.ok.inj hstep⟩
      · cases hstep
    have hpushed : label :: f''.stack = f.stack.drop w.slots.length := hstack
    have hcell : f.stack[w.slots.length]? = some label := by
      rw [← List.head?_drop, ← hpushed, List.head?_cons]
    refine ⟨⟨f'', hf'', hlocals, ?_⟩, ?_⟩
    · rw [List.length_append, List.length_singleton, ← List.drop_drop, ← hpushed]
      rfl
    · rw [List.length_append, List.length_singleton, List.take_add_one, hcell]
      exact List.rel_append h.loaded (.cons (hlocals ▸ hlabel) .nil)

/-- A whole walk has found the loads of the topmost labels. -/
lemma Traced.of_ends {turns : Nat} {slots : List Nat} (h : Traced g numLocals maxStack s f w)
    (hw : w.Bounded count) (hends : LoadWalk.Ends count turns w (some slots)) :
    List.Forall₂ (fun slot label => f.locals[slot]? = some label) slots (f.stack.take count) := by
  induction turns generalizing w with
  | zero => cases hends
  | succ turns ih =>
      cases hends with
      | answers hturn =>
          obtain ⟨hdone, rfl⟩ := LoadWalk.turn_eq_inl_some hturn
          rw [Nat.le_antisymm hdone hw.length_le]
          exact h.loaded
      | goesOn hturn hends => exact ih (h.turn hsolve hcount hturn) (hw.turn hturn).1 hends

lemma loaded_argumentLoads {slots : List Nat} (hindex : index ≤ (g.instructions b).length)
    (hf : At g numLocals maxStack s b index f) (h : argumentLoads b index count = some slots) :
    List.Forall₂ (fun slot label => f.locals[slot]? = some label) slots (f.stack.take count) := by
  obtain ⟨turns, -, hends⟩ := LoadWalk.ends_argumentLoads count hindex
  exact (traced_start hf).of_ends hsolve hcount (LoadWalk.bounded_start count hindex) (h ▸ hends)

end ValueNumbering

/-! ### Guarded arguments -/

namespace NullModel

open Nullness.Frame ValueNumbering

variable {g : FlowGraph} {b : g.Node} {index consumed slot : Nat} {call : CallSite}
  {parameters : SortedSet Nat} {f f' : NullFrame}

/-- Only local variables are guarded. -/
lemma guardCheckedArguments_locals [DescriptorReader]
    (h : guardCheckedArguments b index call parameters f = .ok f') :
    f' = { f with locals := f'.locals } ∧ f'.numLocals = f.numLocals := by
  obtain ⟨consumed, -, h⟩ := bind_eq_ok_iff.1 h
  split at h
  · obtain rfl : f = f' := pure_eq_ok_iff.1 h
    exact ⟨rfl, rfl⟩
  · refine foldlM_ok (P := fun x : NullFrame =>
      x = { f with locals := x.locals } ∧ x.numLocals = f.numLocals) ?_ ⟨rfl, rfl⟩ h
    rintro ⟨slot, distance⟩ - x x' ⟨hx, hnum⟩ hstep
    simp only at hstep
    split at hstep
    · have hkept := kept_setLocal hstep
      obtain ⟨-, rfl⟩ := setLocal_eq_ok_iff.1 hstep
      exact ⟨by rw [hx], hkept.numLocals_eq.trans hnum⟩
    · obtain rfl := Except.ok.inj hstep
      exact ⟨hx, hnum⟩

lemma mem_checkedLocals (h : slot ∈ checkedLocals b index consumed parameters) :
    ∃ slots distance, argumentLoads b index consumed = some slots ∧ slots[distance]? = some slot ∧
      SortedSet.mem parameters (consumed - 1 - distance) = true := by
  obtain ⟨⟨slot', distance⟩, hmem, hchecked⟩ := List.mem_filterMap.1 h
  have hslot := List.mem_zipIdx_iff_getElem?.1 hmem
  simp only at hchecked hslot
  split at hchecked
  · rename_i hparameter
    obtain rfl := Option.some.inj hchecked
    cases hloads : argumentLoads b index consumed with
    | none =>
        rw [hloads] at hslot
        cases hslot
    | some slots =>
        rw [hloads] at hslot
        exact ⟨slots, distance, rfl, hslot, hparameter⟩
  · cases hchecked

/-- The loads that are found in front of a point name the arguments, the topmost first. -/
lemma argumentLoads_numbers [DescriptorReader] {numLocals maxStack count : Nat} {t : ValueTable g}
    {before : NumberedFrame} {slots : List Nat} (ht : ValueTable.ofGraph g numLocals maxStack = .ok t)
    (hindex : index ≤ (g.instructions b).length) (hbefore : t.factAt? b index = some before)
    (hslots : argumentLoads b index count = some slots) (hcount : count ≤ before.depth) :
    slots.length = count ∧ ∀ d < count, ∃ slot number, slots[d]? = some slot ∧
      slot < before.numLocals ∧ before.slot? slot = some number ∧
      before.stackValue? d = some number := by
  obtain ⟨s, order, hn⟩ := numbers_ofGraph ht
  obtain ⟨v, hv, rfl⟩ := (hn.factAt?_eq_some_iff hindex).1 hbefore
  rw [ValueFrame.depth_map] at hcount
  have hlabels := loaded_argumentLoads hn.solve hcount hindex hv hslots
  have hlength : slots.length = count := by
    rw [hlabels.length_eq, List.length_take]
    exact Nat.min_eq_left hcount
  refine ⟨hlength, fun d hd => ?_⟩
  obtain ⟨slot, hslot⟩ : ∃ slot, slots[d]? = some slot :=
    ⟨_, List.getElem?_eq_getElem (hlength ▸ hd)⟩
  obtain ⟨label, hcell, hlocal⟩ := forall₂_exists_right hlabels hslot
  rw [List.getElem?_take_of_lt hd] at hcell
  have hlt : slot < v.numLocals := (List.getElem?_eq_some_iff.1 hlocal).1
  refine ⟨slot, numberOf order label, hslot, hlt.trans_eq (ValueFrame.numLocals_map ..).symm,
    ValueFrame.slot?_map _ _ ((ValueFrame.getElem?_slots hlt).trans hlocal), ?_⟩
  rw [ValueFrame.stackValue?, ValueFrame.map, List.getElem?_map, hcell]
  rfl

/-- **Guarded arguments are the arguments.** The walk over the loads in front of a point ends on every
graph, and soon. If it finds as many loads as it looks for, and there are as many cells on the stack,
the cell at each distance from the top has the number of the local variable that the load at that
distance names. So a call guards no local variable but those that have the number of an argument which
its method checks, and it changes nothing else. -/
theorem argumentLoads_exact [DescriptorReader] (g : FlowGraph) :
    (∀ (b : g.Node) (index count : Nat), index ≤ (g.instructions b).length →
      ∃ turns ≤ count + g.size + 1,
        LoadWalk.Ends count turns (.start b index) (argumentLoads b index count)) ∧
    ∀ (numLocals maxStack : Nat) (t : ValueTable g),
      ValueTable.ofGraph g numLocals maxStack = .ok t →
      ∀ (b : g.Node) (index : Nat) (before : NumberedFrame), index ≤ (g.instructions b).length →
        t.factAt? b index = some before →
        (∀ count slots, argumentLoads b index count = some slots → count ≤ before.depth →
          slots.length = count ∧ ∀ d < count, ∃ slot number, slots[d]? = some slot ∧
            slot < before.numLocals ∧ before.slot? slot = some number ∧
            before.stackValue? d = some number) ∧
        ∀ (call : CallSite) (consumed : Nat) (parameters : SortedSet Nat) (f f' : NullFrame),
          call.consumed = .ok consumed → consumed ≤ before.depth →
          guardCheckedArguments b index call parameters f = .ok f' →
          f' = { f with locals := f'.locals } ∧ f'.numLocals = f.numLocals ∧
          ∀ slot v, f.locals[slot]? = some v → f'.locals[slot]? = some v ∨
            f'.locals[slot]? = some .nonNullGuarded ∧ ∃ argument number, argument < consumed ∧
              SortedSet.mem parameters argument = true ∧ before.slot? slot = some number ∧
              before.stackValue? (consumed - 1 - argument) = some number := by
  refine ⟨fun b index count hindex => LoadWalk.ends_argumentLoads count hindex, ?_⟩
  intro numLocals maxStack t ht b index before hindex hbefore
  refine ⟨fun count slots => argumentLoads_numbers ht hindex hbefore, ?_⟩
  intro call consumed parameters f f' hconsumed hdepth h
  have hguards := guardsLocals_guardCheckedArguments hconsumed h
  obtain ⟨hlocals, hnum⟩ := guardCheckedArguments_locals h
  refine ⟨hlocals, hnum, fun slot v hslot => ?_⟩
  rw [hguards slot, hslot, Option.map_some]
  split
  · rename_i hchecked
    obtain ⟨slots, distance, hslots, hget, hparameter⟩ := mem_checkedLocals hchecked
    obtain ⟨hlength, hcells⟩ := argumentLoads_numbers ht hindex hbefore hslots hdepth
    have hlt : distance < consumed := hlength ▸ (List.getElem?_eq_some_iff.1 hget).1
    obtain ⟨slot', number, hslot', -, hlocal, hcell⟩ := hcells distance hlt
    obtain rfl := Option.some.inj (hget.symm.trans hslot')
    have hback : consumed - 1 - (consumed - 1 - distance) = distance := by omega
    refine .inr ⟨rfl, consumed - 1 - distance, number, by omega, hparameter, hlocal, ?_⟩
    rw [hback]
    exact hcell
  · exact .inl rfl

/-- Two blocks that load an argument each for a call, with an empty block between them, and a ring of
three empty blocks. -/
def splitLoads : FlowGraph where
  size := 7
  entry := 0
  exit := 3
  code := ⟨#[[⟨0, .load 1⟩], [], [⟨1, .load 0⟩, ⟨2, .invoke ⟨"A", "check", "(LA;LA;)V", .static⟩⟩,
    ⟨3, .return⟩], [], [], [], []], rfl⟩
  edges := [⟨0, 1, .fallThrough⟩, ⟨1, 2, .fallThrough⟩, ⟨2, 3, .fallThrough⟩, ⟨4, 5, .fallThrough⟩,
    ⟨5, 6, .fallThrough⟩, ⟨6, 4, .fallThrough⟩]
  exit_final := by decide

/-- The first argument of the call is the second variable, which alone is guarded when it is the one
that is checked. Around the ring a walk gives up. -/
theorem argumentLoads_exact_splitLoads : ∃ t, ValueTable.ofGraph splitLoads 2 2 = .ok t ∧
    ∃ before, t.factAt? ⟨2, by decide⟩ 1 = some before ∧
      (∃ slot number, [0, 1][1]? = some slot ∧ slot < before.numLocals ∧
        before.slot? slot = some number ∧ before.stackValue? 1 = some number) ∧
      (∃ f', guardCheckedArguments (g := splitLoads) ⟨2, by decide⟩ 1
          ⟨"A", "check", "(LA;LA;)V", .static⟩ (.ofList [0])
          ((Frame.fresh 2 2).setValid) = .ok f' ∧ f'.locals = [.top, .nonNullGuarded] ∧
        f'.numLocals = 2) ∧
      ∃ turns ≤ 9, LoadWalk.Ends (g := splitLoads) 1 turns (.start ⟨4, by decide⟩ 0) none := by
  have ht := eq_ok_get (x := ValueTable.ofGraph splitLoads 2 2) (by decide +kernel)
  have hbefore := (Option.some_get (x := ((ValueTable.ofGraph splitLoads 2 2).toOption.get
    (by decide +kernel)).factAt? ⟨2, by decide⟩ 1) (by decide +kernel)).symm
  have hslots : argumentLoads (g := splitLoads) ⟨2, by decide⟩ 1 2 = some [0, 1] := by decide +kernel
  have hnone : argumentLoads (g := splitLoads) ⟨4, by decide⟩ 0 1 = none := by decide +kernel
  have hf' := eq_ok_get (x := guardCheckedArguments (g := splitLoads) ⟨2, by decide⟩ 1
    ⟨"A", "check", "(LA;LA;)V", .static⟩ (.ofList [0]) ((Frame.fresh 2 2).setValid))
    (by decide +kernel)
  obtain ⟨hwalks, hcalls⟩ := argumentLoads_exact splitLoads
  obtain ⟨hloaded, hguards⟩ := hcalls 2 2 _ ht ⟨2, by decide⟩ 1 _ (by decide) hbefore
  obtain ⟨-, hnum, -⟩ := hguards _ 2 _ _ _ (by decide +kernel) (by decide +kernel) hf'
  have hends := hwalks ⟨4, by decide⟩ 0 1 (by decide)
  rw [hnone] at hends
  exact ⟨_, ht, _, hbefore, (hloaded 2 [0, 1] hslots (by decide +kernel)).2 1 (by decide),
    ⟨_, hf', by decide +kernel, hnum⟩, hends⟩

end NullModel

end Nullness
