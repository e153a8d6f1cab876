import Mathlib.Tactic
import Nullness.Proofs.Description

/-!
# Instructions and true descriptions

An instruction that completes turns a frame that describes the state before it into one that
describes the state after it. Both are read under one meaning of the value numbers, under which the
numbers in front of the instruction and behind it model the two states (`NullModel.Numbered`).

* `NullModel.describes_guarded`, `NullModel.describes_summarized`: what a call tells of its
  arguments;
* `NullModel.describes_apply`: **the frame after an instruction describes the state after it.**
-/

namespace Nullness

open Machine

namespace NullModel

open Nullness.Frame

variable {g : FlowGraph}

/-- The numbers at a point model the state there. -/
def Numbered (m : NullModel g) (b : g.Node) (index : Nat) (ν : Nat → Cell) (s : State Cell) : Prop :=
  ∃ numbers, m.numbers.factAt? b index = some numbers ∧ numbers.Models ν s

variable {m : NullModel g} {maxStack : Nat} {b : g.Node} {index : Nat} {op : Opcode}
  {f : NullFrame} {ν : Nat → Cell} {s s' : State Cell} {v : Nullity} {x : Cell}

/-- The number of an operand means what the operand is. -/
lemma meaning_operand (h : Numbered m b index ν s) {fromTop number : Nat}
    (hnumber : m.operand? b index fromTop = some number) : s.stack[fromTop]? = some (ν number) := by
  obtain ⟨numbers, hnumbers, hm⟩ := h
  rw [operand?, hnumbers] at hnumber
  exact meaning_stack hm hnumber

/-- The number of a result means what the result is. -/
lemma meaning_result (h : Numbered m b (index + 1) ν s') {number : Nat}
    (hnumber : m.resultNumber? b index = some number) : s'.stack[0]? = some (ν number) := by
  obtain ⟨numbers, hnumbers, hm⟩ := h
  unfold resultNumber? at hnumber
  split at hnumber
  · rw [ValueTable.factAfter?, hnumbers] at hnumber
    exact meaning_stack hm hnumber
  · cases hnumber

/-! ### Producing values -/

/-- A cell is put on the stack with a value that holds of it. -/
lemma describes_cons {rest : List Cell} (h : f.Describes ν (s'.withStack rest))
    (hstack : s'.stack = x :: rest) (hv : v.Holds x) :
    ({ f with stack := v :: f.stack } : NullFrame).Describes ν s' := by
  have hcells : List.Forall₂ Nullity.Holds (v :: f.stack) (x :: rest) := .cons hv h.stack
  exact (h.withStack hcells).withHeap rfl hstack

lemma describes_push {rest : List Cell} (h : f.Describes ν (s'.withStack rest))
    (hstack : s'.stack = x :: rest) (hv : v.Holds x) (hroom : s'.stack.length ≤ f.maxStack) :
    ∃ f', f.push v = .ok f' ∧ f'.Describes ν s' := by
  refine ⟨_, push_eq_ok_iff.2 ⟨?_, rfl⟩, describes_cons h hstack hv⟩
  have hrest : f.depth = rest.length := h.depth_eq
  have hlen : s'.stack.length = rest.length + 1 := by rw [hstack, List.length_cons]
  omega

section

variable (hafter : Numbered m b (index + 1) ν s')

include hafter

lemma describes_produce {rest : List Cell} (h : f.Describes ν (s'.withStack rest))
    (hstack : s'.stack = x :: rest) (hv : v.Holds x) (hroom : s'.stack.length ≤ f.maxStack) :
    ∃ f', Yields (m.produce b index f v) f' ∧ f'.Describes ν s' := by
  have hpushed := describes_cons h hstack hv
  obtain ⟨_, hpush, -⟩ := describes_push h hstack hv hroom
  refine ⟨m.withResult b index f v, yields_produce.2 ⟨(push_eq_ok_iff.1 hpush).1, rfl⟩, ?_⟩
  unfold withResult
  cases hnumber : m.resultNumber? b index with
  | none => exact hpushed
  | some number =>
      have htop := meaning_result hafter hnumber
      rw [hstack] at htop
      exact hpushed.setKnown (Option.some.inj htop ▸ hv)

/-- Operands are taken and a value is produced. -/
lemma describes_popN_produce {count : Nat} (h : f.Describes ν s) (hlocals : s'.locals = s.locals)
    (hcount : count ≤ s.stack.length) (hstack : s'.stack = x :: s.stack.drop count)
    (hv : v.Holds x) (hroom : s'.stack.length ≤ f.maxStack) :
    ∃ f', Yields (do m.produce b index (← f.popN count) v) f' ∧ f'.Describes ν s' := by
  have hpopped : (f.dropCells count).Describes ν (s'.withStack (s.stack.drop count)) :=
    (h.dropCells count).withHeap hlocals rfl
  obtain ⟨f', hyields, hf'⟩ := describes_produce hafter hpopped hstack hv hroom
  refine ⟨f', yields_bind.2 ⟨_, popN_eq_ok_iff.2 ⟨?_, rfl⟩, hyields⟩, hf'⟩
  rw [h.depth_eq]
  exact hcount

/-- A value that is known of the result holds of the result. -/
lemma holds_knownResult (h : f.Describes ν s) (hx : s'.stack[0]? = some x)
    (hknown : m.knownResult? b index f = some v) : v.Holds x := by
  obtain ⟨number, hnumber, hv⟩ := Option.bind_eq_some_iff.1 hknown
  have hmeans := meaning_result hafter hnumber
  rw [hx] at hmeans
  exact Option.some.inj hmeans ▸ h.known number v hv

end

/-- Operands are taken and a value is pushed about which nothing is claimed. -/
lemma describes_silent {rest : List Cell} (h : f.Describes ν (s'.withStack rest))
    (hstack : s'.stack = x :: rest) (hroom : s'.stack.length ≤ f.maxStack) :
    ∃ f', Yields (do return ⟨← f.push .nonNullSilent, none⟩) f' ∧ f'.Describes ν s' := by
  obtain ⟨f', hpush, hf'⟩ :=
    describes_push (v := .nonNullSilent) h hstack (Nullity.holds_of_isUndecided rfl) hroom
  exact ⟨f', yields_bind.2 ⟨f', hpush, yields_ok.2 rfl⟩, hf'⟩

lemma describes_applyEffect [DescriptorReader] {effect : StackEffect} {pushed : List Cell}
    (h : f.Describes ν s)
    (heffect : op.effect = .ok effect) (hpops : effect.pops ≤ s.stack.length)
    (hpushed : pushed.length = effect.pushes) (hlocals : s'.locals = s.locals)
    (hstack : s'.stack = pushed ++ s.stack.drop effect.pops)
    (hroom : s'.stack.length ≤ f.maxStack) :
    ∃ f', Yields (unremarkable (applyEffect op f)) f' ∧ f'.Describes ν s' := by
  have hdepth : f.depth = s.stack.length := h.depth_eq
  have hdropped : (f.dropCells effect.pops).depth + effect.pushes ≤ f.maxStack := by
    have hlen : s'.stack.length = pushed.length + (s.stack.length - effect.pops) := by
      rw [hstack, List.length_append, List.length_drop]
    have hrest : (f.dropCells effect.pops).depth = f.depth - effect.pops := List.length_drop
    omega
  refine ⟨_, yields_unremarkable.2 (bind_eq_ok_iff.2 ⟨effect, heffect, bind_eq_ok_iff.2
    ⟨_, popN_eq_ok_iff.2 ⟨hdepth ▸ hpops, rfl⟩, pushN_eq_ok_iff.2 ⟨.inr hdropped, rfl⟩⟩⟩), ?_⟩
  have hcells : List.Forall₂ Nullity.Holds (List.replicate effect.pushes .nonNullSilent) pushed := by
    refine forall₂_of_getElem? (by simp [hpushed]) fun i w y hw _ => ?_
    obtain rfl : .nonNullSilent = w := by
      rw [List.getElem?_replicate] at hw
      split at hw
      · exact Option.some.inj hw
      · cases hw
    exact Nullity.holds_of_isUndecided rfl
  exact (h.withStack (List.rel_append hcells (List.forall₂_drop effect.pops h.stack))).withHeap
    hlocals hstack

/-! ### Heap reads and writes -/

section

variable (hafter : Numbered m b (index + 1) ν s')

include hafter

lemma describes_loadField {isStatic : Bool} {field : FieldRef} (h : f.Describes ν s)
    (hlocals : s'.locals = s.locals) (hcount : (if isStatic then 0 else 1) ≤ s.stack.length)
    (hstack : s'.stack = x :: s.stack.drop (if isStatic then 0 else 1))
    (htold : isReferenceField field.descriptor = true →
      (isStatic = true ∧ "class$".toList.isPrefixOf field.name.toList = true ∨
        m.hierarchy.fieldMark field = .nonNull) → x ≠ some .null)
    (hroom : s'.stack.length ≤ f.maxStack) :
    ∃ f', Yields (m.loadField b index isStatic field f) f' ∧ f'.Describes ν s' := by
  have hpop := popN_eq_ok_iff.2 ⟨h.depth_eq ▸ hcount, rfl⟩
  have hpopped : (f.dropCells (if isStatic then 0 else 1)).Describes ν
      (s'.withStack (s.stack.drop (if isStatic then 0 else 1))) :=
    (h.dropCells _).withHeap hlocals rfl
  have produced : ∀ v : Nullity, v.Holds x →
      ∃ f', Yields (m.produce b index (f.dropCells (if isStatic then 0 else 1)) v) f' ∧
        f'.Describes ν s' :=
    fun v hv => describes_produce hafter hpopped hstack hv hroom
  have hread : ∃ f', Yields (m.readField b index isStatic field
      (f.dropCells (if isStatic then 0 else 1))) f' ∧ f'.Describes ν s' := by
    unfold readField
    simp only
    split
    · exact describes_silent hpopped hstack hroom
    rename_i hreference
    rw [Bool.not_eq_true', Bool.not_eq_false] at hreference
    split
    · rename_i hclass
      rw [Bool.and_eq_true] at hclass
      exact produced _ (Nullity.holds_of_ne_null (by decide) (by decide)
        (htold hreference (.inl hclass)))
    cases hmark : m.hierarchy.fieldMark field with
    | nonNull =>
        exact produced _ (Nullity.holds_of_ne_null (by decide) (by decide)
          (htold hreference (.inr hmark)))
    | checkForNull => exact produced _ (Nullity.holds_of_isUndecided rfl)
    | nullable | unknown => exact describes_silent hpopped hstack hroom
  unfold loadField
  cases hknown : m.knownResult? b index f with
  | none =>
      obtain ⟨f', hyields, hf'⟩ := hread
      exact ⟨f', yields_bind.2 ⟨_, hpop, hyields⟩, hf'⟩
  | some v =>
      have hx : s'.stack[0]? = some x := by rw [hstack]; rfl
      obtain ⟨f', hyields, hf'⟩ := produced v (holds_knownResult hafter h hx hknown)
      exact ⟨f', yields_bind.2 ⟨_, hpop, hyields⟩, hf'⟩

/-- A stored value is remembered of the load that now finds it. -/
lemma describes_remember {load : Option (Load Nat)} (h : f.Describes ν s') (hv : v.Holds x)
    (hload : ∀ l, load = some l → s'.heap (l.map ν) = x) :
    (m.remember b index load v f).Describes ν s' := by
  rw [remember_eq]
  cases hnumber : m.storedNumber? b index load with
  | none => exact h
  | some number =>
      unfold storedNumber? at hnumber
      split at hnumber
      · obtain ⟨l, hl, hnumber⟩ := Option.bind_eq_some_iff.1 hnumber
        obtain ⟨numbers, hnumbers, hm⟩ := hafter
        rw [ValueTable.factAfter?, hnumbers] at hnumber
        have hmeans := hm.loads l number hnumber
        rw [hload l hl] at hmeans
        exact h.setKnown (hmeans ▸ hv)
      · cases hnumber

end

/-- Operands are taken, and the topmost of them is remembered. -/
lemma describes_stored {count : Nat} {load : Option (Load Nat)}
    (hafter : Numbered m b (index + 1) ν s') (h : f.Describes ν s) (hx : s.stack[0]? = some x)
    (hcount : count ≤ s.stack.length) (hlocals : s'.locals = s.locals)
    (hstack : s'.stack = s.stack.drop count)
    (hload : ∀ l, load = some l → s'.heap (l.map ν) = x) :
    ∃ f', Yields (unremarkable do
      let stored ← f.topValue
      let f ← f.popN count
      return m.remember b index load stored f) f' ∧ f'.Describes ν s' := by
  obtain ⟨v, hv, hholds⟩ := forall₂_exists_left h.stack hx
  have hpopped : (f.dropCells count).Describes ν s' := (h.dropCells count).withHeap hlocals hstack
  refine ⟨_, yields_unremarkable.2 (bind_eq_ok_iff.2 ⟨v, topValue_eq_ok_iff.2 hv,
    bind_eq_ok_iff.2 ⟨_, popN_eq_ok_iff.2 ⟨h.depth_eq ▸ hcount, rfl⟩, rfl⟩⟩), ?_⟩
  exact describes_remember hafter hpopped hholds hload

/-! ### Calls -/

section

variable [DescriptorReader] {call : CallSite} {d : MethodDescriptor}

omit [DescriptorReader] in
/-- Arguments that are not null are guarded one after the other. -/
lemma describes_guardEach {before : NumberedFrame} {count : Nat} {arguments : List Nat}
    (h : f.Describes ν s) (hm : before.Models ν s) (hassigned : none ∉ s.stack)
    (hne : ∀ i ∈ arguments, s.stack[count - 1 - i]? ≠ some (some .null)) :
    ∃ f', arguments.foldlM (guardArgument before count) f = some f' ∧ f'.Describes ν s := by
  induction arguments generalizing f with
  | nil => exact ⟨f, rfl, h⟩
  | cons i arguments ih =>
      obtain ⟨f₁, hfirst, h₁⟩ : ∃ f₁, guardArgument before count f i = some f₁ ∧
          f₁.Describes ν s := by
        unfold guardArgument
        split
        · exact ⟨f, rfl, h⟩
        · rename_i number hnumber
          have hcell := meaning_stack hm hnumber
          have hne : ν number ≠ some .null := fun hnull =>
            hne i List.mem_cons_self (hcell.trans (congrArg some hnull))
          have hvalue : ν number ≠ none := fun hnone =>
            hassigned (hnone ▸ List.mem_of_getElem? hcell)
          rw [classIsNull_eq_false h hm hne hvalue]
          exact ⟨_, rfl, describes_tighten h hm hne⟩
      obtain ⟨f', hrest, hf'⟩ := ih h₁ fun i hi => hne i (List.mem_cons_of_mem _ hi)
      exact ⟨f', by rw [List.foldlM_cons, hfirst]; exact hrest, hf'⟩

/-- The arguments that all targets need are guarded, and none of them is found to be null. -/
lemma describes_guarded (h : f.Describes ν s) (hbefore : Numbered m b index ν s)
    (hassigned : none ∉ s.stack) (hd : MethodDescriptor.parse call.descriptor = .ok d)
    (htrusted : Trusted m b call s s') :
    ∃ f', m.guarded b index call f = .ok (some f') ∧ f'.Describes ν s := by
  unfold guarded
  split
  swap
  · exact ⟨f, rfl, h⟩
  obtain ⟨numbers, hnumbers, hm⟩ := hbefore
  unfold guardArguments
  simp only [hnumbers, CallSite.parameterCount_eq hd]
  split
  · exact ⟨f, rfl, h⟩
  · have hne : ∀ i ∈ (m.hierarchy.requiredParameters call
        (m.hierarchy.targets call)).toList.filter (· < d.parameters.length),
        s.stack[d.parameters.length - 1 - i]? ≠ some (some .null) := by
      intro i hi
      obtain ⟨hmem, hlt⟩ := List.mem_filter.1 hi
      obtain ⟨⟨_, _⟩, hentry, rfl⟩ := List.mem_map.1 hmem
      have hget := SortedMap.get?_eq_some_iff.2 hentry
      exact htrusted.required _ (CallSite.parameterCount_eq hd) _ (of_decide_eq_true hlt)
        (by rw [SortedSet.mem, SortedMap.contains, hget]; rfl)
    obtain ⟨f', hfold, hf'⟩ := describes_guardEach h hm hassigned hne
    exact ⟨f', congrArg Except.ok hfold, hf'⟩

/-- The locals that were passed for checked parameters are guarded. -/
lemma describes_guardCheckedArguments {parameters : SortedSet Nat} {count : Nat}
    (h : f.Describes ν s) (hconsumed : call.consumed = .ok count)
    (hloaded : ∀ slots, argumentLoads b index count = some slots →
      slots.map (s.locals[·]?) = (s.stack.take count).map some)
    (hne : ∀ i < count, SortedSet.mem parameters i = true →
      s.stack[count - 1 - i]? ≠ some (some .null)) :
    ∃ f', guardCheckedArguments b index call parameters f = .ok f' ∧ f'.Describes ν s := by
  unfold guardCheckedArguments
  rw [hconsumed]
  cases hslots : argumentLoads b index count with
  | none => exact ⟨f, by simp [bind, Except.bind, hslots, pure, Except.pure], h⟩
  | some slots =>
      have hloaded := hloaded slots hslots
      simp only [bind, Except.bind, hslots]
      refine foldlM_succeeds (P := fun f : NullFrame => f.Describes ν s) ?_ h
      rintro ⟨slot, distance⟩ hmem f hf
      have hslot : slots[distance]? = some slot := List.mem_zipIdx_iff_getElem?.1 hmem
      obtain ⟨x, hlocal, hx⟩ :
          ∃ x, s.locals[slot]? = some x ∧ (s.stack.take count)[distance]? = some x := by
        have hget := congrArg (·[distance]?) hloaded
        simp only [List.getElem?_map, hslot, Option.map_some] at hget
        obtain ⟨x, hx, heq⟩ := Option.map_eq_some_iff.1 hget.symm
        exact ⟨x, heq.symm, hx⟩
      simp only
      split
      · rename_i hchecked
        rw [List.getElem?_take] at hx
        split at hx
        · rename_i hlt
          have hback : count - 1 - (count - 1 - distance) = distance := by omega
          have hcell := hne _ (by omega) hchecked
          rw [hback, hx] at hcell
          exact hf.setLocal hlocal (Nullity.holds_of_ne_null (by decide) (by decide)
            fun hnull => hcell (congrArg some hnull))
        · cases hx
      · exact ⟨f, rfl, hf⟩

/-- What the summary of a called method tells holds. -/
lemma describes_summarized (h : f.Describes ν s)
    (hd : MethodDescriptor.parse call.descriptor = .ok d)
    (hloaded : ∀ slots, argumentLoads b index (d.parameters.length + call.receivers) = some slots →
      slots.map (s.locals[·]?)
        = (s.stack.take (d.parameters.length + call.receivers)).map some)
    (htrusted : Trusted m b call s s') :
    ∃ f', m.summarized b index call f = .ok f' ∧ f'.Describes ν s := by
  unfold summarized
  split
  swap
  · exact ⟨f, rfl, h⟩
  rename_i hstatic
  have hconsumed := CallSite.consumed_eq_ok_iff.2 ⟨d, hd, rfl⟩
  unfold applySummary
  split
  · exact ⟨f, rfl, h⟩
  · rename_i hthrows
    exact absurd hthrows (htrusted.returns hstatic)
  · rename_i parameters hconditional
    exact describes_guardCheckedArguments h hconsumed hloaded
      (htrusted.checked hstatic parameters hconditional _ hconsumed)

omit [DescriptorReader] in
lemma returnValue_cases (m : NullModel g) (b : g.Node) (call : CallSite) (targets : List MethodId) :
    m.returnValue b call targets = .nonNullProven ∨
      (m.returnValue b call targets).isUndecided = true := by
  have hmark : ∀ mark : NullMark,
      mark.nullity = .nonNullProven ∨ mark.nullity.isUndecided = true := by
    rintro (_ | _ | _ | _) <;> decide
  have hjoin : ∀ v w : Nullity, (v = .nonNullProven ∨ v.isUndecided = true) →
      (w = .nonNullProven ∨ w.isUndecided = true) →
      v.join w = .nonNullProven ∨ (v.join w).isUndecided = true := by
    intro v w
    cases v <;> cases w <;> decide
  unfold returnValue
  split
  · exact .inr rfl
  split
  · exact .inr rfl
  simp only
  split
  · exact .inr rfl
  · rename_i v vs heq
    have hall : ∀ w ∈ v :: vs, w = .nonNullProven ∨ w.isUndecided = true := by
      rw [← heq]
      intro w hw
      obtain ⟨id, -, rfl⟩ := List.mem_map.1 hw
      exact hmark _
    clear heq
    induction vs generalizing v with
    | nil => exact hall v List.mem_cons_self
    | cons w vs ih =>
        refine ih (v.join w) fun u hu => ?_
        rcases List.mem_cons.1 hu with rfl | hu
        · exact hjoin v w (hall v List.mem_cons_self) (hall w (by simp))
        · exact hall u (by simp [hu])

/-- A call takes its arguments and leaves what it returns. -/
lemma describes_finishCall {pushed : List Cell} (hafter : Numbered m b (index + 1) ν s')
    (h : f.Describes ν s) (hd : MethodDescriptor.parse call.descriptor = .ok d)
    (hcount : d.parameters.length + call.receivers ≤ s.stack.length)
    (hlocals : s'.locals = s.locals)
    (hstack : s'.stack = pushed ++ s.stack.drop (d.parameters.length + call.receivers))
    (hpushed : pushed.length = if d.returnKind = .void then 0 else 1)
    (hroom : s'.stack.length ≤ f.maxStack) (htrusted : Trusted m b call s s') :
    ∃ f', Yields (m.finishCall b index call (m.hierarchy.targets call) f) f' ∧
      f'.Describes ν s' := by
  have hpop := popN_eq_ok_iff.2 ⟨h.depth_eq ▸ hcount, rfl⟩
  have hpopped : (f.dropCells (d.parameters.length + call.receivers)).Describes ν
      (s'.withStack (s.stack.drop (d.parameters.length + call.receivers))) :=
    (h.dropCells _).withHeap hlocals rfl
  have finish : ∀ {k : NullFrame → Except Error Modeled}, (∃ f',
      Yields (k (f.dropCells (d.parameters.length + call.receivers))) f' ∧ f'.Describes ν s') →
      ∃ f', Yields (do k (← f.popN (d.parameters.length + call.receivers))) f' ∧
        f'.Describes ν s' :=
    fun ⟨f', hyields, hf'⟩ => ⟨f', yields_bind.2 ⟨_, hpop, hyields⟩, hf'⟩
  have hconsumed := CallSite.consumed_eq_ok_iff.2 ⟨d, hd, rfl⟩
  simp only [finishCall, hconsumed, CallSite.returnKind_eq hd]
  apply finish
  cases hkind : d.returnKind with
  | void =>
      obtain rfl : pushed = [] := by simpa [hkind] using hpushed
      exact ⟨_, yields_ok.2 rfl, hpopped.withHeap rfl hstack⟩
  | primitive =>
      obtain ⟨x, rfl⟩ := List.length_eq_one_iff.1 (hpushed.trans (by simp [hkind]))
      exact describes_silent hpopped hstack hroom
  | reference =>
      obtain ⟨x, rfl⟩ := List.length_eq_one_iff.1 (hpushed.trans (by simp [hkind]))
      refine describes_produce hafter hpopped hstack ?_ hroom
      rcases returnValue_cases m b call (m.hierarchy.targets call) with hvalue | hvalue
      · rw [hvalue]
        refine Nullity.holds_of_ne_null (by decide) (by decide) fun hnull => ?_
        exact htrusted.result (hkind ▸ CallSite.returnKind_eq hd) hvalue (by rw [hstack, hnull]; rfl)
      · exact Nullity.holds_of_isUndecided hvalue

/-- A call that completes. -/
lemma describes_invoke (hcomp : Completes m maxStack b (.invoke call) s s') (h : f.Describes ν s)
    (hmax : f.maxStack = maxStack) (hbefore : Numbered m b index ν s)
    (hafter : Numbered m b (index + 1) ν s') (hassigned : none ∉ s.stack)
    (hloaded : ∀ count slots, argumentLoads b index count = some slots → count ≤ s.stack.length →
      slots.map (s.locals[·]?) = (s.stack.take count).map some) :
    ∃ f', Yields (m.invoke b index call f) f' ∧ f'.Describes ν s' := by
  obtain ⟨effect, pushed, heap, heffect, hpops, hlen, rfl⟩ := hcomp.exec
  obtain ⟨d, hd, -⟩ := bind_eq_ok_iff.1 heffect
  rw [Opcode.effect_invoke hd, Except.ok.injEq] at heffect
  subst heffect
  have htrusted := hcomp.trusted call rfl
  obtain ⟨f₁, hguarded, h₁⟩ := describes_guarded h hbefore hassigned hd htrusted
  obtain ⟨f₂, hsummarized, h₂⟩ : ∃ f₂, m.summarized b index call f₁ = .ok f₂ ∧ f₂.Describes ν s :=
    describes_summarized h₁ hd (fun slots hslots => hloaded _ slots hslots hpops) htrusted
  have hmax₂ : f₂.maxStack = maxStack := by
    rw [(kept_summarized hsummarized).maxStack_eq, (tightened_guarded hguarded).kept.maxStack_eq, hmax]
  obtain ⟨f', hfinish, hf'⟩ := describes_finishCall hafter h₂ hd hpops rfl rfl hlen
    (hmax₂ ▸ hcomp.room) htrusted
  exact ⟨f', yields_invoke.2 (.inr ⟨f₁, f₂, hguarded, hsummarized, hfinish⟩), hf'⟩

end

/-! ### Instructions -/

variable [DescriptorReader]

/-- Values are moved with the cells that they hold of. -/
lemma describes_moved (hmove : op.isMove = true) (hexec : Exec op s s') (h : f.Describes ν s)
    (hroom : s'.stack.length ≤ f.maxStack) : ∃ f', Moved op f f' ∧ f'.Describes ν s' := by
  have below : ∀ {values : List Nullity} {x : Cell} {rest : List Cell},
      List.Forall₂ Nullity.Holds values (x :: rest) → ∃ v values', v.Holds x ∧
        List.Forall₂ Nullity.Holds values' rest ∧ values = v :: values' :=
    fun h => List.forall₂_cons_right_iff.1 h
  have cells : ∀ {x : Cell} {rest : List Cell}, s.stack = x :: rest → ∃ v values, v.Holds x ∧
      List.Forall₂ Nullity.Holds values rest ∧ f.stack = v :: values :=
    fun hs => below (hs ▸ h.stack)
  cases op with
  | load slot =>
      obtain ⟨x, hx, rfl⟩ := hexec
      obtain ⟨v, hv, hholds⟩ := forall₂_exists_left h.locals hx
      exact ⟨_, .load hv (h.depth_eq ▸ hroom), h.withStack (.cons hholds h.stack)⟩
  | store slot =>
      obtain ⟨x, rest, hs, hlt, rfl⟩ := hexec
      obtain ⟨v, values, hv, hvalues, hf⟩ := cells hs
      exact ⟨_, .store hf (h.numLocals_eq ▸ hlt), h.valid, forall₂_set h.locals hv slot, hvalues,
        h.known⟩
  | pop =>
      obtain ⟨x, rest, hs, rfl⟩ := hexec
      obtain ⟨v, values, -, hvalues, hf⟩ := cells hs
      exact ⟨_, .pop hf, h.withStack hvalues⟩
  | dup =>
      obtain ⟨x, rest, hs, rfl⟩ := hexec
      obtain ⟨v, values, hv, hvalues, hf⟩ := cells hs
      have hlt : f.depth < f.maxStack := by
        rw [h.depth_eq, hs]
        exact hroom
      exact ⟨_, .dup hf hlt, h.withStack (.cons hv (.cons hv hvalues))⟩
  | dupX1 =>
      obtain ⟨x, y, rest, hs, rfl⟩ := hexec
      obtain ⟨v, _, hv, hbelow, hf⟩ := cells hs
      obtain ⟨w, values, hw, hvalues, rfl⟩ := below hbelow
      have hlt : f.depth < f.maxStack := by
        rw [h.depth_eq, hs]
        exact hroom
      exact ⟨_, .dupX1 hf hlt, h.withStack (.cons hv (.cons hw (.cons hv hvalues)))⟩
  | swap =>
      obtain ⟨x, y, rest, hs, rfl⟩ := hexec
      obtain ⟨v, _, hv, hbelow, hf⟩ := cells hs
      obtain ⟨w, values, hw, hvalues, rfl⟩ := below hbelow
      have hle : f.depth ≤ f.maxStack := by
        rw [h.depth_eq, hs]
        exact hroom
      exact ⟨_, .swap hf hle, h.withStack (.cons hw (.cons hv hvalues))⟩
  | _ => cases hmove

/-- Before it is known that an instruction has completed. -/
lemma describes_applyOp (hcomp : Completes m maxStack b op s s') (h : f.Describes ν s)
    (hmax : f.maxStack = maxStack) (hbefore : Numbered m b index ν s)
    (hafter : Numbered m b (index + 1) ν s') (hassigned : none ∉ s.stack)
    (hloaded : ∀ count slots, argumentLoads b index count = some slots → count ≤ s.stack.length →
      slots.map (s.locals[·]?) = (s.stack.take count).map some) :
    ∃ f', Yields (m.applyOp b index op f) f' ∧ f'.Describes ν s' := by
  have hroom : s'.stack.length ≤ f.maxStack := hmax ▸ hcomp.room
  have hexec := hcomp.exec
  have hmakes := hcomp.makes
  have nonNull : ∀ {x : Cell}, (∃ address, some x = some (some (Value.reference address))) →
      Nullity.nonNullProven.Holds x := by
    rintro _ ⟨address, ⟨⟩⟩
    exact Nullity.holds_of_ne_null (by decide) (by decide) (by simp)
  cases op with
  | nop | goto | «return» | checkCast =>
      obtain rfl : s' = s := hexec
      exact ⟨f, yields_ok.2 rfl, h⟩
  | load | store | pop | dup | dupX1 | swap =>
      exact (describes_moved rfl hexec h hroom).imp fun _ hf' => ⟨yields_of_moved hf'.1, hf'.2⟩
  | constNull =>
      obtain ⟨-, x, rfl⟩ := hexec.exists_result rfl rfl
      obtain rfl : x = some .null := Option.some.inj hmakes
      exact describes_produce hafter (h.withHeap rfl rfl) rfl Nullity.holds_null hroom
  | constReference | new =>
      obtain ⟨-, x, rfl⟩ := hexec.exists_result rfl rfl
      exact describes_produce hafter (h.withHeap rfl rfl) rfl (nonNull hmakes) hroom
  | newArray | multiNewArray =>
      obtain ⟨hcount, x, rfl⟩ := hexec.exists_result rfl rfl
      exact describes_popN_produce hafter h rfl hcount rfl (nonNull hmakes) hroom
  | getField field =>
      obtain ⟨object, rest, hs, rfl⟩ := hexec
      refine describes_loadField hafter h rfl (by simp [hs]) (by rw [hs]; rfl) ?_ hroom
      rintro hreference (⟨hstatic, -⟩ | hmark) hnull
      · cases hstatic
      · exact hcomp.told ⟨hreference, hmark⟩ (congrArg some hnull)
  | getStatic field =>
      obtain rfl := hexec
      refine describes_loadField hafter h rfl (Nat.zero_le _) rfl ?_ hroom
      rintro hreference (⟨-, hclass⟩ | hmark) hnull
      · exact hcomp.told ⟨hreference, .inl hclass⟩ (congrArg some hnull)
      · exact hcomp.told ⟨hreference, .inr hmark⟩ (congrArg some hnull)
  | putField field =>
      obtain ⟨x, object, rest, hs, rfl⟩ := hexec
      refine describes_stored hafter h (by rw [hs]; rfl) (by simp [hs]) rfl (by rw [hs]; rfl) ?_
      intro l hl
      obtain ⟨number, hnumber, rfl⟩ := Option.map_eq_some_iff.1 hl
      have hobject := meaning_operand hbefore hnumber
      rw [hs] at hobject
      obtain rfl : object = ν number := Option.some.inj hobject
      exact Function.update_self ..
  | putStatic field =>
      obtain ⟨x, rest, hs, rfl⟩ := hexec
      refine describes_stored hafter h (by rw [hs]; rfl) (by simp [hs]) rfl (by rw [hs]; rfl) ?_
      rintro l ⟨⟩
      exact Function.update_self ..
  | arrayStore =>
      obtain ⟨x, position, array, rest, hs, rfl⟩ := hexec
      refine describes_stored hafter h (by rw [hs]; rfl) (by simp [hs]) rfl (by rw [hs]; rfl) ?_
      intro l hl
      obtain ⟨arrayNumber, harray, hl⟩ := Option.bind_eq_some_iff.1 hl
      obtain ⟨number, hnumber, rfl⟩ := Option.map_eq_some_iff.1 hl
      have harray := meaning_operand hbefore harray
      have hposition := meaning_operand hbefore hnumber
      rw [hs] at harray hposition
      obtain rfl : array = ν arrayNumber := Option.some.inj harray
      obtain rfl : position = ν number := Option.some.inj hposition
      exact Function.update_self ..
  | invoke call => exact describes_invoke hcomp h hmax hbefore hafter hassigned hloaded
  | arrayLoad =>
      obtain ⟨position, array, rest, hs, rfl⟩ := hexec
      simp only [applyOp]
      cases hknown : m.knownResult? b index f with
      | none =>
          have hone : [s.heap (.element array position)].length = 1 := rfl
          exact describes_applyEffect h rfl (by simp [hs]) hone rfl (by rw [hs]; rfl) hroom
      | some v =>
          exact describes_popN_produce hafter h rfl (by simp [hs]) (by rw [hs]; rfl)
            (holds_knownResult hafter h rfl hknown) hroom
  | _ =>
      obtain ⟨effect, pushed, heffect, hpops, hlen, rfl⟩ := hexec
      exact describes_applyEffect h heffect hpops hlen rfl rfl hroom

/-- The class that is dereferenced is that of the receiver. -/
lemma receiver?_of_dereferenced {stack : List Cell} {fromTop : Nat}
    (hop : dereferenced? op = some fromTop) (hx : stack[fromTop]? = some x) :
    receiver? op stack = some x := by
  cases op with
  | getField | arrayLength | monitorEnter | monitorExit | throw =>
      cases hop
      cases stack with
      | nil => cases hx
      | cons y rest => simpa [receiver?] using hx
  | putField | arrayLoad =>
      cases hop
      rcases stack with _ | ⟨y, _ | ⟨z, rest⟩⟩
      · cases hx
      · cases hx
      · simpa [receiver?] using hx
  | arrayStore =>
      cases hop
      rcases stack with _ | ⟨y, _ | ⟨z, _ | ⟨w, rest⟩⟩⟩
      · cases hx
      · cases hx
      · cases hx
      · simpa [receiver?] using hx
  | invoke call =>
      simp only [dereferenced?] at hop
      simp only [receiver?]
      split at hop
      · cases hop
      · rename_i hkind
        rw [if_neg hkind, hop]
        exact hx
  | _ => cases hop

/-- The class that an instruction has dereferenced is not null. -/
lemma dereferenced_ne_null (hbefore : Numbered m b index ν s)
    (hreceiver : receiver? op s.stack ≠ some (some .null)) {number : Nat}
    (hnumber : m.dereferencedClass? b index op f = some number) : ν number ≠ some .null := by
  unfold dereferencedClass? at hnumber
  split at hnumber
  · cases hnumber
  obtain ⟨fromTop, hop, hnumber⟩ := Option.bind_eq_some_iff.1 hnumber
  obtain ⟨v, -, hnumber⟩ := Option.bind_eq_some_iff.1 hnumber
  split at hnumber
  · have hcell := meaning_operand hbefore hnumber
    exact fun hnull => hreceiver (hnull ▸ receiver?_of_dereferenced hop hcell)
  · cases hnumber

omit [DescriptorReader] in
lemma describes_afterAssertion (h : f.Describes ν s) : (m.afterAssertion op f).Describes ν s := by
  unfold afterAssertion
  split
  · split
    · exact (h.mapSlots fun _ _ _ _ _ hv => hv.suppressNull).mapKnown fun _ _ hv => hv.suppressNull
    · exact h
  · exact h

/-- **The frame after an instruction describes the state after it.** The instruction is followed
whenever it completes. -/
theorem describes_apply (hcomp : Completes m maxStack b op s s') (h : f.Describes ν s)
    (hmax : f.maxStack = maxStack) (hbefore : Numbered m b index ν s)
    (hafter : Numbered m b (index + 1) ν s') (hassigned : none ∉ s.stack)
    (hloaded : ∀ count slots, argumentLoads b index count = some slots → count ≤ s.stack.length →
      slots.map (s.locals[·]?) = (s.stack.take count).map some) :
    ∃ f', Yields (m.apply b index op f) f' ∧ f'.Describes ν s' := by
  obtain ⟨f₀, hyields, h₀⟩ := describes_applyOp hcomp h hmax hbefore hafter hassigned hloaded
  refine ⟨_, (yields_apply h.valid).2 ⟨f₀, hyields, rfl⟩, ?_⟩
  rw [if_pos h₀.valid]
  apply describes_afterAssertion
  unfold afterDereference
  split
  · rename_i number numbers hnumber hnumbers
    obtain ⟨_, hnumbers', hm⟩ := hafter
    obtain rfl := Option.some.inj (hnumbers.symm.trans hnumbers')
    exact describes_tighten h₀ hm (dereferenced_ne_null hbefore hcomp.receiver hnumber)
  · exact h₀

end NullModel

end Nullness
