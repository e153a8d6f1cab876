import Mathlib.Tactic
import Nullness.Descriptor.Reader
import Nullness.Proofs.ThrowerGuards

/-!
# Local variables across calls

What a call tells of the local variables in front of it. The classes of arguments and of a receiver are
tightened only where their values are undecided. The summary of the called method is applied whatever is
known of a variable, so it also makes guarded values of those that say more.

* `NullModel.summaryLocals`: the variables that the summary of a called method guards;
* `NullModel.invoke_locals`: what becomes of each variable;
* `NullModel.apply_invoke_le_iff`: **when a call only tightens a variable**;
* `NullModel.apply_invoke_checkedAllocation`: a call after which less is known of a variable.
-/

namespace Nullness

open CellValue

namespace Nullity

/-- An undecided value may have been found not to be null. -/
def Narrows (v v' : Nullity) : Prop := v' = v ∨ v.isUndecided = true ∧ v' = .nonNullGuarded

instance (v v' : Nullity) : Decidable (v.Narrows v') := instDecidableOr

lemma Narrows.trans {v v' v'' : Nullity} (h : v.Narrows v') (h' : v'.Narrows v'') : v.Narrows v'' := by
  rcases h with rfl | ⟨hundecided, rfl⟩
  · exact h'
  · rcases h' with rfl | ⟨hguarded, -⟩
    · exact .inr ⟨hundecided, rfl⟩
    · cases hguarded

lemma guarded_le_iff {v : Nullity} :
    Le .nonNullGuarded v ↔ v ≠ .top ∧ v ≠ .definitelyNull ∧ v ≠ .nonNullProven := by
  have hle : Le .nonNullGuarded v ↔ Nullity.nonNullGuarded.join v = v := .rfl
  rw [hle]
  cases v <;> decide

lemma Narrows.le {v v' : Nullity} (h : v.Narrows v') : Le v' v := by
  rcases h with rfl | ⟨hundecided, rfl⟩
  · exact .refl _
  · rw [guarded_le_iff]
    revert hundecided
    cases v <;> decide

end Nullity

namespace NullModel

open Nullness.Frame

variable {g : FlowGraph} {m : NullModel g} {b : g.Node} {index slot : Nat} {call : CallSite}
  {targets : List MethodId} {f f' : NullFrame} {v : Nullity}

/-! ### Tightened classes -/

lemma narrows_tighten (numbers : NumberedFrame) (number : Nat) (h : f.locals[slot]? = some v) :
    ∃ v', (tighten numbers number f).locals[slot]? = some v' ∧ v.Narrows v' := by
  have hlocals : (tighten numbers number f).locals = f.locals.mapIdx fun i v =>
      if numbers.slot? i = some number && v.isUndecided then .nonNullGuarded else v := by
    unfold tighten
    split
    · rfl
    · split <;> rfl
  rw [hlocals, List.getElem?_mapIdx, h]
  refine ⟨_, rfl, ?_⟩
  dsimp only
  split
  · rename_i hclass
    rw [Bool.and_eq_true] at hclass
    exact .inr ⟨hclass.2, rfl⟩
  · exact .inl rfl

lemma Tightened.narrows (h : Tightened f f') (hv : f.locals[slot]? = some v) :
    ∃ v', f'.locals[slot]? = some v' ∧ v.Narrows v' := by
  induction h with
  | refl => exact ⟨v, hv, .inl rfl⟩
  | tail _ hstep ih =>
      obtain ⟨numbers, number, rfl⟩ := hstep
      obtain ⟨w, hw, hnarrows⟩ := ih
      obtain ⟨v', hv', hlast⟩ := narrows_tighten numbers number hw
      exact ⟨v', hv', hnarrows.trans hlast⟩

/-! ### Summaries -/

/-- The variables among the loads in front of a call that are passed for checked parameters. -/
def checkedLocals (b : g.Node) (index consumed : Nat) (parameters : SortedSet Nat) : List Nat :=
  ((argumentLoads b index consumed).getD []).zipIdx.filterMap fun (slot, distance) =>
    if SortedSet.mem parameters (consumed - 1 - distance) then some slot else none

/-- The variables that the summary of a called method guards: those that are passed for the
parameters which it checks, or that of the nearest null test if it throws in any case. -/
def summaryLocals [DescriptorReader] (m : NullModel g) (b : g.Node) (index : Nat)
    (call : CallSite) : List Nat :=
  if call.kind = .static then
    match m.summaries.get ((m.hierarchy.targets call).head?.getD call.declared), call.consumed with
    | .alwaysThrows, .ok 0 => (nearestTest? b).toList
    | .conditional parameters, .ok consumed => checkedLocals b index consumed parameters
    | _, _ => []
  else []

/-- Some variables are guarded, and the others stay as they are. -/
def GuardsLocals (slots : List Nat) (f f' : NullFrame) : Prop :=
  ∀ slot, f'.locals[slot]? =
    (f.locals[slot]?).map fun v => if slot ∈ slots then .nonNullGuarded else v

lemma guardsLocals_nil (f : NullFrame) : GuardsLocals [] f f := fun slot => by simp

lemma guardsLocals_cons {slots : List Nat} {f₁ : NullFrame}
    (h : f.setLocal slot .nonNullGuarded = .ok f₁) (h' : GuardsLocals slots f₁ f') :
    GuardsLocals (slot :: slots) f f' := by
  obtain ⟨hslot, rfl⟩ := setLocal_eq_ok_iff.1 h
  intro other
  rw [h' other]
  by_cases hother : slot = other
  · subst hother
    have hset : (f.locals.set slot .nonNullGuarded)[slot]? = some .nonNullGuarded :=
      List.getElem?_set_self hslot
    obtain ⟨v, hget⟩ : ∃ v, f.locals[slot]? = some v := ⟨_, List.getElem?_eq_getElem hslot⟩
    simp [hset, hget]
  · have hset : (f.locals.set slot .nonNullGuarded)[other]? = f.locals[other]? :=
      List.getElem?_set_ne hother
    simp [hset, Ne.symm hother]

lemma guardsLocals_checked {parameters : SortedSet Nat} {consumed : Nat} {loads : List (Nat × Nat)}
    (h : loads.foldlM (fun f (slot, distance) =>
      if SortedSet.mem parameters (consumed - 1 - distance) then f.setLocal slot .nonNullGuarded
      else .ok f) f = .ok f') :
    GuardsLocals (loads.filterMap fun (slot, distance) =>
      if SortedSet.mem parameters (consumed - 1 - distance) then some slot else none) f f' := by
  induction loads generalizing f with
  | nil =>
      obtain rfl : f = f' := by simpa using h
      exact guardsLocals_nil f
  | cons load loads ih =>
      obtain ⟨slot, distance⟩ := load
      rw [List.foldlM_cons] at h
      obtain ⟨f₁, hfirst, hrest⟩ := bind_eq_ok_iff.1 h
      simp only at hfirst
      rw [List.filterMap_cons]
      simp only
      split at hfirst
      · rename_i hchecked
        rw [if_pos hchecked]
        exact guardsLocals_cons hfirst (ih hrest)
      · rename_i hchecked
        rw [if_neg hchecked]
        cases hfirst
        exact ih hrest

/-- The variables that are passed for checked parameters are guarded. -/
lemma guardsLocals_guardCheckedArguments [DescriptorReader] {parameters : SortedSet Nat}
    {consumed : Nat}
    (hconsumed : call.consumed = .ok consumed)
    (h : guardCheckedArguments b index call parameters f = .ok f') :
    GuardsLocals (checkedLocals b index consumed parameters) f f' := by
  rw [guardCheckedArguments, hconsumed] at h
  simp only [bind, Except.bind] at h
  unfold checkedLocals
  cases hloads : argumentLoads b index consumed with
  | none =>
      rw [hloads] at h
      obtain rfl : f = f' := pure_eq_ok_iff.1 h
      exact guardsLocals_nil f
  | some slots =>
      rw [hloads] at h
      exact guardsLocals_checked h

/-- A summary guards its variables. -/
lemma guardsLocals_summarized [DescriptorReader] (h : m.summarized b index call f = .ok f') :
    GuardsLocals (m.summaryLocals b index call) f f' := by
  have unchanged : f = f' → GuardsLocals [] f f' := by
    rintro rfl
    exact guardsLocals_nil f
  unfold summarized at h
  unfold summaryLocals
  split at h
  swap
  · rename_i hkind
    rw [if_neg hkind]
    exact unchanged (Except.ok.inj h)
  rename_i hkind
  rw [if_pos hkind]
  unfold applySummary at h
  cases hsummary : m.summaries.get ((m.hierarchy.targets call).head?.getD call.declared) with
  | none =>
      rw [hsummary] at h
      exact unchanged (Except.ok.inj h)
  | alwaysThrows =>
      rw [hsummary] at h
      obtain ⟨consumed, hconsumed, h⟩ := bind_eq_ok_iff.1 h
      rw [hconsumed]
      cases consumed with
      | succ consumed => exact unchanged (pure_eq_ok_iff.1 h)
      | zero =>
          rw [if_pos rfl, guardBeforeThrower_eq] at h
          cases hnearest : nearestTest? b with
          | none =>
              rw [hnearest] at h
              exact unchanged (Except.ok.inj h)
          | some slot =>
              rw [hnearest] at h
              exact guardsLocals_cons h (guardsLocals_nil f')
  | conditional parameters =>
      rw [hsummary] at h
      obtain ⟨consumed, hconsumed, -⟩ := bind_eq_ok_iff.1 h
      rw [hconsumed]
      exact guardsLocals_guardCheckedArguments hconsumed h

/-! ### Calls -/

lemma locals_withResult : (m.withResult b index f v).locals = f.locals := by
  unfold withResult
  split <;> rfl

/-- Taking the arguments and leaving a result does not touch the variables. -/
lemma locals_finishCall [DescriptorReader] (h : Yields (m.finishCall b index call targets f) f') :
    f'.locals = f.locals := by
  obtain ⟨consumed, -, h⟩ := yields_bind.1 h
  obtain ⟨popped, hpop, h⟩ := yields_bind.1 h
  obtain ⟨-, rfl⟩ := popN_eq_ok_iff.1 hpop
  obtain ⟨kind, -, h⟩ := yields_bind.1 h
  split at h
  · obtain ⟨-, rfl⟩ := yields_produce.1 h
    exact locals_withResult
  · obtain ⟨pushed, hpush, h⟩ := yields_bind.1 h
    obtain rfl : pushed = f' := yields_ok.1 h
    obtain ⟨-, rfl⟩ := push_eq_ok_iff.1 hpush
    rfl
  · obtain rfl := yields_ok.1 h
    rfl

/-- What becomes of a variable while a call is modelled: a variable of the summary is guarded, and
another one may be found not to be null if it is undecided. -/
lemma invoke_locals [DescriptorReader] (h : Yields (m.invoke b index call f) f')
    (hvalid : f'.valid = true)
    (hv : f.locals[slot]? = some v) :
    ∃ v', f'.locals[slot]? = some v' ∧
      if slot ∈ m.summaryLocals b index call then v' = .nonNullGuarded else v.Narrows v' := by
  rcases yields_invoke.1 h with ⟨-, rfl⟩ | ⟨f₁, f₂, hguarded, hsummarized, h⟩
  · cases hvalid
  obtain ⟨v₁, hv₁, hnarrows⟩ := (tightened_guarded hguarded).narrows hv
  have hv₂ := guardsLocals_summarized hsummarized slot
  rw [hv₁, ← locals_finishCall h] at hv₂
  refine ⟨_, hv₂, ?_⟩
  split
  · rfl
  · exact hnarrows

/-- **When a call only tightens a variable.** Behind a call that asserts nothing a variable has its
value from before or is guarded. The value behind the call is at most that in front of it, unless
the summary of the called method guards the variable and its value in front of the call was top,
definitely null or proven not to be null. -/
theorem apply_invoke_le_iff [DescriptorReader] {out : Modeled}
    (hassert : isAssertion m.config.assertionMethods.toList call = false) (hvalid : f.valid = true)
    (h : m.apply b index (.invoke call) f = .ok out) (hvalid' : out.frame.valid = true)
    (hv : f.locals[slot]? = some v) :
    ∃ v', out.frame.locals[slot]? = some v' ∧
      (if slot ∈ m.summaryLocals b index call then v' = .nonNullGuarded else v.Narrows v') ∧
      (Le v' v ↔ slot ∉ m.summaryLocals b index call ∨
        v ≠ .top ∧ v ≠ .definitelyNull ∧ v ≠ .nonNullProven) := by
  obtain ⟨f₀, h₀, hout⟩ := (yields_apply hvalid).1 ⟨out.newNull, h⟩
  cases hvalid₀ : f₀.valid with
  | false => simp [hout, hvalid₀] at hvalid'
  | true =>
      obtain ⟨v₁, hv₁, hinvoked⟩ := invoke_locals h₀ hvalid₀ hv
      have hcalm : out.frame = m.afterDereference b index
          (m.dereferencedClass? b index (.invoke call) f) f₀ := by
        simp [hout, hvalid₀, afterAssertion, hassert]
      have htightened : Tightened f₀ out.frame := by
        rw [hcalm]
        exact tightened_afterDereference _ f₀
      obtain ⟨v', hv', hnarrows⟩ := htightened.narrows hv₁
      refine ⟨v', hv', ?_⟩
      by_cases hslot : slot ∈ m.summaryLocals b index call
      · rw [if_pos hslot] at hinvoked ⊢
        subst hinvoked
        obtain rfl : v' = .nonNullGuarded := hnarrows.elim id And.right
        exact ⟨rfl, by simp [hslot, Nullity.guarded_le_iff]⟩
      · rw [if_neg hslot] at hinvoked ⊢
        exact ⟨hinvoked.trans hnarrows, by simp [hslot, (hinvoked.trans hnarrows).le]⟩

end NullModel

namespace MethodAnalysis

open NullModel

/-- A call of a method that throws when its argument is null. -/
def checkCall : CallSite := ⟨"A", "check", "(LA;)V", .static⟩

/-- The program with the summary of the checking method. -/
def checkContext : AnalysisContext :=
  ⟨.default, ⟨[shortcutClass]⟩, ⟨.ofList [(checkCall.declared, .conditional (.ofList [0]))]⟩⟩

/-- A method that has its parameter checked. -/
def checkedParameter : Method where
  name := "m"
  descriptor := "(LA;)V"
  isPublic := true
  isStatic := true
  isAbstract := false
  returnMark := .unknown
  parameterMarks := []
  maxLocals := 1
  maxStack := 1
  body := some {
    entry := 0
    exit := 1
    blocks := [⟨0, [⟨0, .load 0⟩, ⟨1, .invoke checkCall⟩, ⟨2, .return⟩]⟩, ⟨1, []⟩]
    edges := [⟨0, 1, .fallThrough⟩] }
  dereferencedParameters := []

/-- A method that has a new object checked. -/
def checkedAllocation : Method :=
  { checkedParameter with
    descriptor := "()V"
    body := checkedParameter.body.map fun body =>
      { body with blocks := [⟨0, [⟨0, .new "A"⟩, ⟨1, .store 0⟩, ⟨2, .load 0⟩,
          ⟨3, .invoke checkCall⟩, ⟨4, .return⟩]⟩, ⟨1, []⟩] } }

/-- The analysis of the method that has its parameter checked. -/
def checkedParameterAnalysis : MethodAnalysis :=
  (ofMethod checkContext shortcutClass checkedParameter).toOption.get (by decide +kernel)

/-- The analysis of the method that has a new object checked. -/
def checkedAllocationAnalysis : MethodAnalysis :=
  (ofMethod checkContext shortcutClass checkedAllocation).toOption.get (by decide +kernel)

/-- A parameter of which nothing was known is guarded behind the call. -/
theorem apply_invoke_le_iff_checkedParameter :
    ofMethod checkContext shortcutClass checkedParameter = .ok checkedParameterAnalysis ∧
      ∃ out, checkedParameterAnalysis.model.apply checkedParameterAnalysis.graph.entry 1
          (.invoke checkCall)
          (checkedParameterAnalysis.factAt checkedParameterAnalysis.graph.entry 1) = .ok out ∧
        ∃ v', out.frame.locals[0]? = some v' ∧ v' = .nonNullGuarded ∧ Le v' .nonNullSilent := by
  have hout := eq_ok_get (x := checkedParameterAnalysis.model.apply
    checkedParameterAnalysis.graph.entry 1 (.invoke checkCall)
    (checkedParameterAnalysis.factAt checkedParameterAnalysis.graph.entry 1)) (by decide +kernel)
  have hv : (checkedParameterAnalysis.factAt checkedParameterAnalysis.graph.entry 1).locals[0]?
      = some .nonNullSilent := by decide +kernel
  obtain ⟨v', hv', hguarded, hle⟩ := apply_invoke_le_iff (by decide +kernel) (by decide +kernel) hout
    (by decide +kernel) hv
  rw [if_pos (by decide +kernel)] at hguarded
  exact ⟨eq_ok_get (by decide +kernel), _, hout, v', hv', hguarded, hle.2 (.inr (by decide))⟩

/-- **A call may tell less of a variable than was known.** A variable that was proven not to be null
is only guarded behind the call that checks it. -/
theorem apply_invoke_checkedAllocation :
    ofMethod checkContext shortcutClass checkedAllocation = .ok checkedAllocationAnalysis ∧
      ∃ (b : checkedAllocationAnalysis.graph.Node) (out : Modeled),
        (checkedAllocationAnalysis.graph.ops b)[3]? = some (.invoke checkCall) ∧
          isAssertion checkContext.config.assertionMethods.toList checkCall = false ∧
          (checkedAllocationAnalysis.factAt b 3).valid = true ∧
          checkedAllocationAnalysis.model.apply b 3 (.invoke checkCall)
            (checkedAllocationAnalysis.factAt b 3) = .ok out ∧
          out.frame.valid = true ∧
          (checkedAllocationAnalysis.factAt b 3).locals = [.nonNullProven] ∧
          out.frame.locals = [.nonNullGuarded] ∧
          ¬ Le Nullity.nonNullGuarded .nonNullProven := by
  refine ⟨eq_ok_get (by decide +kernel), checkedAllocationAnalysis.graph.entry, _,
    by decide +kernel, by decide +kernel, by decide +kernel, eq_ok_get (by decide +kernel),
    by decide +kernel, by decide +kernel, by decide +kernel, ?_⟩
  rw [Nullity.guarded_le_iff]
  decide

end MethodAnalysis

end Nullness
