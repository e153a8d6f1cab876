import Mathlib.Tactic
import Nullness.Proofs.Description

/-!
# The frame on entry

What the frame that the analysis of a method starts from contains: the receiver and the parameters
have been written into their slots, and the other local variables have no value yet.

* `entryFrame_written`: the frame as the result of its writes;
* `describes_entryFrame`: **the frame on entry describes every state on entry**, as far as the other
  local variables are without a value there.
-/

namespace Nullness

open Machine Nullness.Frame

variable {f f' : NullFrame} {values : List (Nat × Nullity)}

/-! ### Writes -/

/-- Writes to local variables change nothing else, and a variable that none of them writes keeps its
value. -/
structure Written (f : NullFrame) (values : List (Nat × Nullity)) (f' : NullFrame) : Prop where
  valid : f'.valid = f.valid
  stack : f'.stack = f.stack
  maxStack : f'.maxStack = f.maxStack
  known : f'.known = f.known
  numLocals : f'.numLocals = f.numLocals
  locals : ∀ slot v, f'.locals[slot]? = some v →
    (slot, v) ∈ values ∨ f.locals[slot]? = some v ∧ slot ∉ values.map (·.1)

lemma written_nil (f : NullFrame) : Written f [] f :=
  ⟨rfl, rfl, rfl, rfl, rfl, fun _ _ h => .inr ⟨h, List.not_mem_nil⟩⟩

lemma Written.cons {f₁ : NullFrame} {slot : Nat} {v : Nullity} (h : f.setLocal slot v = .ok f₁)
    (h' : Written f₁ values f') : Written f ((slot, v) :: values) f' := by
  obtain ⟨hlt, rfl⟩ := setLocal_eq_ok_iff.1 h
  refine ⟨h'.valid, h'.stack, h'.maxStack, h'.known, h'.numLocals.trans List.length_set,
    fun slot' w hw => ?_⟩
  rcases h'.locals slot' w hw with hmem | ⟨hkept, hnot⟩
  · exact .inl (List.mem_cons_of_mem _ hmem)
  · by_cases heq : slot = slot'
    · subst heq
      rw [List.getElem?_set_self hlt, Option.some.injEq] at hkept
      exact .inl (hkept ▸ List.mem_cons_self)
    · rw [List.getElem?_set_ne heq] at hkept
      refine .inr ⟨hkept, ?_⟩
      rw [List.map_cons, List.mem_cons, not_or]
      exact ⟨Ne.symm heq, hnot⟩

lemma written_writeParameters (h : writeParameters f values = .ok f') : Written f values f' := by
  induction values generalizing f with
  | nil =>
      obtain rfl : f = f' := by simpa [writeParameters, pure, Except.pure] using h
      exact written_nil f
  | cons value values ih =>
      obtain ⟨slot, v⟩ := value
      rw [writeParameters, List.foldlM_cons] at h
      obtain ⟨f₁, hset, hrest⟩ := bind_eq_ok_iff.1 h
      exact (ih hrest).cons hset

/-! ### Receiver and parameters -/

variable {h : Hierarchy} {id : MethodId} {method : Method} {d : MethodDescriptor}

/-- The values that are written on entry, by slot. -/
def entryValues (h : Hierarchy) (id : MethodId) (method : Method) (d : MethodDescriptor) :
    List (Nat × Nullity) :=
  (if method.isStatic then [] else [(0, .nonNullProven)]) ++
    (d.parameterSlots method.isStatic).zip (d.parameters.mapIdx fun i t => entryValue h id i t)

/-- The frame on entry is made by writing the receiver and the parameters. -/
lemma entryFrame_written [DescriptorReader] (hentry : entryFrame h id method = .ok f) :
    ∃ d, MethodDescriptor.parse method.descriptor = .ok d ∧
      Written ((Frame.fresh method.maxLocals method.maxStack).setValid) (entryValues h id method d)
        f := by
  unfold entryFrame at hentry
  split at hentry
  · rename_i hstatic
    simp only [bind_eq_ok_iff, pure_eq_ok_iff] at hentry
    obtain ⟨_, rfl, d, hd, hwrite⟩ := hentry
    refine ⟨d, hd, ?_⟩
    rw [entryValues, if_pos hstatic]
    exact written_writeParameters hwrite
  · rename_i hstatic
    simp only [bind_eq_ok_iff] at hentry
    obtain ⟨f₁, hreceiver, d, hd, hwrite⟩ := hentry
    refine ⟨d, hd, ?_⟩
    rw [entryValues, if_neg hstatic]
    exact (written_writeParameters hwrite).cons hreceiver

/-- The frame on entry has the method's local variables, an empty stack, and knows no class. -/
lemma entryFrame_shape [DescriptorReader] (hentry : entryFrame h id method = .ok f) :
    f.valid = true ∧ f.numLocals = method.maxLocals ∧ f.stack = [] ∧ f.maxStack = method.maxStack ∧
      ∀ n, ¬ f.Knows n := by
  obtain ⟨d, -, hwritten⟩ := entryFrame_written hentry
  refine ⟨hwritten.valid, ?_, hwritten.stack, hwritten.maxStack, fun n hn => ?_⟩
  · rw [hwritten.numLocals]
    simp [setValid, setTop, fresh, numLocals]
  · rw [Knows, knownValue?, hwritten.known] at hn
    exact absurd hn Bool.false_ne_true

lemma length_slotsFrom (slot : Nat) (ts : List JvmType) :
    (MethodDescriptor.slotsFrom slot ts).length = ts.length := by
  induction ts generalizing slot with
  | nil => rfl
  | cons t ts ih => simp [MethodDescriptor.slotsFrom, ih]

/-- What is written for a receiver and for parameters holds on entry. -/
lemma holds_entryValues [DescriptorReader] {first : State Cell} (henters : Enters h id method first)
    (hd : MethodDescriptor.parse method.descriptor = .ok d) {slot : Nat} {v : Nullity} {x : Cell}
    (hv : (slot, v) ∈ entryValues h id method d) (hx : first.locals[slot]? = some x) :
    v.Holds x := by
  rcases List.mem_append.1 hv with hv | hv
  · split at hv
    · exact absurd hv List.not_mem_nil
    · rename_i hstatic
      obtain ⟨rfl, rfl⟩ : slot = 0 ∧ v = .nonNullProven := by simpa using hv
      refine Nullity.holds_of_ne_null (by decide) (by decide) fun hnull => ?_
      exact henters.receiver (by simpa using hstatic) (hnull ▸ hx)
  · obtain ⟨i, hi⟩ := List.mem_iff_getElem?.1 hv
    obtain ⟨hslot, hvalue⟩ := List.getElem?_zip_eq_some.1 hi
    rw [List.getElem?_mapIdx] at hvalue
    obtain ⟨t, ht, rfl⟩ := Option.map_eq_some_iff.1 hvalue
    simp only [entryValue]
    split
    · rename_i href
      refine Nullity.holds_nullity fun hmark hnull => ?_
      exact henters.parameters d hd i t slot ht hslot href hmark (hnull ▸ hx)
    · exact Nullity.holds_of_isUndecided rfl

/-- **The frame on entry describes every state on entry** in which only the receiver and the
parameters have values. -/
theorem describes_entryFrame [DescriptorReader] {first : State Cell}
    (hentry : entryFrame h id method = .ok f)
    (henters : Enters h id method first) (honly : ParametersOnly method first) (ν : Nat → Cell) :
    f.Describes ν first := by
  obtain ⟨hvalid, hnum, hstack, -, hknown⟩ := entryFrame_shape hentry
  obtain ⟨d, hd, hwritten⟩ := entryFrame_written hentry
  refine ⟨hvalid, ?_, by rw [hstack, henters.stack]; exact .nil, fun n v hv => ?_⟩
  · refine forall₂_of_getElem? (hnum.trans henters.locals.symm) fun slot v x hv hx => ?_
    rcases hwritten.locals slot v hv with hmem | ⟨-, hnot⟩
    · exact holds_entryValues henters hd hmem hx
    · -- neither the receiver nor a parameter lies here
      obtain ⟨hlt, -⟩ := List.getElem?_eq_some_iff.1 hx
      have hslots : ((d.parameterSlots method.isStatic).zip
            (d.parameters.mapIdx fun i t => entryValue h id i t)).map (·.1)
          = d.parameterSlots method.isStatic :=
        List.map_fst_zip (by simp [MethodDescriptor.parameterSlots, length_slotsFrom])
      rw [entryValues, List.map_append, List.mem_append, not_or, hslots] at hnot
      have hnone := honly d hd slot hlt (fun hstatic hzero => hnot.1 (by simp [hstatic, hzero]))
        hnot.2
      rw [hx, Option.some.injEq] at hnone
      exact hnone ▸ Nullity.holds_none v
  · exact absurd (by simp [Knows, hv]) (hknown n)

end Nullness
