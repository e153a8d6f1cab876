import Nullness.Descriptor.Reader
import Nullness.Proofs.DescribedEdges

/-!
# Redundant loads along a branch

Where a branch decides a value, that value becomes the known value of a load whose result was
available under the tested number. Of several such loads the refinement follows the first one alone,
and the others keep what was known of them, although their results are still available at the target.

* `ValueFrame.loadOf?_eq_some_iff`: which load is followed;
* `knownValue?_replaceClass`: what is known after a value is written into a class;
* `BranchDecision.refines_load_iff`: the loads that a refinement reaches.
-/

namespace Nullness

/-! ### The load of a number -/

namespace ValueFrame

variable {α : Type} [Ord α] {f : ValueFrame α} {label : α} {l l' : Load α}

/-- The load is available under a label, and it is the first one that is. -/
structure FirstLoad (f : ValueFrame α) (label : α) (l : Load α) : Prop where
  available : f.available? l = some label
  first : ∀ l', f.available? l' = some label → l' = l ∨ compare l l' = .lt

variable [Std.TransOrd α] [Std.LawfulEqOrd α]

lemma FirstLoad.unique (h : f.FirstLoad label l) (h' : f.FirstLoad label l') : l = l' := by
  rcases h.first l' h'.available with heq | hlt
  · exact heq.symm
  rcases h'.first l h.available with heq | hlt'
  · exact heq
  · have hself := Std.TransCmp.lt_trans hlt hlt'
    rw [Std.compare_self] at hself
    cases hself

variable [DecidableEq α]

omit [Std.TransOrd α] in
lemma firstLoad_of_loadOf? (h : f.loadOf? label = some l) : f.FirstLoad label l := by
  obtain ⟨e, he, rfl⟩ := Option.map_eq_some_iff.1 h
  obtain ⟨hlabel, pre, post, hentries, hpre⟩ := List.find?_eq_some_iff_append.1 he
  obtain rfl : e.2 = label := of_decide_eq_true hlabel
  constructor
  · rw [available?, SortedMap.get?_eq_some_iff, hentries]
    simp
  · intro l' hl'
    rw [available?, SortedMap.get?_eq_some_iff, hentries, List.mem_append, List.mem_cons] at hl'
    rcases hl' with hmem | heq | hmem
    · simpa using hpre _ hmem
    · exact .inl (congrArg Prod.fst heq)
    · have hascending := f.loads.ascending
      rw [hentries] at hascending
      exact .inr ((List.pairwise_cons.1 (List.pairwise_append.1 hascending).2.1).1 _ hmem)

/-- The load of a label is the first one that is available under it. -/
theorem loadOf?_eq_some_iff : f.loadOf? label = some l ↔ f.FirstLoad label l := by
  refine ⟨firstLoad_of_loadOf?, fun h => ?_⟩
  have hentry : (l, label) ∈ f.loads.entries := SortedMap.get?_eq_some_iff.1 h.available
  have hsome : (f.loads.entries.find? fun e => e.2 = label).isSome = true :=
    List.find?_isSome.2 ⟨_, hentry, by simp⟩
  obtain ⟨e, he⟩ := Option.isSome_iff_exists.1 hsome
  have hload : f.loadOf? label = some e.1 := by rw [loadOf?, he, Option.map_some]
  rw [hload, (firstLoad_of_loadOf? hload).unique h]

end ValueFrame

/-! ### What is known along an edge -/

section

variable {V : Type} {f : Frame V} {before target : NumberedFrame} {tested : Nat} {v : V}

/-- Writing a value into a class makes it known of the first load of the class, and of nothing else.
-/
theorem knownValue?_replaceClass (hvalid : f.valid = true) (hslots : f.numSlots = target.numSlots)
    (number : Nat) :
    (replaceClass f tested (some before) (some target) v).knownValue? number =
      if (before.loadOf? tested).bind target.available? = some number then some v
      else f.knownValue? number := by
  have hfits : (f.valid && decide (f.numSlots = target.numSlots)) = true := by
    simp [hvalid, hslots]
  simp only [replaceClass, hfits, if_true]
  cases (before.loadOf? tested).bind target.available? with
  | none => rw [if_neg (by simp)]; rfl
  | some known =>
      refine (Frame.knownValue?_setKnown f known number v).trans ?_
      simp only [Option.some.injEq, eq_comm]

namespace BranchDecision

variable [CellValue V] {d : BranchDecision V} {kind : EdgeKind}

/-- **The loads that a refinement reaches.** Along an edge with a value, a load of the tested number
that is still available at the target gets that value exactly if the first load of the tested number
is available there under the same number, unless the value was known of it before. -/
theorem refines_load_iff (hside : d.side? kind = some v) (hvalid : f.valid = true)
    (hslots : f.numSlots = target.numSlots) :
    ∀ l number, before.available? l = some d.tested → target.available? l = some number →
      ((d.apply kind (some before) (some target) f).knownValue? number = some v ↔
        f.knownValue? number = some v ∨
          ∃ first, before.FirstLoad d.tested first ∧ target.available? first = some number) := by
  intro l number _ _
  have hfollowed : (before.loadOf? d.tested).bind target.available? = some number ↔
      ∃ first, before.FirstLoad d.tested first ∧ target.available? first = some number := by
    simp only [Option.bind_eq_some_iff, ValueFrame.loadOf?_eq_some_iff]
  rw [apply_eq hside, knownValue?_replaceClass hvalid hslots, ← hfollowed]
  split
  · rename_i h
    simp [h]
  · rename_i h
    simp [h]

end BranchDecision

end

/-! ### Two loads of one value -/

/-- The body of a method that stores its second parameter in two fields of the first, with a test of
the parameter behind each store; both tests branch to one block. -/
def storedTwiceBody : Body where
  entry := 0
  exit := 4
  blocks := [
    ⟨0, [⟨0, .load 0⟩, ⟨1, .load 1⟩, ⟨2, .putField ⟨"A", "g", "LA;"⟩⟩, ⟨3, .load 1⟩, ⟨4, .ifNull⟩]⟩,
    ⟨1, [⟨5, .load 0⟩, ⟨6, .load 1⟩, ⟨7, .putField ⟨"A", "f", "LA;"⟩⟩, ⟨8, .load 1⟩, ⟨9, .ifNull⟩]⟩,
    ⟨2, [⟨10, .return⟩]⟩, ⟨3, [⟨11, .return⟩]⟩, ⟨4, []⟩]
  edges := [⟨0, 2, .branch⟩, ⟨0, 1, .fallThrough⟩, ⟨1, 2, .branch⟩, ⟨1, 3, .fallThrough⟩,
    ⟨2, 4, .fallThrough⟩, ⟨3, 4, .fallThrough⟩]

/-- The flow graph of this body. -/
def storedTwice : FlowGraph := (FlowGraph.ofBody storedTwiceBody).toOption.get (by decide +kernel)

/-- The decision of either test, when nothing is known of the parameter. -/
def storedTwiceDecision : BranchDecision Nullity := ⟨1, some .definitelyNull, some .nonNullProven⟩

/-- What the branch carries, with nothing known of a number. -/
def storedTwiceFrame : NullFrame := ⟨[.nonNullSilent, .definitelyNull], [], 2, true, .empty⟩

namespace BranchDecision

/-- Behind the first test one load of the parameter is available, and it is refined. -/
theorem refines_load_storedTwice :
    ∃ t before target, ValueTable.ofGraph storedTwice 2 2 = .ok t ∧
      t.factAt? ⟨0, by decide +kernel⟩ 4 = some before ∧
      t.startFact? ⟨2, by decide +kernel⟩ = some target ∧
      before.available? (.field (some 0) ⟨"A", "g", "LA;"⟩) = some storedTwiceDecision.tested ∧
      target.available? (.field (some 0) ⟨"A", "g", "LA;"⟩) = some 1 ∧
      (storedTwiceDecision.apply .branch (some before) (some target) storedTwiceFrame).knownValue? 1
        = some .definitelyNull := by
  let t := (ValueTable.ofGraph storedTwice 2 2).toOption.get (by decide +kernel)
  let before := (t.factAt? ⟨0, by decide +kernel⟩ 4).get (by decide +kernel)
  let target := (t.startFact? ⟨2, by decide +kernel⟩).get (by decide +kernel)
  let l : Load Nat := .field (some 0) ⟨"A", "g", "LA;"⟩
  have hbefore : before.available? l = some storedTwiceDecision.tested := by decide +kernel
  have htarget : target.available? l = some 1 := by decide +kernel
  have hfirst : before.FirstLoad storedTwiceDecision.tested l :=
    ValueFrame.loadOf?_eq_some_iff.1 (by decide +kernel)
  have hside : storedTwiceDecision.side? .branch = some .definitelyNull := rfl
  have hslots : storedTwiceFrame.numSlots = target.numSlots := by decide +kernel
  have hknown := (refines_load_iff hside rfl hslots l 1 hbefore htarget).2
    (.inr ⟨l, hfirst, htarget⟩)
  exact ⟨t, before, target, eq_ok_get _, (Option.some_get _).symm, (Option.some_get _).symm,
    hbefore, htarget, hknown⟩

/-- **A load that is not refined.** Behind the second test two loads of the parameter are available,
of which the later one alone is available at the target: nothing is known of it there. -/
theorem refines_load_missed :
    ∃ t before target, ValueTable.ofGraph storedTwice 2 2 = .ok t ∧
      t.factAt? ⟨1, by decide +kernel⟩ 4 = some before ∧
      t.startFact? ⟨2, by decide +kernel⟩ = some target ∧
      storedTwiceDecision.side? .branch = some .definitelyNull ∧
      storedTwiceFrame.valid = true ∧ storedTwiceFrame.numSlots = target.numSlots ∧
      before.available? (.field (some 0) ⟨"A", "g", "LA;"⟩) = some storedTwiceDecision.tested ∧
      target.available? (.field (some 0) ⟨"A", "g", "LA;"⟩) = some 1 ∧
      (storedTwiceDecision.apply .branch (some before) (some target) storedTwiceFrame).knownValue? 1
        = none := by
  let t := (ValueTable.ofGraph storedTwice 2 2).toOption.get (by decide +kernel)
  let before := (t.factAt? ⟨1, by decide +kernel⟩ 4).get (by decide +kernel)
  let target := (t.startFact? ⟨2, by decide +kernel⟩).get (by decide +kernel)
  exact ⟨t, before, target, eq_ok_get _, (Option.some_get _).symm, (Option.some_get _).symm, rfl,
    rfl, by decide +kernel, by decide +kernel, by decide +kernel, by decide +kernel⟩

end BranchDecision

end Nullness
