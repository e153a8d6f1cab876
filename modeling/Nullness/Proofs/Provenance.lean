import Mathlib.Tactic
import Nullness.FlowGraph
import Nullness.ValueNumber.Origin

/-!
# Where labels come from

An origin names an event, and the same event happens again whenever control comes back to its place.
A label is safe to use again if by then nothing mentions it any more. That is so because whatever is
mentioned at a point is mentioned there on *every* way from the entry, so it was born on each of
them: on a shortest way to the place of its birth it cannot have been.

* `Births.not_mentioned`: no result of an instruction is mentioned in front of the instruction;
* `Births.not_stray`: a label that is born where paths meet is mentioned there in its own slot only.
-/

namespace Nullness

variable {g : FlowGraph}

/-- A way from the entry to a point, along instructions and edges, with its length. Only some points
and edges can be used. -/
inductive Walk (g : FlowGraph) (Alive : g.Node → Nat → Prop) (Taken : g.Arc → Prop) :
    Nat → g.Node → Nat → Prop
  | entry : Walk g Alive Taken 0 g.entry 0
  | step {n : Nat} {b : g.Node} {index : Nat} : Walk g Alive Taken n b index →
      index < (g.instructions b).length → Alive b (index + 1) →
      Walk g Alive Taken (n + 1) b (index + 1)
  | jump {n : Nat} {e : g.Arc} : Walk g Alive Taken n e.source (g.instructions e.source).length →
      e ∈ g.edges → Taken e → Walk g Alive Taken (n + 1) e.target 0

lemma Walk.reachable {Alive : g.Node → Nat → Prop} {Taken : g.Arc → Prop} {n : Nat} {b : g.Node}
    {index : Nat} (h : Walk g Alive Taken n b index) : g.Reachable b := by
  induction h with
  | entry => exact .entry
  | step _ _ _ ih => exact ih
  | jump _ he _ ih => exact .step ih he

lemma Walk.mono {Alive Alive' : g.Node → Nat → Prop} {Taken Taken' : g.Arc → Prop} {n : Nat}
    {b : g.Node} {index : Nat} (h : Walk g Alive Taken n b index)
    (halive : ∀ b index, Alive b index → Alive' b index) (htaken : ∀ e, Taken e → Taken' e) :
    Walk g Alive' Taken' n b index := by
  induction h with
  | entry => exact .entry
  | step _ hlt h ih => exact .step ih hlt (halive _ _ h)
  | jump _ he h ih => exact .jump ih he (htaken _ h)

/-- How labels come to be mentioned along a way. A label that is mentioned at the start of a block is
*stray* there unless it stands in the slot in which it was born by a join at that block. -/
structure Births (g : FlowGraph) (Alive : g.Node → Nat → Prop) (Taken : g.Arc → Prop)
    (Mentioned : g.Node → Nat → ValueOrigin → Prop) (Stray : g.Node → ValueOrigin → Prop) :
    Prop where
  entry : ∀ {a}, Mentioned g.entry 0 a →
    (∃ slot, a = .entry slot) ∨ ∃ slot, a = .merge g.entry slot
  entry_stray : ∀ {a}, Stray g.entry a → ∃ slot, a = .entry slot
  step : ∀ {b index a}, index < (g.instructions b).length → Alive b (index + 1) →
    Mentioned b (index + 1) a → Mentioned b index a ∨ ∃ k, a = .produced b index k
  jump : ∀ {e a}, e ∈ g.edges → Taken e → Mentioned e.target 0 a →
    Mentioned e.source (g.instructions e.source).length a ∨ ∃ slot, a = .merge e.target slot
  jump_stray : ∀ {e a}, e ∈ g.edges → Taken e → Stray e.target a →
    Mentioned e.source (g.instructions e.source).length a

namespace Births

variable {Alive : g.Node → Nat → Prop} {Taken : g.Arc → Prop}
  {Mentioned : g.Node → Nat → ValueOrigin → Prop} {Stray : g.Node → ValueOrigin → Prop}

/-- What is mentioned at the end of a way was there on entry, or it was born on the way. -/
lemma born (h : Births g Alive Taken Mentioned Stray) {n : Nat} {b : g.Node} {index : Nat}
    {a : ValueOrigin} (hw : Walk g Alive Taken n b index) (ha : Mentioned b index a) :
    (∃ slot, a = .entry slot) ∨
      (∃ m < n, ∃ b' index' k, Walk g Alive Taken m b' index' ∧ a = .produced b' index' k) ∨
      ∃ m ≤ n, ∃ b' slot, Walk g Alive Taken m b' 0 ∧ a = .merge b' slot := by
  induction hw with
  | entry =>
      rcases h.entry ha with he | ⟨slot, rfl⟩
      · exact .inl he
      · exact .inr (.inr ⟨0, le_rfl, _, slot, .entry, rfl⟩)
  | @step n b index hw hlt halive ih =>
      rcases h.step hlt halive ha with ha | ⟨k, rfl⟩
      · rcases ih ha with he | ⟨m, hm, hb⟩ | ⟨m, hm, hb⟩
        · exact .inl he
        · exact .inr (.inl ⟨m, by omega, hb⟩)
        · exact .inr (.inr ⟨m, by omega, hb⟩)
      · exact .inr (.inl ⟨n, by omega, b, index, k, hw, rfl⟩)
  | @jump n e hw he htaken ih =>
      rcases h.jump he htaken ha with ha | ⟨slot, rfl⟩
      · rcases ih ha with he | ⟨m, hm, hb⟩ | ⟨m, hm, hb⟩
        · exact .inl he
        · exact .inr (.inl ⟨m, by omega, hb⟩)
        · exact .inr (.inr ⟨m, by omega, hb⟩)
      · exact .inr (.inr ⟨n + 1, le_rfl, _, slot, .jump hw he htaken, rfl⟩)

/-- **No result of an instruction is mentioned in front of the instruction.** -/
theorem not_mentioned (h : Births g Alive Taken Mentioned Stray) {n : Nat} {b : g.Node}
    {index : Nat} (hw : Walk g Alive Taken n b index) (k : Nat) :
    ¬ Mentioned b index (.produced b index k) := by
  intro ha
  -- a shorter way leads to the same point, without end
  induction n using Nat.strong_induction_on with
  | _ n ih =>
      rcases h.born hw ha with ⟨_, h⟩ | ⟨m, hm, b', index', k', hw', heq⟩ | ⟨_, _, _, _, _, h⟩
      · cases h
      · simp only [ValueOrigin.produced.injEq, Fin.val_inj] at heq
        obtain ⟨rfl, rfl, -⟩ := heq
        exact ih m hm hw'
      · cases h

/-- **A label that is born where paths meet is mentioned there in its own slot only.** -/
theorem not_stray (h : Births g Alive Taken Mentioned Stray) {n : Nat} {b : g.Node}
    (hw : Walk g Alive Taken n b 0) (slot : Nat) : ¬ Stray b (.merge b slot) := by
  intro ha
  induction n using Nat.strong_induction_on with
  | _ n ih =>
      cases hw with
      | entry =>
          obtain ⟨_, h⟩ := h.entry_stray ha
          cases h
      | jump hw he htaken =>
          rcases h.born hw (h.jump_stray he htaken ha) with
            ⟨_, h⟩ | ⟨_, _, _, _, _, _, h⟩ | ⟨m, hm, b', slot', hw', heq⟩
          · cases h
          · cases h
          · simp only [ValueOrigin.merge.injEq, Fin.val_inj] at heq
            exact ih m (by omega) (heq.1 ▸ hw')

end Births

end Nullness
