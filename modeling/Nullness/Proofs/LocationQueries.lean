import Mathlib.Tactic
import Nullness.Proofs.Equations

/-!
# Facts between instructions

A block is walked through three times: by the iteration, which keeps the fact at its end, by a query
for one point, which stops there, and by the listing of all its facts. All three go on from a fact that
is not top by the effect of the instruction, or to top if the instruction cannot be followed, and none
leaves a top fact.

* `FlowAnalysis.within_of_error`: behind an instruction that fails there is the top fact to the end of
  its block;
* `FlowAnalysis.location_queries`: **what is listed, what is asked for and what the iteration has kept
  agree at every point of every block.**
-/

namespace Nullness

namespace FlowAnalysis

variable {g : FlowGraph} {Fact Decision : Type} {A : FlowAnalysis g Fact Decision} {b : g.Node}
  {start : Fact} {index later : Nat}

/-! ### Listed facts -/

lemma length_factsBetween (code : List Instruction) (f : Fact) :
    (A.factsBetween b index code f).length = code.length + 1 := by
  induction code generalizing index f with
  | nil => rfl
  | cons i code ih => rw [factsBetween, List.length_cons, ih, List.length_cons]

lemma length_blockFacts (s : Solution g Fact Decision) (b : g.Node) :
    (A.blockFacts s b).length = (g.instructions b).length + 1 :=
  length_factsBetween _ _

/-! ### To the end of a block -/

/-- Behind an instruction that cannot be followed there is the top fact. -/
lemma within_of_error (htop : A.isTop A.top = true) {i : Instruction} {e : Error}
    (hi : (g.instructions b)[index]? = some i) (hlive : A.isTop (A.within b start index) = false)
    (hstep : A.step b index i (A.within b start index) = .error e) (hlt : index < later) :
    A.within b start later = A.top := by
  have hnext : A.within b start (index + 1) = A.top := by
    rw [A.within_succ hi, hlive, if_neg Bool.false_ne_true, advance, hstep]
  rw [A.within_eq_of_isTop (hnext ▸ htop) hlt, hnext]

variable [DecidableEq Fact] {s : Solution g Fact Decision}

/-- The fact that the iteration has kept for the end of a block is the one at the end of its
instructions, also if control is never seen to arrive there. -/
lemma resultFact_eq_factAt (htop : A.isTop A.top = true) (h : A.solve = .ok s) (b : g.Node) :
    s.resultFact b = A.factAt s b (g.instructions b).length :=
  (solve_consistent htop h).result b

/-- **All queries for the facts of a block agree.** The listing of a block has one fact more than the
block has instructions. It lists the fact that is found at each point, in front of an instruction or
behind it, and ends with the fact that the iteration has kept, which is also found at any point past
the end. From a top fact on the listing has that fact alone, and behind an instruction that cannot be
followed there is the top fact up to the end. -/
theorem location_queries (htop : A.isTop A.top = true) (h : A.solve = .ok s) (b : g.Node) :
    (A.blockFacts s b).length = (g.instructions b).length + 1 ∧
    (∀ index ≤ (g.instructions b).length,
      (A.blockFacts s b)[index]? = some (A.factAt s b index)) ∧
    (∀ index < (g.instructions b).length,
      (A.blockFacts s b)[index + 1]? = some (A.factAfter s b index)) ∧
    (A.blockFacts s b).getLast? = some (s.resultFact b) ∧
    (∀ index : Nat, (g.instructions b).length ≤ index → A.factAt s b index = s.resultFact b) ∧
    (∀ index : Nat, (g.instructions b).length ≤ index + 1 →
      A.factAfter s b index = s.resultFact b) ∧
    (∀ (index later : Nat) (f f' : Fact), index ≤ later → (A.blockFacts s b)[index]? = some f →
      A.isTop f = true → (A.blockFacts s b)[later]? = some f' → f' = f) ∧
    ∀ (index : Nat) (i : Instruction) (f : Fact) (e : Error),
      (g.instructions b)[index]? = some i → (A.blockFacts s b)[index]? = some f →
      A.isTop f = false → A.step b index i f = .error e →
      s.resultFact b = A.top ∧ ∀ later, index < later → A.factAt s b later = A.top ∧
        (later ≤ (g.instructions b).length → (A.blockFacts s b)[later]? = some A.top) := by
  have hlength := length_blockFacts (A := A) s b
  have hlisted : ∀ {index : Nat} {f : Fact}, (A.blockFacts s b)[index]? = some f →
      f = A.factAt s b index := by
    intro index f hf
    have hlt : index < (A.blockFacts s b).length := (List.getElem?_eq_some_iff.1 hf).1
    rw [A.getElem?_blockFacts s b (by omega)] at hf
    exact (Option.some.inj hf).symm
  have hpast : ∀ index : Nat, (g.instructions b).length ≤ index →
      A.factAt s b index = s.resultFact b := by
    intro index hindex
    rw [resultFact_eq_factAt htop h]
    exact A.within_of_length_le hindex
  refine ⟨hlength, fun index hindex => A.getElem?_blockFacts s b hindex,
    fun index hindex => A.getElem?_blockFacts s b hindex, ?_, hpast,
    fun index hindex => hpast (index + 1) hindex, ?_, ?_⟩
  · rw [List.getLast?_eq_getElem?, hlength, Nat.add_sub_cancel, A.getElem?_blockFacts s b le_rfl,
      resultFact_eq_factAt htop h]
  · intro index later f f' hle hf htopf hf'
    obtain rfl := hlisted hf
    obtain rfl := hlisted hf'
    exact A.within_eq_of_isTop htopf hle
  · intro index i f e hi hf hlive hstep
    obtain rfl := hlisted hf
    have hlater : ∀ later, index < later → A.factAt s b later = A.top :=
      fun later hlt => within_of_error htop hi hlive hstep hlt
    have hlt : index < (g.instructions b).length := (List.getElem?_eq_some_iff.1 hi).1
    refine ⟨?_, fun later hlt => ⟨hlater later hlt, fun hle => ?_⟩⟩
    · rw [resultFact_eq_factAt htop h, hlater _ hlt]
    · rw [A.getElem?_blockFacts s b hle, hlater later hlt]

/-- The handler of the loop fails at once, and no edge leads to the block in front of the exit. -/
theorem location_queries_loadCount : ∃ s, (loadCount loadingLoop).solve = .ok s ∧
    (loadCount loadingLoop).blockFacts s ⟨5, by decide⟩ = [4, 0] ∧ s.resultFact ⟨5, by decide⟩ = 0 ∧
    (∀ later, 0 < later → (loadCount loadingLoop).factAt s ⟨5, by decide⟩ later = 0) ∧
    (loadCount loadingLoop).blockFacts s ⟨4, by decide⟩ = [0, 0] ∧
    s.resultFact ⟨4, by decide⟩ = 0 := by
  have hsolve : (loadCount loadingLoop).solve
      = .ok ((loadCount loadingLoop).solve.toOption.get (by decide +kernel)) := eq_ok_get _
  obtain ⟨-, -, -, -, -, -, -, hfails⟩ := location_queries rfl hsolve ⟨5, by decide⟩
  obtain ⟨hresult, hlater⟩ := hfails 0 ⟨6, .throw⟩ 4 (.frame .stackUnderflow) rfl
    (by decide +kernel) rfl rfl
  obtain ⟨-, -, -, hlast, -⟩ := location_queries rfl hsolve ⟨4, by decide⟩
  exact ⟨_, hsolve, by decide +kernel, hresult, fun later hlt => (hlater later hlt).1,
    by decide +kernel, Option.some.inj (hlast.symm.trans (by decide +kernel))⟩

end FlowAnalysis

end Nullness
