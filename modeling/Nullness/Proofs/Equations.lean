import Mathlib.Tactic
import Nullness.Proofs.Ascent

/-!
# The dataflow equations

Every block has an equation: the fact at its start is what the facts at the starts of all blocks make
arrive there. An iteration changes its table in place, so it reads facts of two passes at a time; once
a pass has changed nothing, the table satisfies the equations all the same.

* `FlowAnalysis.Solves`: facts at the starts of all blocks that satisfy every equation;
* `FlowAnalysis.solve_unreached`: of a block that the entry does not lead to nothing is ever known;
* `FlowAnalysis.solution_equations`: **the table that an iteration settles on satisfies the equation of
  every block that the entry leads to, and knows nothing of the others.**
-/

namespace Nullness

namespace FlowAnalysis

variable {g : FlowGraph} {Fact Decision : Type} {A : FlowAnalysis g Fact Decision}

/-! ### Facts at the starts of blocks -/

/-- The facts at the starts of all blocks. -/
def starts (t : FactTable g Fact Decision) (b : g.Node) : Fact := (t.get b).start

/-- The table that follows from facts at the starts of all blocks. -/
def tableOf (A : FlowAnalysis g Fact Decision) (σ : g.Node → Fact) : FactTable g Fact Decision :=
  Vector.ofFn fun b => A.through b (σ b)

/-- Facts at the starts of all blocks satisfy the equation of every block. -/
def Solves (A : FlowAnalysis g Fact Decision) (σ : g.Node → Fact) : Prop :=
  ∀ b, A.startOf (A.tableOf σ) b = .ok (σ b)

lemma get_tableOf (σ : g.Node → Fact) (b : g.Node) : (A.tableOf σ).get b = A.through b (σ b) :=
  Vector.getElem_ofFn b.isLt

@[simp] lemma starts_tableOf (σ : g.Node → Fact) : starts (A.tableOf σ) = σ := by
  funext b
  rw [starts, get_tableOf, through_start]

lemma consistent_tableOf (σ : g.Node → Fact) : A.Consistent (A.tableOf σ) := by
  intro b
  rw [get_tableOf, through_start]

/-! ### Blocks that the entry does not lead to -/

variable [DecidableEq Fact] {s : Solution g Fact Decision}

lemma iterate_unreached {b : g.Node} (hb : ¬ g.Reachable b) :
    ∀ {remaining : Nat} {t : FactTable g Fact Decision},
      A.iterate remaining t = .ok s → s.table.get b = t.get b
  | 0, t, h => by simp [iterate] at h
  | remaining + 1, t, h => by
      rw [iterate, bind_eq_ok_iff] at h
      obtain ⟨⟨t', changed⟩, hpass, hrest⟩ := h
      have hkept : t'.get b = t.get b :=
        visitAll_get_of_notMem hpass (mt FlowGraph.mem_reversePostorder.1 hb)
      cases changed with
      | true => exact (iterate_unreached hb hrest).trans hkept
      | false =>
          simp only [Bool.false_eq_true, if_false, pure_eq_ok_iff] at hrest
          subst hrest
          exact hkept

/-- **Of a block that the entry does not lead to nothing is ever known.** -/
theorem solve_unreached (h : A.solve = .ok s) {b : g.Node} (hb : ¬ g.Reachable b) :
    s.table.get b = ⟨A.top, A.top, [], none⟩ := by
  rw [iterate_unreached hb h, get_initialTable]

/-! ### Solutions -/

/-- **The table that an iteration settles on satisfies the dataflow equations.** The start of a block
that the entry leads to is what the table makes arrive there, and all else that the table has of the
block follows from it. Of any other block the table knows nothing. -/
theorem solution_equations (htop : A.isTop A.top = true) (h : A.solve = .ok s) :
    (∀ b, g.Reachable b → A.startOf s.table b = .ok (s.table.get b).start ∧
        s.table.get b = A.through b (s.table.get b).start) ∧
      ∀ b, ¬ g.Reachable b → s.table.get b = ⟨A.top, A.top, [], none⟩ := by
  have hcons := solve_consistent htop h
  exact ⟨fun b hb => ⟨solve_solves htop h hb, hcons b⟩, fun b hb => solve_unreached h hb⟩

/-- How many variables have been loaded on the way to a point, and one more; four stands for any
larger number, and zero for a point that is not reached. A block that ends by comparing an integer
always branches. -/
def loadCount (g : FlowGraph) : FlowAnalysis g (Fin 5) Unit where
  top := 0
  isTop f := f = 0
  entry := 1
  height := 4
  step _ _ i f :=
    match i.op with
    | .load _ => .ok (if f = 4 then 4 else f + 1)
    | .throw => .error (.frame .stackUnderflow)
    | _ => .ok f
  decide b _ _ := if lastOp? (g.instructions b) = some .ifEq then some () else none
  refine e _ f := if e.kind = .branch then f else 0
  enterHandler _ f := .ok f
  join _ f f' := .ok (max f f')

/-- A loop that loads a variable, with a handler, a side that is never taken and a block to which no
edge leads. -/
def loadingLoop : FlowGraph where
  size := 6
  entry := 0
  exit := 3
  code := ⟨#[[⟨0, .load 0⟩], [⟨1, .arrayLength⟩, ⟨2, .load 0⟩, ⟨3, .ifEq⟩], [⟨4, .return⟩], [],
    [⟨5, .load 0⟩], [⟨6, .throw⟩]], rfl⟩
  edges := [⟨0, 1, .fallThrough⟩, ⟨1, 1, .branch⟩, ⟨1, 2, .fallThrough⟩, ⟨1, 5, .handledException⟩,
    ⟨2, 3, .fallThrough⟩, ⟨4, 2, .fallThrough⟩, ⟨5, 3, .unhandledException⟩]
  exit_final := by decide

/-- The loop is entered with any number of loads, its handler too, and the side that is never taken
stays top. -/
theorem solution_equations_loadCount : ∃ s, (loadCount loadingLoop).solve = .ok s ∧
    loadingLoop.nodes.map (starts s.table) = [1, 4, 0, 4, 0, 4] ∧
    (∀ b, loadingLoop.Reachable b →
        (loadCount loadingLoop).startOf s.table b = .ok (s.table.get b).start ∧
        s.table.get b = (loadCount loadingLoop).through b (s.table.get b).start) ∧
      ∀ b, ¬ loadingLoop.Reachable b → s.table.get b = ⟨0, 0, [], none⟩ := by
  have hsolve : (loadCount loadingLoop).solve
      = .ok ((loadCount loadingLoop).solve.toOption.get (by decide +kernel)) := eq_ok_get _
  exact ⟨_, hsolve, by decide +kernel, solution_equations rfl hsolve⟩

end FlowAnalysis

end Nullness
