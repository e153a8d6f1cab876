import Mathlib.Data.Fintype.Card
import Mathlib.Tactic
import Nullness.Proofs.Machine

/-!
# Depths of the operand stack

How deep the stack is where a path of edges leads, as far as the instructions alone tell: normal edges
keep the depth at the end of their source, and exception edges leave one cell.

* `FlowGraph.Arrives`: the depths that paths bring to a point;
* `FlowGraph.arrives_early`: if paths with few edges bring one depth to each block, all paths do;
* `FlowGraph.StackConsistent`: one depth for every block but the exit, as a verifier assigns it, which
  can be decided by running every block.
-/

namespace Nullness

namespace FlowGraph

variable [DescriptorReader]

/-! ### Paths -/

/-- A path of `n` edges brings control to a point with so many cells on the stack. -/
inductive Arrives (g : FlowGraph) (numLocals : Nat) : Nat → g.Node → Nat → Nat → Prop
  | entry : Arrives g numLocals 0 g.entry 0 0
  | step {n : Nat} {b : g.Node} {index depth : Nat} {i : Instruction} {effect : StackEffect} :
      Arrives g numLocals n b index depth → (g.instructions b)[index]? = some i →
      i.op.Fits numLocals depth effect →
      Arrives g numLocals n b (index + 1) (depth - effect.pops + effect.pushes)
  | jump {n : Nat} {e : g.Arc} {depth : Nat} :
      Arrives g numLocals n e.source (g.instructions e.source).length depth → e ∈ g.edges →
      e.kind.isException = false → Arrives g numLocals (n + 1) e.target 0 depth
  | throw {n : Nat} {e : g.Arc} {depth : Nat} :
      Arrives g numLocals n e.source 0 depth → e ∈ g.edges → e.kind.isException = true →
      Arrives g numLocals (n + 1) e.target 0 1

/-- All paths to a block bring one depth there. -/
def DepthsAgree (g : FlowGraph) (numLocals : Nat) : Prop :=
  ∀ n n' b depth depth', g.Arrives numLocals n b 0 depth → g.Arrives numLocals n' b 0 depth' →
    depth = depth'

variable {g : FlowGraph} {numLocals n : Nat} {b : g.Node} {index depth : Nat}

/-- A path to a point of a block is a path to its start. -/
lemma Arrives.start (h : g.Arrives numLocals n b index depth) :
    ∃ depth', g.Arrives numLocals n b 0 depth' := by
  induction h with
  | entry => exact ⟨0, .entry⟩
  | step _ _ _ ih => exact ih
  | jump h he hkind _ => exact ⟨_, .jump h he hkind⟩
  | throw h he hkind _ => exact ⟨_, .throw h he hkind⟩

lemma Arrives.reachable (h : g.Arrives numLocals n b index depth) : g.Reachable b := by
  induction h with
  | entry => exact .entry
  | step _ _ _ ih => exact ih
  | jump _ he _ ih | throw _ he _ ih => exact .step ih he

/-- What is in front of a point has run from the start of the block. -/
lemma Arrives.of_succ (h : g.Arrives numLocals n b (index + 1) depth) :
    ∃ i effect depth', (g.instructions b)[index]? = some i ∧ i.op.Fits numLocals depth' effect ∧
      g.Arrives numLocals n b index depth' ∧ depth = depth' - effect.pops + effect.pushes := by
  cases h with
  | step h hi hfits => exact ⟨_, _, _, hi, hfits, h, rfl⟩

/-! ### Short paths -/

/-- A path of at most so many edges leads to a block. -/
def Early (g : FlowGraph) (numLocals n : Nat) (b : g.Node) : Prop :=
  ∃ m ≤ n, ∃ depth, g.Arrives numLocals m b 0 depth

/-- Each block is entered early, or never. -/
lemma exists_saturated (g : FlowGraph) (numLocals : Nat) :
    ∃ n < g.size, ∀ b, g.Early numLocals (n + 1) b → g.Early numLocals n b := by
  classical
  by_contra hnone
  push Not at hnone
  -- otherwise every edge more leads to a block more
  have hcard : ∀ n ≤ g.size, n + 1 ≤ (Finset.univ.filter (g.Early numLocals n)).card := by
    intro n
    induction n with
    | zero =>
        intro _
        refine Finset.card_pos.2 ⟨g.entry, ?_⟩
        simp only [Finset.mem_filter, Finset.mem_univ, true_and]
        exact ⟨0, le_rfl, 0, .entry⟩
    | succ n ih =>
        intro hn
        obtain ⟨b, hb, hnot⟩ := hnone n (by omega)
        refine (Nat.succ_le_succ (ih (by omega))).trans (Finset.card_lt_card ?_)
        refine (Finset.ssubset_iff_of_subset fun c hc => ?_).2 ⟨b, ?_, ?_⟩
        · simp only [Finset.mem_filter, Finset.mem_univ, true_and] at hc ⊢
          obtain ⟨m, hm, hc⟩ := hc
          exact ⟨m, by omega, hc⟩
        · simpa using hb
        · simpa using hnot
  have hall := (hcard g.size le_rfl).trans (Finset.card_le_univ _)
  rw [Fintype.card_fin] at hall
  omega

/-- If paths with few edges bring one depth to each block, then so do all paths, and all depths come
by paths that visit no block twice. -/
lemma arrives_early (hagree : ∀ n n' b depth depth', n ≤ g.size → n' ≤ g.size →
      g.Arrives numLocals n b 0 depth → g.Arrives numLocals n' b 0 depth' → depth = depth')
    (h : g.Arrives numLocals n b index depth) :
    ∃ m < g.size, g.Arrives numLocals m b index depth := by
  obtain ⟨last, hlast, hsaturated⟩ := exists_saturated g numLocals
  -- a path that is one edge longer brings the depth that a shorter one has brought
  have hshorten : ∀ {m c d}, m ≤ last → g.Arrives numLocals (m + 1) c 0 d →
      ∃ m ≤ last, g.Arrives numLocals m c 0 d := by
    intro m c d hm hd
    obtain ⟨m', hm', d', hd'⟩ := hsaturated c ⟨m + 1, by omega, d, hd⟩
    obtain rfl := hagree _ _ c d d' (by omega) (by omega) hd hd'
    exact ⟨m', hm', hd'⟩
  suffices ∃ m ≤ last, g.Arrives numLocals m b index depth by
    obtain ⟨m, hm, h⟩ := this
    exact ⟨m, by omega, h⟩
  induction h with
  | entry => exact ⟨0, Nat.zero_le _, .entry⟩
  | step _ hi hfits ih =>
      obtain ⟨m, hm, h⟩ := ih
      exact ⟨m, hm, .step h hi hfits⟩
  | jump _ he hkind ih =>
      obtain ⟨m, hm, h⟩ := ih
      exact hshorten hm (.jump h he hkind)
  | throw _ he hkind ih =>
      obtain ⟨m, hm, h⟩ := ih
      exact hshorten hm (.throw h he hkind)

/-- Where paths disagree, short paths do. -/
lemma disagree_early (h : ¬ g.DepthsAgree numLocals) : ∃ n n' b depth depth', n ≤ g.size ∧
    n' ≤ g.size ∧ g.Arrives numLocals n b 0 depth ∧ g.Arrives numLocals n' b 0 depth' ∧
    depth ≠ depth' := by
  by_contra hnone
  push Not at hnone
  refine h fun n n' b depth depth' hb hb' => ?_
  obtain ⟨m, hm, hb⟩ := arrives_early (fun n n' b d d' hn hn' h h' => hnone n n' b d d' hn hn' h h') hb
  obtain ⟨m', hm', hb'⟩ :=
    arrives_early (fun n n' b d d' hn hn' h h' => hnone n n' b d d' hn hn' h h') hb'
  exact hnone m m' b depth depth' hm.le hm'.le hb hb'

/-! ### Consistent methods -/

/-- Every instruction runs from some depth on, within the local variables and the stack of the
method, and ends at another depth. -/
inductive Runs (numLocals maxStack : Nat) : List Opcode → Nat → Nat → Prop
  | nil (depth : Nat) : Runs numLocals maxStack [] depth depth
  | cons {op : Opcode} {ops : List Opcode} {effect : StackEffect} {depth depth' : Nat} :
      op.Fits numLocals depth effect → depth - effect.pops + effect.pushes ≤ maxStack →
      Runs numLocals maxStack ops (depth - effect.pops + effect.pushes) depth' →
      Runs numLocals maxStack (op :: ops) depth depth'

/-- A method has a depth for every block but the exit: from there its instructions run, normal edges
keep the depth that they leave, and a handler starts with the exception. -/
structure StackConsistent (g : FlowGraph) (numLocals maxStack : Nat) (depth : g.Node → Nat) :
    Prop where
  entry : depth g.entry = 0
  runs : ∀ b ≠ g.exit, ∃ depth', Runs numLocals maxStack (g.ops b) (depth b) depth'
  normal : ∀ e ∈ g.edges, e.kind.isException = false → e.target ≠ g.exit →
    Runs numLocals maxStack (g.ops e.source) (depth e.source) (depth e.target)
  handled : ∀ e ∈ g.edges, e.kind = .handledException → e.target ≠ g.exit →
    depth e.target = 1 ∧ 1 ≤ maxStack

variable {maxStack depth' : Nat} {ops ops' : List Opcode} {op : Opcode}

lemma Runs.unique (h : Runs numLocals maxStack ops n depth)
    (h' : Runs numLocals maxStack ops n depth') : depth = depth' := by
  induction h with
  | nil => cases h'; rfl
  | cons hfits _ _ ih =>
      cases h' with
      | cons hfits' _ hrest =>
          obtain rfl := Except.ok.inj (hfits.effect_eq.symm.trans hfits'.effect_eq)
          exact ih hrest

/-- The depth after instructions that run. -/
def depthAfter? (numLocals maxStack : Nat) : List Opcode → Nat → Option Nat
  | [], depth => some depth
  | op :: ops, depth =>
    match op.effect with
    | .error _ => none
    | .ok effect =>
      if effect.pops ≤ depth ∧ (∀ slot ∈ op.slot?, slot < numLocals) ∧
          depth - effect.pops + effect.pushes ≤ maxStack then
        depthAfter? numLocals maxStack ops (depth - effect.pops + effect.pushes)
      else none

lemma runs_iff : Runs numLocals maxStack ops n depth ↔
    depthAfter? numLocals maxStack ops n = some depth := by
  constructor
  · intro h
    induction h with
    | nil => rfl
    | cons hfits hroom _ ih =>
        rw [depthAfter?, hfits.effect_eq]
        exact (if_pos ⟨hfits.pops_le, hfits.slot_lt, hroom⟩).trans ih
  · intro h
    induction ops generalizing n with
    | nil =>
        obtain rfl := Option.some.inj h
        exact .nil n
    | cons op ops ih =>
        rw [depthAfter?] at h
        split at h
        · cases h
        · rename_i effect heffect
          split at h
          · rename_i hfits
            obtain ⟨hpops, hslot, hroom⟩ := hfits
            exact .cons ⟨heffect, hpops, hslot⟩ hroom (ih h)
          · cases h

instance : Decidable (Runs numLocals maxStack ops n depth) := decidable_of_iff _ runs_iff.symm

/-- Whether a method is consistent can be computed. -/
instance {depthOf : g.Node → Nat} : Decidable (g.StackConsistent numLocals maxStack depthOf) :=
  decidable_of_iff (depthOf g.entry = 0 ∧
    (∀ b ≠ g.exit, (depthAfter? numLocals maxStack (g.ops b) (depthOf b)).isSome) ∧
    (∀ e ∈ g.edges, e.kind.isException = false → e.target ≠ g.exit →
      Runs numLocals maxStack (g.ops e.source) (depthOf e.source) (depthOf e.target)) ∧
    ∀ e ∈ g.edges, e.kind = .handledException → e.target ≠ g.exit →
      depthOf e.target = 1 ∧ 1 ≤ maxStack)
    ⟨fun ⟨hentry, hruns, hnormal, hhandled⟩ => ⟨hentry, fun b hb =>
        (Option.isSome_iff_exists.1 (hruns b hb)).imp fun _ => runs_iff.2, hnormal, hhandled⟩,
      fun h => ⟨h.entry, fun b hb =>
        Option.isSome_iff_exists.2 ((h.runs b hb).imp fun _ => runs_iff.1), h.normal, h.handled⟩⟩

lemma Runs.append (h : Runs numLocals maxStack ops n depth)
    (h' : Runs numLocals maxStack ops' depth depth') :
    Runs numLocals maxStack (ops ++ ops') n depth' := by
  induction h with
  | nil => exact h'
  | cons hfits hroom _ ih => exact .cons hfits hroom (ih h')

lemma Runs.of_append (h : Runs numLocals maxStack (ops ++ ops') n depth') :
    ∃ depth, Runs numLocals maxStack ops n depth ∧ Runs numLocals maxStack ops' depth depth' := by
  induction ops generalizing n with
  | nil => exact ⟨n, .nil n, h⟩
  | cons op ops ih =>
      cases h with
      | cons hfits hroom hrest =>
          obtain ⟨depth, hfirst, hlater⟩ := ih hrest
          exact ⟨depth, .cons hfits hroom hfirst, hlater⟩

/-- **In a consistent method, every path brings a block its depth**, the exit apart, if exceptions that
leave the method lead to the exit. -/
theorem StackConsistent.runs_to {depthOf : g.Node → Nat}
    (hc : g.StackConsistent numLocals maxStack depthOf)
    (hunhandled : ∀ e ∈ g.edges, e.kind = .unhandledException → e.target = g.exit)
    (h : g.Arrives numLocals n b index depth) (hb : b ≠ g.exit) :
    Runs numLocals maxStack ((g.ops b).take index) (depthOf b) depth := by
  induction h with
  | entry =>
      rw [List.take_zero, hc.entry]
      exact .nil 0
  | @step n b index depth i effect _ hi hfits ih =>
      obtain ⟨last, hall⟩ := hc.runs b hb
      have hop : (g.ops b)[index]? = some i.op := by simp [ops, hi]
      obtain ⟨hlt, heq⟩ := List.getElem?_eq_some_iff.1 hop
      rw [← List.take_append_drop index (g.ops b), ← List.cons_getElem_drop_succ (h := hlt), heq] at hall
      obtain ⟨depth', hfirst, hlater⟩ := hall.of_append
      obtain rfl := hfirst.unique (ih hb)
      cases hlater with
      | cons hfits' hroom _ =>
          obtain rfl := Except.ok.inj (hfits.effect_eq.symm.trans hfits'.effect_eq)
          rw [List.take_add_one, hop]
          exact (ih hb).append (.cons hfits hroom (.nil _))
  | @jump n e depth _ he hkind ih =>
      have hrun := ih (g.exit_final e he)
      rw [List.take_of_length_le (by simp [ops])] at hrun
      rw [List.take_zero, hrun.unique (hc.normal e he hkind hb)]
      exact .nil _
  | @throw n e depth _ he hkind _ =>
      have hhandled : e.kind = .handledException := by
        cases hk : e.kind with
        | handledException => rfl
        | unhandledException => exact absurd (hunhandled e he hk) hb
        | fallThrough | branch => simp [hk, EdgeKind.isException] at hkind
      rw [List.take_zero, (hc.handled e he hhandled hb).1]
      exact .nil 1

end FlowGraph

end Nullness
