import Mathlib.Tactic
import Nullness.Dataflow
import Nullness.Proofs.ReversePostorder

/-!
# Facts within a block

`FlowAnalysis.within` is the fact some instructions into a block, from the fact at its start. All
that a visit keeps of the block is read off these facts: the fact at the end (`through_result`),
those before instructions that may throw (`mem_throwing`), and the decision (`through_decision`).
-/

namespace Nullness

/-! ### Computations that may fail -/

lemma bind_eq_ok_iff {ε α β : Type} {x : Except ε α} {f : α → Except ε β} {b : β} :
    x >>= f = .ok b ↔ ∃ a, x = .ok a ∧ f a = .ok b := by
  cases x with
  | error e => simp [bind, Except.bind]
  | ok a => simp [bind, Except.bind]

lemma bind_eq_error_iff {ε α β : Type} {x : Except ε α} {f : α → Except ε β} {e : ε} :
    x >>= f = .error e ↔ x = .error e ∨ ∃ a, x = .ok a ∧ f a = .error e := by
  cases x with
  | error e => simp [bind, Except.bind]
  | ok a => simp [bind, Except.bind]

@[simp] lemma pure_eq_ok_iff {ε α : Type} {a b : α} :
    (pure a : Except ε α) = .ok b ↔ a = b := by
  simp [pure, Except.pure]

@[simp] lemma pure_ne_error {ε α : Type} {a : α} {e : ε} :
    (pure a : Except ε α) ≠ .error e := by
  simp [pure, Except.pure]

lemma eq_ok_get {ε α : Type} {x : Except ε α} (h : x.toOption.isSome = true) :
    x = .ok (x.toOption.get h) := by
  cases x with
  | error e => cases h
  | ok a => rfl

/-- A property that every step of a fold keeps holds at its end. -/
lemma foldlM_ok {ε α β : Type} {f : α → β → Except ε α} {P : α → Prop} :
    ∀ {l : List β} {a a' : α}, (∀ b ∈ l, ∀ x x', P x → f x b = .ok x' → P x') → P a →
      l.foldlM f a = .ok a' → P a'
  | [], a, a', _, ha, h => by
      simp only [List.foldlM_nil, pure_eq_ok_iff] at h
      exact h ▸ ha
  | b :: l, a, a', hstep, ha, h => by
      rw [List.foldlM_cons, bind_eq_ok_iff] at h
      obtain ⟨x, hx, hrest⟩ := h
      exact foldlM_ok (fun b' hb' => hstep b' (by simp [hb'])) (hstep b (by simp) a x ha hx) hrest

/-- A fold that succeeds has succeeded at every element. -/
lemma foldlM_mem {ε α β : Type} {f : α → β → Except ε α} :
    ∀ {l : List β} {a a' : α}, l.foldlM f a = .ok a' → ∀ {b}, b ∈ l → ∃ x x', f x b = .ok x'
  | c :: l, a, a', h, b, hb => by
      rw [List.foldlM_cons, bind_eq_ok_iff] at h
      obtain ⟨x, hx, hrest⟩ := h
      rcases List.mem_cons.1 hb with rfl | hb
      · exact ⟨a, x, hx⟩
      · exact foldlM_mem hrest hb

/-- A fold succeeds when every step from a value with some property succeeds and keeps it. -/
lemma foldlM_succeeds {ε α β : Type} {f : α → β → Except ε α} {P : α → Prop} :
    ∀ {l : List β} {a : α}, (∀ b ∈ l, ∀ x, P x → ∃ x', f x b = .ok x' ∧ P x') → P a →
      ∃ a', l.foldlM f a = .ok a' ∧ P a'
  | [], a, _, ha => ⟨a, by simp, ha⟩
  | b :: l, a, hstep, ha => by
      obtain ⟨x, hx, hP⟩ := hstep b (by simp) a ha
      obtain ⟨a', ha', hP'⟩ :=
        foldlM_succeeds (fun b' hb' => hstep b' (List.mem_cons_of_mem b hb')) hP
      exact ⟨a', by rw [List.foldlM_cons, hx]; exact ha', hP'⟩

/-- A fold whose steps all succeed is a plain fold. -/
lemma foldlM_eq_foldl {ε α β : Type} {f : α → β → Except ε α} {step : α → β → α} :
    ∀ {l : List β} {a : α}, (∀ b ∈ l, ∀ x, f x b = .ok (step x b)) →
      l.foldlM f a = .ok (l.foldl step a)
  | [], _, _ => rfl
  | b :: l, a, hstep => by
      rw [List.foldlM_cons, hstep b List.mem_cons_self]
      exact foldlM_eq_foldl fun b' hb' => hstep b' (List.mem_cons_of_mem b hb')

namespace FlowAnalysis

variable {g : FlowGraph} {Fact Decision : Type} (A : FlowAnalysis g Fact Decision)

/-! ### Tables -/

@[simp] lemma get_set_self (t : FactTable g Fact Decision) (b : g.Node)
    (s : BlockFacts Fact Decision) : (t.set b s b.isLt).get b = s :=
  Vector.getElem_set_self b.isLt

lemma get_set_of_ne (t : FactTable g Fact Decision) {b c : g.Node}
    (s : BlockFacts Fact Decision) (h : c ≠ b) : (t.set b s b.isLt).get c = t.get c :=
  Vector.getElem_set_ne b.isLt c.isLt (fun heq => h (Fin.ext heq.symm))

lemma set_get_self (t : FactTable g Fact Decision) (b : g.Node) : t.set b (t.get b) b.isLt = t :=
  Vector.set_getElem_self b.isLt

@[simp] lemma get_initialTable (b : g.Node) :
    A.initialTable.get b = ⟨A.top, A.top, [], none⟩ :=
  Vector.getElem_replicate b.isLt

/-! ### Within a block -/

/-- The fact some instructions into a block, from the fact at its start. -/
def within (b : g.Node) (start : Fact) (index : Nat) : Fact :=
  A.replay b 0 ((g.instructions b).take index) start

lemma factAt_eq_within (s : Solution g Fact Decision) (b : g.Node) (index : Nat) :
    A.factAt s b index = A.within b (s.startFact b) index := rfl

@[simp] lemma within_zero (b : g.Node) (start : Fact) : A.within b start 0 = start := by
  simp [within, replay]

lemma replay_append_singleton (b : g.Node) (i : Instruction) :
    ∀ (index : Nat) (code : List Instruction) (f : Fact),
      A.replay b index (code ++ [i]) f
        = if A.isTop (A.replay b index code f) then A.replay b index code f
          else A.advance b (index + code.length) i (A.replay b index code f)
  | index, [], f => by simp [replay]
  | index, j :: code, f => by
      by_cases hf : A.isTop f
      · simp [replay, hf]
      · simp only [List.cons_append, replay, hf, Bool.false_eq_true, if_false]
        rw [replay_append_singleton b i (index + 1) code]
        simp [Nat.add_assoc, Nat.add_comm 1]

/-- One instruction further into a block. -/
lemma within_succ {b : g.Node} {start : Fact} {index : Nat} {i : Instruction}
    (hi : (g.instructions b)[index]? = some i) :
    A.within b start (index + 1)
      = if A.isTop (A.within b start index) then A.within b start index
        else A.advance b index i (A.within b start index) := by
  have hlt : index < (g.instructions b).length := (List.getElem?_eq_some_iff.1 hi).1
  have htake : (g.instructions b).take (index + 1) = (g.instructions b).take index ++ [i] := by
    rw [List.take_add_one, hi]; rfl
  rw [within, htake, replay_append_singleton]
  simp only [Nat.zero_add, List.length_take, Nat.min_eq_left hlt.le]
  rfl

/-- A step that succeeds from a fact that is not top. -/
lemma within_succ_of_step {b : g.Node} {start f : Fact} {index : Nat} {i : Instruction}
    (hi : (g.instructions b)[index]? = some i) (htop : A.isTop (A.within b start index) = false)
    (hstep : A.step b index i (A.within b start index) = .ok f) :
    A.within b start (index + 1) = f := by
  rw [A.within_succ hi, htop, advance, hstep]; rfl

/-- The facts between the instructions of a block, one by one. -/
lemma getElem?_factsBetween (b : g.Node) :
    ∀ (index : Nat) (code : List Instruction) (f : Fact) (k : Nat), k ≤ code.length →
      (A.factsBetween b index code f)[k]? = some (A.replay b index (code.take k) f)
  | index, [], f, k, hk => by
      obtain rfl : k = 0 := Nat.le_zero.1 hk
      rfl
  | index, i :: code, f, 0, _ => rfl
  | index, i :: code, f, k + 1, hk => by
      have hk' : k ≤ code.length := by simpa using hk
      by_cases hf : A.isTop f
      · have hstill : A.replay b (index + 1) (code.take k) f = f := by
          cases code.take k <;> simp [replay, hf]
        simp only [factsBetween, List.getElem?_cons_succ, hf, if_true, List.take_succ_cons, replay]
        rw [getElem?_factsBetween b (index + 1) code f k hk', hstill]
      · simp only [factsBetween, List.getElem?_cons_succ, hf, Bool.false_eq_true, if_false,
          List.take_succ_cons, replay]
        exact getElem?_factsBetween b (index + 1) code _ k hk'

lemma getElem?_blockFacts (s : Solution g Fact Decision) (b : g.Node) {index : Nat}
    (h : index ≤ (g.instructions b).length) :
    (A.blockFacts s b)[index]? = some (A.factAt s b index) :=
  A.getElem?_factsBetween b 0 _ _ index h

lemma traverse_snd (b : g.Node) :
    ∀ (index : Nat) (code : List Instruction) (f : Fact),
      (A.traverse b index code f).2 = A.replay b index code f
  | index, [], f => rfl
  | index, i :: code, f => by
      by_cases hf : A.isTop f
      · simp [traverse, replay, hf]
      · simp only [traverse, replay, hf, Bool.false_eq_true, if_false]
        exact traverse_snd b (index + 1) code _

/-- The instructions reached are those before which the fact is not top, each with that fact. -/
lemma getElem?_traverse (b : g.Node) {x : Instruction × Fact} :
    ∀ (index : Nat) (code : List Instruction) (f : Fact) (k : Nat),
      (A.traverse b index code f).1[k]? = some x
        ↔ code[k]? = some x.1 ∧ x.2 = A.replay b index (code.take k) f ∧ A.isTop x.2 = false
  | index, [], f, k => by simp [traverse]
  | index, i :: code, f, k => by
      by_cases hf : A.isTop f = true
      · simp only [traverse, hf, if_true, List.getElem?_nil, reduceCtorEq, false_iff]
        rintro ⟨-, h, htop⟩
        cases k with
        | zero => simp [replay] at h; simp [h, hf] at htop
        | succ k => simp [replay, hf] at h; simp [h, hf] at htop
      · cases k with
        | zero =>
            simp only [traverse, hf, Bool.false_eq_true, if_false, List.getElem?_cons_zero,
              List.take_zero, replay, Option.some.injEq]
            constructor
            · rintro rfl; simpa using hf
            · rintro ⟨h1, h2, -⟩; exact Prod.ext h1 h2.symm
        | succ k =>
            simp only [traverse, hf, Bool.false_eq_true, if_false, List.getElem?_cons_succ,
              List.take_succ_cons, replay]
            exact getElem?_traverse b (index + 1) code _ k

lemma through_start (b : g.Node) (start : Fact) : (A.through b start).start = start := rfl

/-- A visit keeps the fact after the last instruction. -/
lemma through_result (b : g.Node) (start : Fact) :
    (A.through b start).result = A.within b start (g.instructions b).length := by
  rw [within, List.take_length]
  exact A.traverse_snd b 0 _ _

/-- A visit keeps the facts before the instructions that may throw. -/
lemma mem_throwing {b : g.Node} {start f : Fact} :
    f ∈ (A.through b start).throwing ↔ ∃ index i, (g.instructions b)[index]? = some i ∧
      i.op.mayThrow = true ∧ f = A.within b start index ∧ A.isTop f = false := by
  have hreached : ∀ i, (i, f) ∈ (A.traverse b 0 (g.instructions b) start).1 ↔
      ∃ index, (g.instructions b)[index]? = some i ∧ f = A.within b start index ∧
        A.isTop f = false := by
    intro i
    rw [List.mem_iff_getElem?]
    exact exists_congr fun index => A.getElem?_traverse b 0 _ _ index
  constructor
  · intro hf
    obtain ⟨⟨i, f'⟩, hmem, rfl⟩ := List.mem_map.1 hf
    obtain ⟨hmem, hthrow⟩ := List.mem_filter.1 hmem
    obtain ⟨index, hi, hfact, htop⟩ := (hreached i).1 hmem
    exact ⟨index, i, hi, hthrow, hfact, htop⟩
  · rintro ⟨index, i, hi, hthrow, hfact, htop⟩
    have hmem := (hreached i).2 ⟨index, hi, hfact, htop⟩
    exact List.mem_map.2 ⟨(i, f), List.mem_filter.2 ⟨hmem, hthrow⟩, rfl⟩

/-- Past the last instruction nothing changes. -/
lemma within_of_length_le {b : g.Node} {start : Fact} {index : Nat}
    (h : (g.instructions b).length ≤ index) :
    A.within b start index = A.within b start (g.instructions b).length := by
  rw [within, within, List.take_of_length_le h, List.take_length]

/-- A top fact is the fact at all later points of its block. -/
lemma within_eq_of_isTop {b : g.Node} {start : Fact} {index : Nat}
    (htop : A.isTop (A.within b start index) = true) {later : Nat} (hle : index ≤ later) :
    A.within b start later = A.within b start index := by
  induction later, hle using Nat.le_induction with
  | base => rfl
  | succ later _ ih =>
      cases hi : (g.instructions b)[later]? with
      | none =>
          have hlen : (g.instructions b).length ≤ later := List.getElem?_eq_none_iff.1 hi
          rw [← ih, A.within_of_length_le hlen, A.within_of_length_le (hlen.trans (Nat.le_succ later))]
      | some i => rw [A.within_succ hi, ih, if_pos htop]

/-- Once the fact is top it stays so to the end of the block. -/
lemma within_isTop_mono {b : g.Node} {start : Fact} {index : Nat}
    (h : A.isTop (A.within b start index) = true) {later : Nat} (hle : index ≤ later) :
    A.isTop (A.within b start later) = true := by
  rw [A.within_eq_of_isTop h hle]
  exact h

/-- In a block that control is seen to run through every instruction is reached. -/
lemma traverse_eq_ofFn {b : g.Node} {start : Fact}
    (htop : A.isTop (A.within b start (g.instructions b).length) = false) :
    (A.traverse b 0 (g.instructions b) start).1
      = List.ofFn fun k : Fin (g.instructions b).length =>
          ((g.instructions b)[k], A.within b start k) := by
  apply List.ext_getElem?
  intro k
  apply Option.ext
  rintro ⟨i, f⟩
  rw [A.getElem?_traverse, List.getElem?_ofFn]
  constructor
  · rintro ⟨hi, hf, -⟩
    obtain ⟨hlt, rfl⟩ := List.getElem?_eq_some_iff.1 hi
    simp only [hlt, dif_pos, Option.some.injEq, Prod.mk.injEq]
    exact ⟨rfl, hf.symm⟩
  · intro h
    obtain ⟨hlt, heq⟩ : ∃ h : k < (g.instructions b).length,
        ((g.instructions b)[k], A.within b start k) = (i, f) := by
      by_cases hlt : k < (g.instructions b).length
      · exact ⟨hlt, by simpa [hlt] using h⟩
      · simp [hlt] at h
    obtain ⟨rfl, rfl⟩ := Prod.mk.inj heq
    refine ⟨List.getElem?_eq_getElem hlt, rfl, ?_⟩
    by_contra hne
    have hend := A.within_isTop_mono (by simpa using hne) hlt.le
    rw [hend] at htop
    cases htop

/-- A visit keeps the decision at the end of a block that control is seen to run through. -/
lemma through_decision {b : g.Node} {start : Fact} {last : Nat}
    (hlen : (g.instructions b).length = last + 1)
    (htop : A.isTop (A.through b start).result = false) :
    (A.through b start).decision
      = A.decide b (A.within b start last)
          (if last = 0 then none else some (A.within b start (last - 1))) := by
  have hreached := A.traverse_eq_ofFn (A.through_result b start ▸ htop)
  have hdecision : (A.through b start).decision
      = A.decisionAfter b (A.traverse b 0 (g.instructions b) start).1.reverse := by
    have hres : A.isTop (A.traverse b 0 (g.instructions b) start).2 = false := htop
    simp [through, hres]
  rw [hdecision, hreached]
  -- the two last instructions, seen from the end
  have hget : ∀ k, k ≤ last → (List.ofFn fun k : Fin (g.instructions b).length =>
      ((g.instructions b)[k], A.within b start k)).reverse[k]?
        = some ((g.instructions b)[last - k], A.within b start (last - k)) := by
    intro k hk
    rw [List.getElem?_reverse (by simp; omega), List.getElem?_ofFn]
    have hidx : (g.instructions b).length - 1 - k = last - k := by omega
    simp [hidx, show last - k < (g.instructions b).length by omega]
  set reached := (List.ofFn fun k : Fin (g.instructions b).length =>
    ((g.instructions b)[k], A.within b start k)).reverse with hr
  have hcount : reached.length = last + 1 := by simp [hr, hlen]
  cases hcons : reached with
  | nil => simp [hcons] at hcount
  | cons x before =>
      have hx : x = ((g.instructions b)[last], A.within b start last) := by
        simpa [hcons] using hget 0 (Nat.zero_le last)
      rw [decisionAfter, hx]
      by_cases hlast : last = 0
      · have hbefore : before = [] := by
          simpa [hcons, hlast] using hcount
        simp [hbefore, hlast]
      · have hhead : before.head? = some ((g.instructions b)[last - 1],
            A.within b start (last - 1)) := by
          simpa [hcons, List.head?_eq_getElem?] using hget 1 (by omega)
        simp [hhead, hlast]

end FlowAnalysis

end Nullness
