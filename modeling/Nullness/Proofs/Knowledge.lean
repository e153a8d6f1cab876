import Mathlib.Tactic
import Nullness.Proofs.Execution
import Nullness.Proofs.NullFacts
import Nullness.Proofs.ValueNumbering

/-!
# What nullness frames know of classes

A nullness frame knows values by value numbers, and it keeps them while the frames of value numbering
may already have forgotten the labels behind the numbers. No harm comes of it: a class that is known
at a point is known there on every way from the entry, so by the time its label is born again no frame
knows it any more.

* `ValueNumbering.meaningOf`: the meaning of numbers that a meaning of labels gives;
* `NullModel.births`: labels come to be mentioned by being born, where a known class counts as
  mentioned.
-/

namespace Nullness

open Machine

/-! ### Renamed frames -/

lemma SortedMap.mem_ofList {κ α : Type} [Ord κ] [Std.TransOrd κ] {l : List (κ × α)} {e : κ × α}
    (h : e ∈ (SortedMap.ofList l).entries) : e ∈ l := by
  have hfold : ∀ (l : List (κ × α)) (m : SortedMap κ α),
      e ∈ (l.foldl (fun m e => m.insert e.1 e.2) m).entries → e ∈ m.entries ∨ e ∈ l := by
    intro l
    induction l with
    | nil => exact fun m h => .inl h
    | cons a l ih =>
        intro m h
        rcases ih _ h with h | h
        · rcases mem_insertEntry h with rfl | h
          · exact .inr List.mem_cons_self
          · exact .inl h
        · exact .inr (List.mem_cons_of_mem a h)
  exact (hfold l .empty h).resolve_left (by simp [SortedMap.empty])

namespace ValueFrame

variable {α β : Type} [Ord α] [Ord β] [Std.LawfulEqOrd α] [Std.TransOrd β] [Std.LawfulEqOrd β]
  {f : ValueFrame α} {r : α → β}

/-- An available load of a renamed frame is one of the frame. -/
lemma available?_map {l : Load β} {label : β} (h : (f.map r).available? l = some label) :
    ∃ l' label', f.available? l' = some label' ∧ l'.map r = l ∧ r label' = label := by
  have hmem := SortedMap.mem_ofList (SortedMap.get?_eq_some_iff.1 h)
  obtain ⟨⟨l', label'⟩, hentry, heq⟩ := List.mem_map.1 hmem
  rw [Prod.mk.injEq] at heq
  exact ⟨l', label', SortedMap.get?_eq_some_iff.2 hentry, heq.1, heq.2⟩

/-- The label of a slot or of an available load of a renamed frame. -/
lemma mem_labels_map {a : β}
    (h : (∃ fromTop, (f.map r).stackValue? fromTop = some a) ∨
      ∃ l, (f.map r).available? l = some a) :
    ∃ a' ∈ f.labels, r a' = a := by
  rcases h with ⟨fromTop, h⟩ | ⟨l, h⟩
  · rw [stackValue?, ValueFrame.map, List.getElem?_map] at h
    obtain ⟨a', ha', rfl⟩ := Option.map_eq_some_iff.1 h
    exact ⟨a', mem_labels_of_stack (List.mem_of_getElem? ha'), rfl⟩
  · obtain ⟨l', a', ha', -, rfl⟩ := available?_map h
    exact ⟨a', mem_labels_of_available ha', rfl⟩

end ValueFrame

lemma Load.map_map {α β γ : Type} (l : Load α) (r : α → β) (ρ : β → γ) :
    (l.map r).map ρ = l.map (ρ ∘ r) := by
  cases l with
  | field reference fld => cases reference <;> rfl
  | element array index => rfl

namespace ValueNumbering

/-! ### Meanings of numbers -/

variable {order : List ValueOrigin} {ρ ρ' : ValueOrigin → Cell}

/-- A number means what its label means. -/
def meaningOf (order : List ValueOrigin) (ρ : ValueOrigin → Cell) (number : Nat) : Cell :=
  match order.find? fun a => numberOf order a = number with
  | some a => ρ a
  | none => none

lemma meaningOf_numberOf {a : ValueOrigin} (ha : a ∈ order) :
    meaningOf order ρ (numberOf order a) = ρ a := by
  unfold meaningOf
  cases hfind : order.find? fun a' => numberOf order a' = numberOf order a with
  | none => exact absurd (by simp) (List.find?_eq_none.1 hfind a ha)
  | some a' =>
      have hnumber : numberOf order a' = numberOf order a := by simpa using List.find?_some hfind
      obtain rfl := numberOf_injective (List.mem_of_find?_eq_some hfind) hnumber
      rfl

/-- A number keeps its meaning if its label does. -/
lemma meaningOf_congr {number : Nat}
    (h : ∀ a ∈ order, numberOf order a = number → ρ' a = ρ a) :
    meaningOf order ρ' number = meaningOf order ρ number := by
  unfold meaningOf
  cases hfind : order.find? fun a => numberOf order a = number with
  | none => rfl
  | some a =>
      exact h a (List.mem_of_find?_eq_some hfind) (by simpa using List.find?_some hfind)

/-- A numbered load reads what its label means. -/
lemma load_numbered {f : ValueFrame ValueOrigin} {σ : State Cell} (hm : f.Models ρ σ)
    (horder : ∀ a ∈ f.labels, a ∈ order) {l : Load ValueOrigin} {label : ValueOrigin}
    (hl : f.available? l = some label) :
    σ.heap ((l.map (numberOf order)).map (meaningOf order ρ))
      = meaningOf order ρ (numberOf order label) := by
  rw [Load.map_map, meaningOf_numberOf (horder label (ValueFrame.mem_labels_of_available hl)),
    ← hm.loads l label hl]
  exact congrArg σ.heap (Load.map_congr fun a ha =>
    meaningOf_numberOf (horder a (ValueFrame.mem_labels_of_load hl ha)))

/-- The numbered frame models what the frame models. -/
lemma models_numbered {f : ValueFrame ValueOrigin} {σ : State Cell} (hm : f.Models ρ σ)
    (horder : ∀ a ∈ f.labels, a ∈ order) :
    (f.map (numberOf order)).Models (meaningOf order ρ) σ where
  locals := by
    rw [← hm.locals, ValueFrame.map, List.map_map]
    exact List.map_congr_left fun a ha =>
      meaningOf_numberOf (horder a (ValueFrame.mem_labels_of_local ha))
  stack := by
    rw [← hm.stack, ValueFrame.map, List.map_map]
    exact List.map_congr_left fun a ha =>
      meaningOf_numberOf (horder a (ValueFrame.mem_labels_of_stack ha))
  loads l number h := by
    obtain ⟨l, label, hl, rfl, rfl⟩ := ValueFrame.available?_map h
    exact load_numbered hm horder hl

end ValueNumbering

namespace NullModel

open Nullness.Frame ValueNumbering

/-! ### Known classes -/

variable {g : FlowGraph} {m : NullModel g} {entry : NullFrame} {b : g.Node} {index : Nat}

/-- What an instruction lets the frame know is the number of a slot or of an available load after
it. -/
lemma learned?_mentioned {op : Opcode} {number : Nat} (h : m.learned? b index op = some number) :
    ∃ numbers, m.numbers.factAt? b (index + 1) = some numbers ∧
      ((∃ fromTop, numbers.stackValue? fromTop = some number) ∨
        ∃ l, numbers.available? l = some number) := by
  have result : m.resultNumber? b index = some number → ∃ numbers,
      m.numbers.factAt? b (index + 1) = some numbers ∧
        ((∃ fromTop, numbers.stackValue? fromTop = some number) ∨
          ∃ l, numbers.available? l = some number) := by
    intro h
    unfold resultNumber? at h
    split at h
    · obtain ⟨numbers, hnumbers, htop⟩ := Option.bind_eq_some_iff.1 h
      exact ⟨numbers, hnumbers, .inl ⟨0, htop⟩⟩
    · cases h
  have stored : ∀ {load}, m.storedNumber? b index load = some number → ∃ numbers,
      m.numbers.factAt? b (index + 1) = some numbers ∧
        ((∃ fromTop, numbers.stackValue? fromTop = some number) ∨
          ∃ l, numbers.available? l = some number) := by
    intro load h
    unfold storedNumber? at h
    split at h
    · obtain ⟨l, -, h⟩ := Option.bind_eq_some_iff.1 h
      obtain ⟨numbers, hnumbers, havailable⟩ := Option.bind_eq_some_iff.1 h
      exact ⟨numbers, hnumbers, .inr ⟨l, havailable⟩⟩
    · cases h
  cases op with
  | putField | putStatic | arrayStore => exact stored h
  | _ => exact result h

variable [DescriptorReader] {numLocals maxStack : Nat} {sv : Solution g OriginFact Unit}
  {order : List ValueOrigin} {s : Solution g NullFrame (BranchDecision Nullity)}

/-- The frame at a point knows the value of the class of a label. -/
def KnowsLabel (m : NullModel g) (entry : NullFrame) (order : List ValueOrigin)
    (s : Solution g NullFrame (BranchDecision Nullity)) (b : g.Node) (index : Nat)
    (a : ValueOrigin) : Prop :=
  a ∈ order ∧ ((m.analysis entry).factAt s b index).Knows (numberOf order a)

/-- An edge on which both analyses see control leave its source. -/
def Carries (m : NullModel g) (entry : NullFrame) (numLocals maxStack : Nat)
    (sv : Solution g OriginFact Unit) (s : Solution g NullFrame (BranchDecision Nullity))
    (e : g.Arc) : Prop :=
  Crossed g numLocals maxStack sv e ∧
    ∃ f, (m.analysis entry).carried? e (s.table.get e.source) = some f

section

variable (hn : Numbers m.numbers numLocals maxStack sv order)

include hn

/-- A number that a frame of numbers mentions is that of a label of the frame. -/
lemma label_of_number {numbers : NumberedFrame} {number : Nat}
    (hindex : index ≤ (g.instructions b).length)
    (hnumbers : m.numbers.factAt? b index = some numbers)
    (hmentioned : (∃ fromTop, numbers.stackValue? fromTop = some number) ∨
      ∃ l, numbers.available? l = some number) {a : ValueOrigin} (ha : a ∈ order)
    (hnumber : numberOf order a = number) :
    ∃ f, At g numLocals maxStack sv b index f ∧ a ∈ f.labels := by
  obtain ⟨f, hf, rfl⟩ := (hn.factAt?_eq_some_iff hindex).1 hnumbers
  obtain ⟨a', ha', heq⟩ := ValueFrame.mem_labels_map hmentioned
  obtain rfl := numberOf_injective ha (hnumber.trans heq.symm)
  exact ⟨f, hf, ha'⟩

/-- The number of a load that is available at the start of a block is that of a stray label. -/
lemma stray_of_number {numbers : NumberedFrame} {number : Nat} {l : Load Nat}
    (hnumbers : m.numbers.factAt? b 0 = some numbers) (hl : numbers.available? l = some number)
    {a : ValueOrigin} (ha : a ∈ order) (hnumber : numberOf order a = number) :
    ∃ f, At g numLocals maxStack sv b 0 f ∧ StrayIn b f a := by
  obtain ⟨f, hf, rfl⟩ := (hn.factAt?_eq_some_iff (Nat.zero_le _)).1 hnumbers
  obtain ⟨l', a', hl', -, heq⟩ := ValueFrame.available?_map hl
  obtain rfl := numberOf_injective ha (hnumber.trans heq.symm)
  exact ⟨f, hf, .inr ⟨l', a, hl', .inr rfl⟩⟩

variable (hsolve : (m.analysis entry).solve = .ok s)

omit hn in
include hsolve in
/-- What the frame at the start of a block knows, the frame at the end of a predecessor knows, or it
is the number of a load that is available. -/
lemma knows_of_carries {e : g.Arc} (he : e ∈ g.edges)
    (hcarries : Carries m entry numLocals maxStack sv s e) {number : Nat}
    (hknows : ((m.analysis entry).factAt s e.target 0).Knows number) :
    ((m.analysis entry).factAt s e.source (g.instructions e.source).length).Knows number ∨
      ∃ numbers l, m.numbers.factAt? e.target 0 = some numbers ∧
        numbers.available? l = some number := by
  obtain ⟨⟨hkind, hreach, -⟩, f, hf⟩ := hcarries
  rw [FlowAnalysis.factAt_eq_within, FlowAnalysis.within_zero] at hknows
  have hbelow := FlowAnalysis.flow_bound pointInvariant_shaped joinBound_below isTop_top hsolve he
    hreach (.normal hkind hf)
  have hresult : (s.table.get e.source).result
      = (m.analysis entry).factAt s e.source (g.instructions e.source).length :=
    (FlowAnalysis.solve_consistent isTop_top hsolve).result e.source
  rw [← hresult]
  exact (refined_carried hf).2.known number (hbelow.knows hknows)

include hsolve in
/-- The labels that frames mention are born as they should be, and a class that is known counts as
mentioned. -/
lemma births (hvalid : entry.valid = true) (hknown : ∀ n, ¬ entry.Knows n) :
    Births g (fun b index => (∃ f, At g numLocals maxStack sv b index f) ∧
        ((m.analysis entry).factAt s b index).valid = true)
      (Carries m entry numLocals maxStack sv s)
      (fun b index a => (∃ f, At g numLocals maxStack sv b index f ∧ a ∈ f.labels) ∨
        KnowsLabel m entry order s b index a)
      (fun b a => (∃ f, At g numLocals maxStack sv b 0 f ∧ StrayIn b f a) ∨
        KnowsLabel m entry order s b 0 a) := by
  have hbirths := ValueNumbering.births hn.solve
  have hentry : ∀ a, ¬ KnowsLabel m entry order s g.entry 0 a := by
    rintro a ⟨-, hknows⟩
    have hbelow := FlowAnalysis.entry_bound pointInvariant_shaped joinBound_below isTop_top hsolve
      (Below.refl hvalid)
    rw [FlowAnalysis.factAt_eq_within, FlowAnalysis.within_zero] at hknows
    exact hknown _ (hbelow.knows hknows)
  refine ⟨?_, ?_, ?_, ?_, ?_⟩
  · rintro a (ha | hknows)
    · exact hbirths.entry ha
    · exact absurd hknows (hentry a)
  · rintro a (ha | hknows)
    · exact hbirths.entry_stray ha
    · exact absurd hknows (hentry a)
  · rintro b index a hlt ⟨halive, hvalid'⟩ hmentioned
    have hlabel : (∃ f, At g numLocals maxStack sv b (index + 1) f ∧ a ∈ f.labels) →
        ((∃ f, At g numLocals maxStack sv b index f ∧ a ∈ f.labels) ∨
          KnowsLabel m entry order s b index a) ∨ ∃ k, a = .produced b index k :=
      fun ha => (hbirths.step hlt halive ha).imp_left .inl
    rcases hmentioned with ha | ⟨ha, hknows⟩
    · exact hlabel ha
    · have hi := List.getElem?_eq_getElem hlt
      obtain ⟨hbefore, hyields⟩ := of_within_succ hi hvalid'
      rcases (apply_applied hbefore hyields hvalid').known _ hknows with hknows | hlearned
      · exact .inl (.inr ⟨ha, hknows⟩)
      · obtain ⟨numbers, hnumbers, hmentioned⟩ := learned?_mentioned hlearned
        exact hlabel (label_of_number hn hlt hnumbers hmentioned ha rfl)
  · rintro e a he hcarries (ha | ⟨ha, hknows⟩)
    · exact (hbirths.jump he hcarries.1 ha).imp_left .inl
    · rcases knows_of_carries hsolve he hcarries hknows with hknows | ⟨numbers, l, hnumbers, hl⟩
      · exact .inl (.inr ⟨ha, hknows⟩)
      · have hlabel := label_of_number hn (Nat.zero_le _) hnumbers (.inr ⟨l, hl⟩) ha rfl
        exact (hbirths.jump he hcarries.1 hlabel).imp_left .inl
  · rintro e a he hcarries (ha | ⟨ha, hknows⟩)
    · exact .inl (hbirths.jump_stray he hcarries.1 ha)
    · rcases knows_of_carries hsolve he hcarries hknows with hknows | ⟨numbers, l, hnumbers, hl⟩
      · exact .inr ⟨ha, hknows⟩
      · exact .inl (hbirths.jump_stray he hcarries.1 (stray_of_number hn hnumbers hl ha rfl))

end

end NullModel

end Nullness
