import Mathlib.Tactic
import Nullness.Descriptor.Reader
import Nullness.CheckedCall
import Nullness.Proofs.MonotoneFlow
import Nullness.Proofs.Paths

/-!
# Checked calls

Checked names are ordered by what they still allow: a point that no control has been seen to reach is
below all others, and of two others the one that has checked more. The join keeps what both sides have
checked, which is the least upper bound, so the analysis is monotone, and its least solution tells what
all paths have in common.

* `CheckedNames.le_iff`: the order;
* `CheckedCalls.monotoneFlow`: the analysis is monotone;
* `CheckedCalls.rank_unchecked`: facts ascend by no more steps than there are names of calls;
* `CheckedCalls.exists_ofGraph_iff`: the analysis succeeds exactly if its counts are machine words;
* `CheckedCalls.contains_iff_paths`: **a call counts as checked at a block exactly when every path from
  the entry to the block checks it.**
-/

namespace Nullness

/-! ### The order of checked names -/

namespace CheckedCalls

/-- Whether a fact has checked a name; a point that is not reached has checked all names. -/
def Checks : CheckedNames → String → Prop
  | none, _ => True
  | some names, n => SortedSet.mem names n = true

@[simp] lemma checks_none (n : String) : Checks none n := trivial

@[simp] lemma checks_some {names : SortedSet String} {n : String} :
    Checks (some names) n ↔ SortedSet.mem names n = true := Iff.rfl

@[simp] lemma checks_meet {f f' : CheckedNames} {n : String} :
    Checks (meet f f') n ↔ Checks f n ∧ Checks f' n := by
  cases f <;> cases f' <;> simp [meet]

@[simp] lemma meet_eq_none {f f' : CheckedNames} : meet f f' = none ↔ f = none ∧ f' = none := by
  cases f <;> cases f' <;> simp [meet]

lemma ext_checks {f f' : CheckedNames} (hnone : f = none ↔ f' = none)
    (h : ∀ n, Checks f n ↔ Checks f' n) : f = f' := by
  cases f with
  | none => exact (hnone.1 rfl).symm
  | some names =>
      cases f' with
      | none => exact hnone.2 rfl
      | some names' => exact congrArg some (SortedSet.ext_mem fun n => Bool.eq_iff_iff.2 (h n))

/-- A fact is below those that have checked less, unless these are not reached. -/
instance : SemilatticeSup CheckedNames where
  le f f' := (f' = none → f = none) ∧ ∀ n, Checks f' n → Checks f n
  le_refl _ := ⟨id, fun _ => id⟩
  le_trans _ _ _ h h' := ⟨fun hnone => h.1 (h'.1 hnone), fun n hn => h.2 n (h'.2 n hn)⟩
  le_antisymm _ _ h h' := ext_checks ⟨h'.1, h.1⟩ fun n => ⟨h'.2 n, h.2 n⟩
  sup := meet
  le_sup_left _ _ := ⟨fun hnone => (meet_eq_none.1 hnone).1, fun _ hn => (checks_meet.1 hn).1⟩
  le_sup_right _ _ := ⟨fun hnone => (meet_eq_none.1 hnone).2, fun _ hn => (checks_meet.1 hn).2⟩
  sup_le _ _ _ h h' := ⟨fun hnone => meet_eq_none.2 ⟨h.1 hnone, h'.1 hnone⟩,
    fun n hn => checks_meet.2 ⟨h.2 n hn, h'.2 n hn⟩⟩

instance : OrderBot CheckedNames where
  bot := none
  bot_le _ := ⟨fun _ => rfl, fun n _ => checks_none n⟩

lemma le_iff {f f' : CheckedNames} :
    f ≤ f' ↔ (f' = none → f = none) ∧ ∀ n, Checks f' n → Checks f n := Iff.rfl

lemma bot_eq_none : (⊥ : CheckedNames) = none := rfl

/-! ### Along an edge -/

section Analysis

variable [DescriptorReader] {g : FlowGraph}

/-- What an edge delivers when its source starts with a fact: a call that the edge checks is added.
-/
def deliver (e : g.Arc) (f : CheckedNames) : CheckedNames :=
  match checkedAtEnd? g e.source with
  | none => f
  | some d => refine e d f

@[simp] lemma deliver_none (e : g.Arc) : deliver e none = none := by
  unfold deliver
  split <;> rfl

lemma deliver_eq_none {e : g.Arc} {f : CheckedNames} : deliver e f = none ↔ f = none := by
  unfold deliver
  split
  · exact Iff.rfl
  · cases f <;> simp [refine]

/-- An edge adds the name of the call that it checks. -/
lemma checks_deliver {e : g.Arc} {f : CheckedNames} {n : String} :
    Checks (deliver e f) n ↔ checkedAtEnd? g e.source = some ⟨n, e.kind⟩ ∨ Checks f n := by
  unfold deliver
  split
  · rename_i hnone
    simp [hnone]
  · rename_i d hd
    obtain ⟨name, kind⟩ := d
    cases f with
    | none => simp [refine]
    | some names =>
        by_cases hkind : e.kind = kind
        · simp [refine, hkind, hd, @eq_comm _ n]
        · simp [refine, hkind, hd, Ne.symm hkind]

/-- A comparison checks a call on one of its two sides, never on an exception. -/
lemma checkedAtEnd?_kind {b : g.Node} {d : CheckedEdge} (h : checkedAtEnd? g b = some d) :
    d.kind.isException = false := by
  obtain ⟨_, _, _, -, ⟨-, ⟨-, hkind⟩ | ⟨-, hkind⟩⟩ | ⟨-, -, ⟨-, hkind⟩ | ⟨-, hkind⟩⟩⟩ :=
    checkedEdge?_cases (checkedAtEnd?_eq_some_iff.1 h)
  all_goals rw [hkind]; rfl

/-- An exception edge checks nothing. -/
lemma deliver_exception {e : g.Arc} (hkind : e.kind.isException = true) (f : CheckedNames) :
    deliver e f = f := by
  unfold deliver
  split
  · rfl
  · rename_i d hd
    have hne : e.kind ≠ d.kind := fun heq => by
      rw [heq, checkedAtEnd?_kind hd] at hkind
      cases hkind
    cases f <;> simp [refine, hne]

/-! ### The analysis -/

lemma within_eq (b : g.Node) (f : CheckedNames) (index : Nat) :
    (analysis g).within b f index = f := by
  have hreplay : ∀ (code : List Instruction) (index : Nat),
      (analysis g).replay b index code f = f := by
    intro code
    induction code with
    | nil => exact fun _ => rfl
    | cons i code ih =>
        intro index
        rw [FlowAnalysis.replay]
        split
        · rfl
        · exact ih (index + 1)
  exact hreplay _ 0

lemma result_eq (b : g.Node) (f : CheckedNames) : ((analysis g).through b f).result = f := by
  rw [FlowAnalysis.through_result, within_eq]

lemma decision_eq (b : g.Node) {f : CheckedNames} (hf : f ≠ none) :
    ((analysis g).through b f).decision = checkedAtEnd? g b := by
  cases hlen : (g.instructions b).length with
  | zero =>
      have hempty : g.instructions b = [] := List.length_eq_zero_iff.1 hlen
      simp [FlowAnalysis.through, hempty, FlowAnalysis.traverse, FlowAnalysis.decisionAfter,
        checkedAtEnd?, FlowGraph.ops, checkedEdge?, Except.toOption]
  | succ last =>
      rw [(analysis g).through_decision hlen]
      · rfl
      · rw [result_eq]
        cases f with
        | none => exact absurd rfl hf
        | some names => rfl

/-- All that a block may throw with is what it starts with. -/
lemma mem_thrown {b : g.Node} {f x : CheckedNames} (h : x ∈ ((analysis g).through b f).thrown) :
    x = f := by
  unfold BlockFacts.thrown at h
  split at h
  · exact List.mem_singleton.1 h
  · obtain ⟨index, i, -, -, rfl, -⟩ := (analysis g).mem_throwing.1 h
    exact within_eq b f index

lemma thrown_ne_nil (b : g.Node) (f : CheckedNames) : ((analysis g).through b f).thrown ≠ [] := by
  unfold BlockFacts.thrown
  split
  · exact List.cons_ne_nil _ _
  · rename_i hne
    simpa using hne

/-- Facts that are all the same are joined to that fact. -/
lemma foldlM_joinThrown {e : g.Arc} {f : CheckedNames} : ∀ {l : List CheckedNames} {sofar : CheckedNames},
    (∀ x ∈ l, x = f) → sofar = f ∨ sofar = none ∧ l ≠ [] →
      l.foldlM ((analysis g).joinThrown e) sofar = .ok f
  | [], sofar, _, h => by
      obtain rfl : sofar = f := h.resolve_right fun h => h.2 rfl
      rfl
  | x :: l, sofar, hall, h => by
      obtain rfl : x = f := hall x List.mem_cons_self
      have hjoin : (analysis g).joinThrown e sofar x = .ok x := by
        cases x with
        | none =>
            have hsofar : sofar = none := h.elim id (·.1)
            rw [hsofar]
            rfl
        | some names =>
            change Except.ok (sofar ⊔ some names) = .ok (some names)
            rcases h with rfl | ⟨rfl, -⟩
            · rw [sup_idem]
            · rfl
      rw [List.foldlM_cons, hjoin]
      exact foldlM_joinThrown (fun y hy => hall y (List.mem_cons_of_mem _ hy)) (.inl rfl)

/-- **The analysis of checked calls is monotone.** -/
theorem monotoneFlow (g : FlowGraph) : (analysis g).MonotoneFlow deliver where
  top_eq := rfl
  isTop_iff f := by cases f <;> simp [analysis, bot_eq_none]
  join_eq _ _ _ _ := rfl
  delivers e _ f := by
    unfold FlowAnalysis.delivery
    split
    · rename_i hkind
      rw [deliver_exception hkind]
      exact foldlM_joinThrown (fun _ hx => mem_thrown hx) (.inr ⟨rfl, thrown_ne_nil _ _⟩)
    · cases f with
      | none =>
          rw [FlowAnalysis.carried?, result_eq, deliver_none]
          rfl
      | some names =>
          rw [FlowAnalysis.carried?, result_eq, decision_eq _ (Option.some_ne_none _), deliver]
          cases checkedAtEnd? g e.source <;> rfl
  monotone e _ f f' h := by
    refine le_iff.2 ⟨fun hnone => ?_, fun n hn => ?_⟩
    · exact deliver_eq_none.2 (h.1 (deliver_eq_none.1 hnone))
    · exact checks_deliver.2 ((checks_deliver.1 hn).imp_right (h.2 n))

/-! ### Names of calls -/

omit [DescriptorReader] in
lemma mem_callNames {b : g.Node} {call : CallSite} (h : .invoke call ∈ g.ops b) :
    SortedSet.mem (callNames g) call.name = true := by
  obtain ⟨i, hi, hop⟩ := List.mem_map.1 h
  rw [callNames, SortedSet.mem_ofList, List.mem_filterMap]
  refine ⟨i, List.mem_flatten.2 ⟨g.instructions b, ?_, hi⟩, by rw [hop]⟩
  exact Vector.mem_toList_iff.2 (Vector.getElem_mem b.isLt)

/-- A call that a block checks is one that it makes. -/
lemma checkedAtEnd?_name {b : g.Node} {d : CheckedEdge} (h : checkedAtEnd? g b = some d) :
    SortedSet.mem (callNames g) d.name = true := by
  obtain ⟨test, call, before, hname, hops⟩ := checkedEdge?_cases (checkedAtEnd?_eq_some_iff.1 h)
  rw [← hname]
  refine mem_callNames (b := b) (List.mem_reverse.1 ?_)
  obtain ⟨hops, -⟩ | ⟨hops, hcall, -⟩ := hops
  · rw [hops]
    simp
  · obtain ⟨rest, rfl | ⟨rfl, -⟩⟩ := comparedCall?_cases hcall <;> rw [hops] <;> simp

/-- The names of calls that a fact has not checked. -/
def unchecked (g : FlowGraph) (names : SortedSet String) : Finset String :=
  (callNames g).toList.toFinset.filter fun n => ¬ SortedSet.mem names n

/-- How many names of calls a fact has not checked, of facts at points that are reached. -/
def rank (g : FlowGraph) : CheckedNames → Nat
  | none => 0
  | some names => (unchecked g names).card + 1

/-- Only names of calls have been checked. -/
def OfCalls (g : FlowGraph) (f : CheckedNames) : Prop :=
  f ≠ none → ∀ n, Checks f n → SortedSet.mem (callNames g) n = true

omit [DescriptorReader] in
lemma mem_unchecked {names : SortedSet String} {n : String} : n ∈ unchecked g names ↔
    SortedSet.mem (callNames g) n = true ∧ SortedSet.mem names n = false := by
  simp [unchecked, SortedSet.mem_toList]

/-- Facts ascend by no more steps than there are names of calls, and one. -/
lemma rank_unchecked (g : FlowGraph) :
    (analysis g).Rank deliver (OfCalls g) (rank g) ((callNames g).size + 1) where
  bot h := absurd rfl h
  entry _ n hn := by cases hn
  sup {f f'} hf hf' hne n hn := by
    obtain ⟨hn, hn'⟩ := checks_meet.1 hn
    cases f with
    | none => exact hf' (fun hnone => hne (meet_eq_none.2 ⟨rfl, hnone⟩)) n hn'
    | some names => exact hf (Option.some_ne_none names) n hn
  deliver e _ {f} hf hne n hn := by
    rcases checks_deliver.1 hn with hd | hn
    · have hname := checkedAtEnd?_name hd
      exact hname
    · exact hf (mt deliver_eq_none.2 hne) n hn
  le {f} _ := by
    cases f with
    | none => exact Nat.zero_le _
    | some names =>
        refine Nat.succ_le_succ ((Finset.card_filter_le _ _).trans ?_)
        refine (List.toFinset_card_le _).trans_eq ?_
        exact List.length_map _
  lt {f f'} hf _ hlt := by
    obtain ⟨⟨hnone, hchecks⟩, hnot⟩ := lt_iff_le_not_ge.1 hlt
    cases f with
    | none =>
        cases f' with
        | none => exact absurd le_rfl hnot
        | some names' => exact Nat.succ_pos _
    | some names =>
        cases f' with
        | none => cases hnone rfl
        | some names' =>
            -- a name that only the lower fact has checked is one more that is not checked above
            obtain ⟨n, hn, hn'⟩ : ∃ n, Checks (some names) n ∧ ¬ Checks (some names') n := by
              by_contra hall
              push Not at hall
              exact hnot (le_iff.2 ⟨fun h => absurd h (Option.some_ne_none _), hall⟩)
            refine Nat.succ_lt_succ (Finset.card_lt_card (Finset.ssubset_iff.2 ⟨n, ?_, ?_⟩))
            · simp only [mem_unchecked, not_and, Bool.not_eq_false]
              exact fun _ => hn
            · refine Finset.insert_subset (mem_unchecked.2 ⟨?_, by simpa using hn'⟩) fun k hk => ?_
              · exact hf (Option.some_ne_none names) n hn
              · obtain ⟨hk, hnames⟩ := mem_unchecked.1 hk
                refine mem_unchecked.2 ⟨hk, Bool.eq_false_iff.2 fun h => ?_⟩
                rw [checks_some.1 (hchecks k h)] at hnames
                cases hnames

/-! ### All paths -/

variable {s : Solution g CheckedNames CheckedEdge}

/-- An edge that checks a call of some name. -/
def ChecksAlong (e : g.Arc) (n : String) : Prop := checkedAtEnd? g e.source = some ⟨n, e.kind⟩

/-- At a block to which a path leads nothing counts as checked that the path does not check. -/
lemma checks_path (hsolve : (analysis g).solve = .ok s) {path : List g.Arc} {b : g.Node}
    (hpath : g.Path g.entry path b) :
    s.startFact b ≠ none ∧ ∀ n, Checks (s.startFact b) n → ∃ e ∈ path, ChecksAlong e n := by
  have harrives := fun b => FlowAnalysis.inflow_le_iff.1
    ((monotoneFlow g).inflow_startFact hsolve b).le
  induction hpath with
  | stay =>
      obtain ⟨hinitial, -⟩ := harrives g.entry
      rw [FlowAnalysis.initial, if_pos rfl] at hinitial
      refine ⟨fun hnone => ?_, fun n hn => ?_⟩
      · cases hinitial.1 hnone
      · cases hinitial.2 n hn
  | @cross path e _ he ih =>
      have hdelivered := (harrives e.target).2 e he rfl
      refine ⟨fun hnone => ih.1 (deliver_eq_none.1 (hdelivered.1 hnone)), fun n hn => ?_⟩
      rcases checks_deliver.1 (hdelivered.2 n hn) with hchecks | hn
      · exact ⟨e, by simp, hchecks⟩
      · obtain ⟨e', he', hchecks⟩ := ih.2 n hn
        exact ⟨e', List.mem_append_left _ he', hchecks⟩

open Classical in
/-- The names of calls that every path from the entry to a block checks. -/
noncomputable def checkedByPaths (g : FlowGraph) (b : g.Node) : CheckedNames :=
  if g.Reachable b then
    some <| (callNames g).filter fun n _ =>
      decide (∀ path, g.Path g.entry path b → ∃ e ∈ path, ChecksAlong e n)
  else none

lemma checkedByPaths_eq_none {b : g.Node} : checkedByPaths g b = none ↔ ¬ g.Reachable b := by
  unfold checkedByPaths
  split <;> simp [*]

lemma checks_checkedByPaths {b : g.Node} (hb : g.Reachable b) {n : String} :
    Checks (checkedByPaths g b) n ↔
      ∀ path, g.Path g.entry path b → ∃ e ∈ path, ChecksAlong e n := by
  rw [checkedByPaths, if_pos hb, checks_some, SortedSet.mem_filter, Bool.and_eq_true]
  simp only [decide_eq_true_eq, and_iff_right_iff_imp]
  intro hall
  obtain ⟨path, hpath⟩ := hb.exists_path
  obtain ⟨e, -, hchecks⟩ := hall path hpath
  have hname := checkedAtEnd?_name hchecks
  exact hname

/-- Under what all paths check no more arrives. -/
lemma inflow_checkedByPaths (b : g.Node) :
    (analysis g).inflow deliver (checkedByPaths g) b ≤ checkedByPaths g b := by
  refine FlowAnalysis.inflow_le_iff.2 ⟨?_, fun e he ht => ?_⟩
  · unfold FlowAnalysis.initial
    split
    · rename_i hentry
      subst hentry
      refine ⟨fun hnone => absurd .entry (checkedByPaths_eq_none.1 hnone), fun n hn => ?_⟩
      obtain ⟨e, he, -⟩ := (checks_checkedByPaths .entry).1 hn [] .stay
      cases he
    · exact bot_le
  · subst ht
    by_cases hsource : g.Reachable e.source
    · have htarget : g.Reachable e.target := .step hsource he
      refine ⟨fun hnone => absurd htarget (checkedByPaths_eq_none.1 hnone), fun n hn => ?_⟩
      rw [checks_deliver, checks_checkedByPaths hsource]
      by_contra hnot
      push Not at hnot
      obtain ⟨hunchecked, path, hpath, hall⟩ := hnot
      obtain ⟨e', he', hchecks⟩ := (checks_checkedByPaths htarget).1 hn _ (hpath.cross he)
      rcases List.mem_append.1 he' with he' | he'
      · exact hall e' he' hchecks
      · exact hunchecked (List.mem_singleton.1 he' ▸ hchecks)
    · rw [checkedByPaths_eq_none.2 hsource, deliver_none]
      exact bot_le

/-! ### Machine words -/

/-- The counts of the analysis are machine words: the passes that it may take, and the cells that it
counts at the end of the blocks to which the entry leads. -/
structure CountsFit (g : FlowGraph) : Prop where
  passes : (analysis g).passLimit < wordSize
  cells {b : g.Node} : g.Reachable b → ∃ d, checkedEdge? (g.ops b).reverse = .ok d

/-- The cells that some instructions take, all together. -/
def cellsTaken (ops : List Opcode) : Nat :=
  (ops.map fun op => (op.effect.toOption.map StackEffect.pops).getD 0).sum

lemma cellsTaken_cons {op : Opcode} {effect : StackEffect} (h : op.effect = .ok effect)
    (ops : List Opcode) : cellsTaken (op :: ops) = effect.pops + cellsTaken ops := by
  simp [cellsTaken, h, Except.toOption]

lemma cellsTaken_le_cons (op : Opcode) (ops : List Opcode) :
    cellsTaken ops ≤ cellsTaken (op :: ops) := by
  simp [cellsTaken]

lemma cellsTaken_reverse (ops : List Opcode) : cellsTaken ops.reverse = cellsTaken ops := by
  simp [cellsTaken, List.sum_reverse]

/-- The walk backwards never counts more cells than it looks for at first and all instructions
take. -/
lemma exists_isNullAt : ∀ {ops : List Opcode} {needed : Nat},
    needed + cellsTaken ops < wordSize → ∃ found, isNullAt needed ops = .ok found
  | [], _, _ => ⟨false, rfl⟩
  | op :: ops, needed, h => by
      unfold isNullAt
      cases heffect : op.effect with
      | error e => exact ⟨false, rfl⟩
      | ok effect =>
          rw [cellsTaken_cons heffect] at h
          dsimp only
          split
          · exact ⟨false, rfl⟩
          · split
            · exact ⟨_, rfl⟩
            · rw [word_of_lt (by omega)]
              exact exists_isNullAt (by omega)

/-- The cells can be counted where all instructions together take a number of cells that is a
machine word. -/
lemma exists_checkedEdge? {ops : List Opcode} (h : 2 + cellsTaken ops < wordSize) :
    ∃ d, checkedEdge? ops = .ok d := by
  have hcompared : ∀ {op : Opcode} {before : List Opcode}, ops = op :: before →
      ∃ found, comparedCall? before = .ok found := by
    rintro op before rfl
    have hbefore := cellsTaken_le_cons op before
    unfold comparedCall?
    split
    · exact ⟨_, rfl⟩
    · rename_i call before
      cases heffect : (Opcode.invoke call).effect with
      | error e => exact ⟨none, rfl⟩
      | ok effect =>
          rw [cellsTaken_cons heffect] at hbefore
          have hlt : 2 + effect.pops - effect.pushes + cellsTaken before < wordSize := by omega
          obtain ⟨found, hfound⟩ := exists_isNullAt hlt
          dsimp only
          exact ⟨_, by rw [hfound]; rfl⟩
    · exact ⟨none, rfl⟩
  unfold checkedEdge?
  split
  · exact ⟨_, rfl⟩
  · exact ⟨_, rfl⟩
  · obtain ⟨found, hfound⟩ := hcompared rfl
    exact ⟨_, by rw [hfound]; rfl⟩
  · obtain ⟨found, hfound⟩ := hcompared rfl
    exact ⟨_, by rw [hfound]; rfl⟩
  · exact ⟨none, rfl⟩

omit [DescriptorReader] in
lemma forM_discard_eq_ok_iff {ε α β : Type} {f : α → Except ε β} : ∀ {l : List α},
    l.forM (fun a => discard (f a)) = .ok () ↔ ∀ a ∈ l, ∃ b, f a = .ok b
  | [] => by simp [pure, Except.pure]
  | a :: l => by
      rw [List.forM, List.forall_mem_cons, ← forM_discard_eq_ok_iff]
      cases ha : f a with
      | error e => exact iff_of_false (fun h => nomatch h) fun h => nomatch h.1
      | ok b => exact (and_iff_right ⟨b, rfl⟩).symm

lemma countCells_eq_ok_iff : countCells g = .ok () ↔
    ∀ b, g.Reachable b → ∃ d, checkedEdge? (g.ops b).reverse = .ok d := by
  rw [countCells, forM_discard_eq_ok_iff]
  exact forall_congr' fun b => imp_congr_left FlowGraph.mem_reversePostorder

/-- The table holds the starts of the solution, and there is one if the counts are machine words. -/
lemma ofGraph_eq_ok_iff {t : CheckedCalls g} : ofGraph g = .ok t ↔ CountsFit g ∧
    ∃ s, (analysis g).solve = .ok s ∧ t = ⟨.ofFn fun b => s.startFact b⟩ := by
  unfold ofGraph
  simp only [bind_eq_ok_iff, inContext_eq_ok, pure_eq_ok_iff, FlowAnalysis.execute_eq_ok_iff]
  constructor
  · rintro ⟨⟨⟩, hcells, s, ⟨hpasses, hsolve⟩, rfl⟩
    exact ⟨⟨hpasses, fun {b} => countCells_eq_ok_iff.1 hcells b⟩, s, hsolve, rfl⟩
  · rintro ⟨hfit, s, hsolve, rfl⟩
    exact ⟨(), countCells_eq_ok_iff.2 fun _ => hfit.cells, s, ⟨hfit.passes, hsolve⟩, rfl⟩

/-- There is a table exactly if the counts are machine words. -/
theorem exists_ofGraph_iff : (∃ t, ofGraph g = .ok t) ↔ CountsFit g := by
  refine ⟨fun ⟨t, ht⟩ => (ofGraph_eq_ok_iff.1 ht).1, fun hfit => ?_⟩
  obtain ⟨s, hsolve, -⟩ := (monotoneFlow g).converges (rank_unchecked g) (Nat.le_succ _)
  exact ⟨_, ofGraph_eq_ok_iff.2 ⟨hfit, s, hsolve, rfl⟩⟩

/-- **A call counts as checked at a block exactly when every path from the entry to the block checks
it**, and the entry leads to the block. The analysis fails on no graph whose counts are machine
words. -/
theorem contains_iff_paths (g : FlowGraph) (hfit : CountsFit g) :
    ∃ t, CheckedCalls.ofGraph g = .ok t ∧
    ∀ b n, t.contains b n = true ↔ g.Reachable b ∧
      ∀ path, g.Path g.entry path b → ∃ e ∈ path, checkedAtEnd? g e.source = some ⟨n, e.kind⟩ := by
  obtain ⟨t, ht⟩ := exists_ofGraph_iff.2 hfit
  refine ⟨t, ht, fun b n => ?_⟩
  obtain ⟨-, s, hsolve, rfl⟩ := ofGraph_eq_ok_iff.1 ht
  have hget : (Vector.ofFn fun b => s.startFact b).get b = s.startFact b := Vector.getElem_ofFn b.isLt
  have hcontains : contains ⟨.ofFn fun b => s.startFact b⟩ b n = true ↔
      s.startFact b ≠ none ∧ Checks (s.startFact b) n := by
    rw [contains, hget]
    cases s.startFact b <;> simp
  rw [hcontains]
  constructor
  · rintro ⟨hne, hn⟩
    have hb : g.Reachable b := by
      by_contra hb
      exact hne (congrArg BlockFacts.start (FlowAnalysis.solve_unreached hsolve hb))
    exact ⟨hb, fun path hpath => (checks_path hsolve hpath).2 n hn⟩
  · rintro ⟨hb, hall⟩
    obtain ⟨path, hpath⟩ := hb.exists_path
    refine ⟨(checks_path hsolve hpath).1, ?_⟩
    have hle := (monotoneFlow g).startFact_le hsolve inflow_checkedByPaths b
    exact hle.2 n ((checks_checkedByPaths hb).2 hall)

end Analysis

/-- Asks for a value until it is no null: the comparison goes back to the call or on to the end. -/
def pollingBody : Body where
  entry := 0
  exit := 3
  blocks := [⟨0, [⟨0, .constNull⟩, ⟨1, .load 0⟩,
    ⟨2, .invoke ⟨"A", "poll", "()LA;", .virtual⟩⟩, ⟨3, .ifRefNe⟩]⟩,
    ⟨1, [⟨4, .goto⟩]⟩, ⟨2, [⟨5, .return⟩]⟩, ⟨3, []⟩]
  edges := [⟨0, 1, .fallThrough⟩, ⟨1, 0, .branch⟩, ⟨0, 2, .branch⟩, ⟨2, 3, .fallThrough⟩]

/-- The graph that asks until the answer is no null. -/
def polling : FlowGraph := (FlowGraph.ofBody pollingBody).toOption.get (by decide +kernel)

/-- However often the loop is taken, the call is checked behind it, and not inside. -/
theorem contains_iff_paths_polling :
    CountsFit polling ∧ ∃ t, CheckedCalls.ofGraph polling = .ok t ∧
      t.contains ⟨2, by decide +kernel⟩ "poll" = true ∧
      t.contains ⟨1, by decide +kernel⟩ "poll" = false := by
  have hcells : ∀ b : polling.Node, 2 + cellsTaken (polling.ops b).reverse < wordSize := by
    decide +kernel
  have hfit : CountsFit polling := ⟨by decide +kernel, fun {b} _ => exists_checkedEdge? (hcells b)⟩
  have hreach : ∀ b ∈ polling.reversePostorder, polling.Reachable b := fun b hb =>
    FlowGraph.mem_reversePostorder.1 hb
  obtain ⟨t, ht, hcontains⟩ := contains_iff_paths polling hfit
  refine ⟨hfit, t, ht, (hcontains _ _).2 ⟨hreach _ (by decide +kernel), fun path hpath => ?_⟩, ?_⟩
  · -- a path to the block behind the loop ends with the branch
    have hlast : ∀ e ∈ polling.edges, e.target = ⟨2, by decide +kernel⟩ →
        checkedAtEnd? polling e.source = some ⟨"poll", e.kind⟩ := by decide +kernel
    generalize hb : (⟨2, by decide +kernel⟩ : polling.Node) = b at hpath
    cases hpath with
    | stay => exact absurd hb (by decide +kernel)
    | @cross path e _ he => exact ⟨e, by simp, hlast e he hb.symm⟩
  · refine Bool.eq_false_iff.2 fun h => ?_
    -- one step leads into the loop, and it checks nothing
    have hpath : polling.Path polling.entry ([] ++ [polling.edges[0]]) polling.edges[0].target :=
      .cross .stay (by simp)
    have hunchecked : checkedAtEnd? polling polling.edges[0].source ≠
        some ⟨"poll", polling.edges[0].kind⟩ := by decide +kernel
    obtain ⟨e, he, hchecks⟩ := ((hcontains _ _).1 h).2 _ hpath
    obtain rfl := List.mem_singleton.1 he
    exact hunchecked hchecks

end CheckedCalls

end Nullness
