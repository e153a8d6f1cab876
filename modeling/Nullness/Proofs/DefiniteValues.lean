import Mathlib.Tactic
import Nullness.Descriptor.Reader
import Nullness.Proofs.DescribedEdges
import Nullness.Proofs.EntryFrame
import Nullness.Proofs.Knowledge

/-!
# Definite values

The two analyses are followed along an execution together: the frames of value numbering model its
states, and the nullness frames describe them under the same meaning of the labels (`Follows`). So a
value that is definite is right, wherever the execution comes to.

* `NullModel.Follows.step`, `NullModel.Follows.jump`: from one point of an execution to the next;
* `MethodAnalysis.definite_values`: **what is definitely null is null, and what is definitely not
  null is not**, for variables that have no value before something is stored in them;
* `MethodAnalysis.definite_values_unstored`: variables that have a value from the start may differ.
-/

namespace Nullness

open Machine

namespace NullModel

open Nullness.Frame ValueNumbering

variable [DescriptorReader] {g : FlowGraph} {m : NullModel g} {entry : NullFrame} {numLocals : Nat}
  {sv : Solution g OriginFact Unit} {s : Solution g NullFrame (BranchDecision Nullity)}
  {order : List ValueOrigin}

/-! ### From point to point -/

/-- At a point of an execution, the frame of value numbering models the state, and the nullness frame
describes it under the same meaning. What has just been tested is settled. -/
structure Follows (m : NullModel g) (entry : NullFrame) (numLocals : Nat)
    (sv : Solution g OriginFact Unit) (s : Solution g NullFrame (BranchDecision Nullity))
    (order : List ValueOrigin) (b : g.Node) (index : Nat) (pick : Option EdgeKind)
    (σ : State Cell) (ρ : ValueOrigin → Cell) (f : ValueFrame ValueOrigin) : Prop where
  point : At g numLocals entry.maxStack sv b index f
  models : f.Models ρ σ
  describes : ((m.analysis entry).factAt s b index).Describes (meaningOf order ρ) σ
  tested : opBefore? g b index = some .instanceOf →
    InstanceTested m b (index - 1) ((m.analysis entry).factAt s b (index - 1))
      (meaningOf order ρ) σ
  settled : index = (g.instructions b).length → ∀ d, s.decision b = some d →
    Settled m b (meaningOf order ρ) σ d pick

variable {b : g.Node} {index : Nat} {pick : Option EdgeKind} {σ σ' : State Cell}
  {ρ : ValueOrigin → Cell} {f : ValueFrame ValueOrigin}

section

variable (hn : Numbers m.numbers numLocals entry.maxStack sv order)
  (hsolve : (m.analysis entry).solve = .ok s)

include hn

lemma numbered_of_models {ρ : ValueOrigin → Cell} (hindex : index ≤ (g.instructions b).length)
    (hf : At g numLocals entry.maxStack sv b index f) (hm : f.Models ρ σ) :
    Numbered m b index (meaningOf order ρ) σ := by
  exact ⟨f.map (numberOf order), (hn.factAt?_eq_some_iff hindex).2 ⟨f, hf, rfl⟩,
    models_numbered hm fun a ha => hn.mem_order hindex hf ha⟩

include hsolve

omit hn in
/-- The frame at a point has the room on the stack that the frame on entry has. -/
lemma maxStack_factAt (hindex : index ≤ (g.instructions b).length)
    (hvalid : ((m.analysis entry).factAt s b index).valid = true) :
    ((m.analysis entry).factAt s b index).maxStack = entry.maxStack :=
  (FlowAnalysis.solve_live pointInvariant_shaped isTop_top hsolve b index hindex
    (isTop_eq_false_iff.2 hvalid)).2

omit hn in
/-- The decision at the end of a block that has instructions. -/
lemma decision_eq (hlen : (g.instructions b).length = index + 1)
    (hvalid : ((m.analysis entry).factAt s b (index + 1)).valid = true) :
    s.decision b = m.decide b ((m.analysis entry).factAt s b index)
      (if index = 0 then none else some ((m.analysis entry).factAt s b (index - 1))) := by
  have hcons := FlowAnalysis.solve_consistent isTop_top hsolve
  rw [Solution.decision, hcons b]
  apply FlowAnalysis.through_decision _ hlen
  rw [FlowAnalysis.through_result, hlen]
  exact isTop_eq_false_iff.2 hvalid

omit hn in
lemma decision_eq_none (hlen : (g.instructions b).length = 0) : s.decision b = none := by
  have hcode := List.eq_nil_of_length_eq_zero hlen
  rw [Solution.decision, FlowAnalysis.solve_consistent isTop_top hsolve b, FlowAnalysis.through,
    hcode]
  exact ite_self none

/-- From a point to the next one in a block. -/
lemma Follows.step {i : Instruction}
    (h : Follows m entry numLocals sv s order b index pick σ ρ f)
    (hfresh : ∀ k, .produced b index k ∉ f.labels)
    (hunknown : ∀ k, ¬ KnowsLabel m entry order s b index (.produced b index k))
    (hi : (g.instructions b)[index]? = some i) (hcomp : Completes m entry.maxStack b i.op σ σ')
    (hassigned : none ∉ σ.stack)
    (hloaded : ∀ count slots, argumentLoads b index count = some slots → count ≤ σ.stack.length →
      slots.map (σ.locals[·]?) = (σ.stack.take count).map some) :
    ∃ ρ' f', Follows m entry numLocals sv s order b (index + 1)
      (picked? (opBefore? g b index) i.op σ.stack) σ' ρ' f' := by
  have hlt : index < (g.instructions b).length := (List.getElem?_eq_some_iff.1 hi).1
  obtain ⟨f', ρ', hf', -, hagree, hm'⟩ := models_step hi h.point h.models hfresh hcomp.exec
  -- everything is read under the meaning that holds afterwards
  have hm : f.Models ρ' σ := h.models.congr fun a ha => hagree a (by
    rintro ⟨_, k, _, _, rfl⟩
    exact hfresh k ha)
  have hdescribes : ((m.analysis entry).factAt s b index).Describes (meaningOf order ρ') σ := by
    refine h.describes.congr fun number hknows => meaningOf_congr fun a ha hnumber => ?_
    refine hagree a ?_
    rintro ⟨_, k, _, _, rfl⟩
    exact hunknown k ⟨ha, hnumber ▸ hknows⟩
  have hbefore := numbered_of_models hn hlt.le h.point hm
  obtain ⟨f₁, hyields, h₁⟩ := describes_apply hcomp hdescribes
    (maxStack_factAt hsolve hlt.le hdescribes.valid) hbefore
    (numbered_of_models hn hlt hf' hm') hassigned hloaded
  have hnext : (m.analysis entry).factAt s b (index + 1) = f₁ :=
    within_succ hi hdescribes.valid hyields
  have hdescribes' := h₁
  rw [← hnext] at hdescribes'
  refine ⟨ρ', f', hf', hm', hdescribes', fun hop => ?_, fun hlen d hd => ?_⟩
  · have hop : i.op = .instanceOf := by
      simpa [opBefore?, FlowGraph.ops, hi] using hop
    have hmakes := hcomp.makes
    rw [hop] at hmakes
    exact instanceTested hdescribes hbefore hassigned hmakes
  · rw [decision_eq hsolve hlen.symm hdescribes'.valid] at hd
    obtain ⟨count, heffect, -⟩ := decide_isTest hlen.symm hi hcomp.exec hd
    -- a test leaves no result, so no label has changed its meaning
    obtain rfl : ρ' = ρ := funext fun a => hagree a <| by
      rintro ⟨effect, k, heffect', hk, -⟩
      rw [heffect, Except.ok.injEq] at heffect'
      subst heffect'
      exact Nat.not_lt_zero k hk
    refine NullModel.settled hlen.symm hi hdescribes hbefore hassigned hcomp.exec
      (fun hop f₀ hf₀ => ?_) hd
    split at hf₀
    · cases hf₀
    · cases hf₀
      exact h.tested hop

/-- The frame that an edge carries describes the state that crosses it. -/
lemma Follows.carried {e : g.Arc} {f' : ValueFrame ValueOrigin} {ρ' : ValueOrigin → Cell}
    (h : Follows m entry numLocals sv s order e.source (g.instructions e.source).length pick σ ρ f)
    (hkind : e.kind.isException = false) (hpick : ∀ kind, pick = some kind → e.kind = kind)
    (hf' : At g numLocals entry.maxStack sv e.target 0 f') (hjoined : Joined e.target f f')
    (hm' : f'.Models ρ' σ) :
    ∃ carried, (m.analysis entry).carried? e (s.table.get e.source) = some carried ∧
      carried.Describes (meaningOf order ρ) σ := by
  have hresult : (s.table.get e.source).result
      = (m.analysis entry).factAt s e.source (g.instructions e.source).length :=
    (FlowAnalysis.solve_consistent isTop_top hsolve).result e.source
  have hdescribes := h.describes
  rw [← hresult] at hdescribes
  have htop : (m.analysis entry).isTop (s.table.get e.source).result = false :=
    isTop_eq_false_iff.2 hdescribes.valid
  unfold FlowAnalysis.carried?
  rw [if_neg (by rw [htop]; decide)]
  cases hd : (s.table.get e.source).decision with
  | none => exact ⟨_, rfl, hdescribes⟩
  | some d =>
      have htarget : ∀ numbers, m.numbers.startFact? e.target = some numbers →
          (∃ ν', numbers.Models ν' σ) ∧ ∀ l number, numbers.available? l = some number →
            σ.heap (l.map (meaningOf order ρ)) = meaningOf order ρ number := by
        intro numbers hnumbers
        obtain ⟨_, hnumbers', hmodels⟩ := numbered_of_models hn (Nat.zero_le _) hf' hm'
        obtain rfl := Option.some.inj (hnumbers'.symm.trans hnumbers)
        refine ⟨⟨_, hmodels⟩, fun l number hl => ?_⟩
        rw [hn.factAt? (Nat.zero_le _), show _ = some f' from hf'] at hnumbers'
        obtain rfl := Option.some.inj hnumbers'
        obtain ⟨l, label, hl', rfl, rfl⟩ := ValueFrame.available?_map hl
        -- the load was available in front of the edge, under the same label
        exact load_numbered h.models (fun a ha => hn.mem_order le_rfl h.point ha)
          (hjoined.loads l label hl')
      have hrefined := describes_refine hdescribes (h.settled rfl d hd) hpick htarget
      have heq : (m.analysis entry).refine e d (s.table.get e.source).result
          = m.refine e d (s.table.get e.source).result := by simp [analysis, hkind]
      simp only [heq]
      have htop' : (m.analysis entry).isTop (m.refine e d (s.table.get e.source).result) = false :=
        isTop_eq_false_iff.2 hrefined.valid
      rw [if_neg (by rw [htop']; decide)]
      exact ⟨_, rfl, hrefined⟩

/-- From the end of a block to the start of the next one. -/
lemma Follows.jump {e : g.Arc} (he : e ∈ g.edges)
    (h : Follows m entry numLocals sv s order e.source (g.instructions e.source).length pick σ ρ f)
    (hreach : g.Reachable e.source) (hkind : e.kind.isException = false)
    (hpick : ∀ kind, pick = some kind → e.kind = kind)
    (hstray : ∀ f' slot, At g numLocals entry.maxStack sv e.target 0 f' →
      ¬ StrayIn e.target f' (.merge e.target slot))
    (hunknown : Carries m entry numLocals entry.maxStack sv s e → ∀ slot,
      ¬ KnowsLabel m entry order s e.target 0 (.merge e.target slot)) :
    Carries m entry numLocals entry.maxStack sv s e ∧
      ∃ ρ' f', Follows m entry numLocals sv s order e.target 0 none σ ρ' f' := by
  have hcrossed : Crossed g numLocals entry.maxStack sv e := ⟨hkind, hreach, f, h.point⟩
  obtain ⟨f', ρ', hf', hjoined, hagree, hm'⟩ :=
    models_jump hn.solve he hcrossed h.point h.models hstray
  obtain ⟨carried, hcarried, hdescribes⟩ := h.carried hn hsolve hkind hpick hf' hjoined hm'
  have hcarries : Carries m entry numLocals entry.maxStack sv s e := ⟨hcrossed, carried, hcarried⟩
  have hbelow := FlowAnalysis.flow_bound pointInvariant_shaped joinBound_below isTop_top hsolve he
    hreach (.normal hkind hcarried)
  have hstart : ((m.analysis entry).factAt s e.target 0).Describes (meaningOf order ρ') σ := by
    rw [FlowAnalysis.factAt_eq_within, FlowAnalysis.within_zero]
    refine (hdescribes.below hbelow).congr fun number hknows =>
      meaningOf_congr fun a ha hnumber => ?_
    refine hagree a fun ⟨slot, hslot⟩ => hunknown hcarries slot ⟨hslot ▸ ha, ?_⟩
    rw [FlowAnalysis.factAt_eq_within, FlowAnalysis.within_zero]
    rwa [← hslot, hnumber]
  refine ⟨hcarries, ρ', f', hf', hm', hstart, fun hop => ?_, fun hlen d hd => ?_⟩
  · simp [opBefore?] at hop
  · rw [decision_eq_none hsolve hlen.symm] at hd
    cases hd

/-- On entry to the method. -/
lemma follows_entry (hlocals : σ.locals.length = numLocals) (hstack : σ.stack = [])
    (hdescribes : ∀ ν, entry.Describes ν σ)
    (hstray : ∀ f' slot, At g numLocals entry.maxStack sv g.entry 0 f' →
      ¬ StrayIn g.entry f' (.merge g.entry slot)) :
    ∃ ρ f, Follows m entry numLocals sv s order g.entry 0 none σ ρ f := by
  obtain ⟨f, ρ, hf, hm⟩ := models_entry hn.solve hlocals hstack hstray
  have hbelow := FlowAnalysis.entry_bound pointInvariant_shaped joinBound_below isTop_top hsolve
    (Below.refl (hdescribes (meaningOf order ρ)).valid)
  refine ⟨ρ, f, hf, hm, ?_, fun hop => ?_, fun hlen d hd => ?_⟩
  · rw [FlowAnalysis.factAt_eq_within, FlowAnalysis.within_zero]
    exact (hdescribes _).below hbelow
  · simp [opBefore?] at hop
  · rw [decision_eq_none hsolve hlen.symm] at hd
    cases hd

/-! ### Along an execution -/

/-- Both analyses follow an execution to every point that it comes to. -/
lemma follows {first : State Cell} (hlocals : first.locals.length = numLocals)
    (hstack : first.stack = []) (hdescribes : ∀ ν, entry.Describes ν first)
    (hknown : ∀ n, ¬ entry.Knows n)
    (hrun : Execution m entry.maxStack first b index pick σ) :
    (∃ n, Walk g (fun b index => (∃ f, At g numLocals entry.maxStack sv b index f) ∧
          ((m.analysis entry).factAt s b index).valid = true)
        (Carries m entry numLocals entry.maxStack sv s) n b index) ∧
      ∃ ρ f, Follows m entry numLocals sv s order b index pick σ ρ f := by
  have hbirths := births hn hsolve (hdescribes fun _ => none).valid hknown
  have hlabels := ValueNumbering.births hn.solve
  induction hrun with
  | entry =>
      refine ⟨⟨0, .entry⟩,
        follows_entry hn hsolve hlocals hstack hdescribes fun f' slot hf' hs => ?_⟩
      exact hlabels.not_stray .entry slot ⟨f', hf', hs⟩
  | @step b index pick i σ σ' hrun hi hcomp ih =>
      obtain ⟨⟨n, hwalk⟩, ρ, f, hfollows⟩ := ih
      have hnew := fun k => hbirths.not_mentioned hwalk k
      obtain ⟨ρ', f', hfollows'⟩ := hfollows.step hn hsolve
        (fun k hk => hnew k (.inl ⟨f, hfollows.point, hk⟩)) (fun k hk => hnew k (.inr hk)) hi hcomp
        (hrun.assigned hstack) fun count slots hslots hcount =>
          hrun.loaded_arguments hstack hslots hcount
      have hlt := (List.getElem?_eq_some_iff.1 hi).1
      exact ⟨⟨n + 1, .step hwalk hlt ⟨⟨f', hfollows'.point⟩, hfollows'.describes.valid⟩⟩,
        ρ', f', hfollows'⟩
  | @jump e pick σ _ he hkind hpick ih =>
      obtain ⟨⟨n, hwalk⟩, ρ, f, hfollows⟩ := ih
      have hcrossed : Crossed g numLocals entry.maxStack sv e :=
        ⟨hkind, hwalk.reachable, f, hfollows.point⟩
      obtain ⟨hcarries, hfollows'⟩ := hfollows.jump hn hsolve he hwalk.reachable hkind hpick
        (fun f' slot hf' hs => hlabels.not_stray
          (.jump (hwalk.mono (fun _ _ h => h.1) fun _ h => h.1) he hcrossed) slot ⟨f', hf', hs⟩)
        (fun hcarries slot hknows =>
          hbirths.not_stray (.jump hwalk he hcarries) slot (.inr hknows))
      exact ⟨⟨n + 1, .jump hwalk he hcarries⟩, hfollows'⟩

end

end NullModel

namespace MethodAnalysis

section

variable [DescriptorReader] {ctx : AnalysisContext} {c : ClassDecl} {method : Method}
  {a : MethodAnalysis}

/-! ### Methods -/

/-- What the analysis of a method is put together from. -/
lemma ofMethod_parts (h : ofMethod ctx c method = .ok a) :
    a.model.config = ctx.config ∧ a.model.hierarchy = ctx.hierarchy ∧
      ValueTable.ofGraph a.graph method.maxLocals method.maxStack = .ok a.model.numbers ∧
      entryFrame ctx.hierarchy (c.idOf method) method = .ok a.entry ∧
      (a.model.analysis a.entry).solve = .ok a.solution := by
  obtain ⟨-, -, -, hnumbers, -, hmodel, -, hentry, hsolve⟩ := ofMethod_eq_ok_iff.1 h
  exact ⟨congrArg NullModel.config hmodel, congrArg NullModel.hierarchy hmodel,
    (ValueTable.compute_eq_ok_iff.1 hnumbers).2.2, hentry,
    ((a.model.analysis a.entry).execute_eq_ok_iff.1 hsolve).2⟩

/-- **What is definitely null is null, and what is definitely not null is not.** Wherever an execution
comes to, the frame there is valid and has the shape of the state, and the definite values in it are
right. The variables beside the receiver and the parameters have no value on entry. -/
theorem definite_values (h : ofMethod ctx c method = .ok a) {first σ : State Cell}
    (henters : Enters ctx.hierarchy (c.idOf method) method first)
    (honly : ParametersOnly method first) {b : a.graph.Node} {index : Nat} {pick : Option EdgeKind}
    (hrun : Execution a.model method.maxStack first b index pick σ) :
    (a.factAt b index).valid = true ∧ (a.factAt b index).numLocals = σ.locals.length ∧
      (a.factAt b index).depth = σ.stack.length ∧
      ∀ (slot : Nat) (v : Nullity) (y : Value), (a.factAt b index).slots[slot]? = some v →
        σ.slots[slot]? = some (some y) →
        (v.isDefinitelyNull = true → y = .null) ∧ (v.isDefinitelyNotNull = true → y ≠ .null) := by
  obtain ⟨-, -, hnumbers, hentry, hsolve⟩ := ofMethod_parts h
  obtain ⟨-, hnum, -, hmax, hknown⟩ := entryFrame_shape hentry
  rw [← hmax] at hnumbers hrun
  obtain ⟨sv, order, hn⟩ := ValueNumbering.numbers_ofGraph hnumbers
  obtain ⟨-, ρ, f, hfollows⟩ := NullModel.follows hn hsolve henters.locals henters.stack
    (describes_entryFrame hentry henters honly) hknown hrun
  have hdescribes : (a.factAt b index).Describes (ValueNumbering.meaningOf order ρ) σ :=
    hfollows.describes
  refine ⟨hdescribes.valid, hdescribes.numLocals_eq, hdescribes.depth_eq, fun slot v y hv hy => ?_⟩
  obtain ⟨-, hnull, hnonNull⟩ := forall₂_getElem? hdescribes.slots hv hy y rfl
  exact ⟨fun hv => hnull (by simpa [Nullity.isDefinitelyNull] using hv), hnonNull⟩

end

/-- A method that stores null in its second variable unless its parameter is null. -/
def shortcut : Method where
  name := "m"
  descriptor := "(LA;)V"
  isPublic := true
  isStatic := true
  isAbstract := false
  returnMark := .unknown
  parameterMarks := []
  maxLocals := 2
  maxStack := 1
  body := some {
    entry := 0
    exit := 3
    blocks := [⟨0, [⟨0, .load 0⟩, ⟨1, .ifNull⟩]⟩, ⟨1, [⟨2, .constNull⟩, ⟨3, .store 1⟩]⟩,
      ⟨2, [⟨4, .return⟩]⟩, ⟨3, []⟩]
    edges := [⟨0, 2, .branch⟩, ⟨0, 1, .fallThrough⟩, ⟨1, 2, .fallThrough⟩, ⟨2, 3, .fallThrough⟩] }
  dereferencedParameters := []

/-- The only class of a program. -/
def shortcutClass : ClassDecl where
  name := "A"
  superName := none
  interfaces := []
  isInterface := false
  isAbstract := false
  isApplication := true
  fields := []
  methods := [shortcut]

/-- The program as the analysis sees it. -/
def shortcutContext : AnalysisContext := ⟨.default, ⟨[shortcutClass]⟩, .empty⟩

/-- The analysis of the method. -/
def shortcutAnalysis : MethodAnalysis :=
  (ofMethod shortcutContext shortcutClass shortcut).toOption.get (by decide +kernel)

lemma ofMethod_shortcut :
    ofMethod shortcutContext shortcutClass shortcut = .ok shortcutAnalysis :=
  eq_ok_get (by decide +kernel)

/-- Any two cells may be in the variables on entry: nothing is told of the parameter. -/
lemma enters_shortcut (v w : Cell) :
    Enters shortcutContext.hierarchy (shortcutClass.idOf shortcut) shortcut
      ⟨[v, w], [], fun _ => none⟩ where
  locals := rfl
  stack := rfl
  receiver h := absurd h (by decide)
  parameters d hd i t slot ht _ _ hmark := by
    have hparse : MethodDescriptor.parse shortcut.descriptor = .ok ⟨[.object ['A']], .void⟩ := by
      decide +kernel
    obtain rfl := Except.ok.inj (hparse.symm.trans hd)
    obtain rfl : i = 0 := Nat.lt_one_iff.1 (List.getElem?_eq_some_iff.1 ht).1
    exact absurd hmark (by decide +kernel)

/-- An instruction of which nothing is assumed completes when the stack has room. -/
lemma completes_plain [DescriptorReader] {g : FlowGraph} {m : NullModel g} {maxStack : Nat}
    {b : g.Node} {op : Opcode}
    {s s' : State Cell} (h : Exec op s s') (hroom : s'.stack.length ≤ maxStack)
    (hassigned : none ∉ s'.stack) (hmakes : Makes op s.stack s'.stack)
    (hreceiver : receiver? op s.stack = none) (htold : ¬ ToldNonNull m op)
    (hcall : ∀ call, op ≠ .invoke call) : Completes m maxStack b op s s' where
  exec := h
  room := hroom
  assigned := hassigned
  receiver := by rw [hreceiver]; exact nofun
  makes := hmakes
  told h := absurd h htold
  trusted call h := absurd h (hcall call)

/-- The null test at the start of the method, which leaves the variables as they are. -/
lemma tested_shortcut (v : Value) (w : Cell) :
    Execution shortcutAnalysis.model 1 ⟨[some v, w], [], fun _ => none⟩ ⟨0, by decide +kernel⟩ 2
      (some (if v = .null then .branch else .fallThrough)) ⟨[some v, w], [], fun _ => none⟩ := by
  have h : Execution shortcutAnalysis.model 1 ⟨[some v, w], [], fun _ => none⟩
      shortcutAnalysis.graph.entry 0 none ⟨[some v, w], [], fun _ => none⟩ := .entry
  have h := h.step (i := ⟨0, .load 0⟩) (by decide +kernel)
    (completes_plain ⟨some v, rfl, rfl⟩ le_rfl (by simp [State.withStack]) trivial rfl id (by simp))
  have h := h.step (i := ⟨1, .ifNull⟩) (by decide +kernel)
    (completes_plain ⟨_, [], rfl, le_rfl, rfl, rfl⟩ (Nat.zero_le _) (by simp [State.withStack])
      trivial rfl id (by simp))
  have hpick : (some (if v = .null then EdgeKind.branch else .fallThrough))
      = picked? (opBefore? shortcutAnalysis.graph ⟨0, by decide +kernel⟩ 1) .ifNull [some v] := by
    simp [picked?]
  rw [hpick]
  exact h

/-- Where the method has stored null because its parameter is not null, the frame says both. -/
theorem definite_values_shortcut :
    ∃ a, ofMethod shortcutContext shortcutClass shortcut = .ok a ∧
      ∃ b : a.graph.Node, (a.factAt b 2).slots = [.nonNullProven, .definitelyNull] ∧
        (a.factAt b 2).valid = true ∧ (a.factAt b 2).numLocals = 2 ∧ (a.factAt b 2).depth = 0 ∧
        ∀ (slot : Nat) (v : Nullity) (y : Value), (a.factAt b 2).slots[slot]? = some v →
          [some (Value.reference 1), some .null][slot]? = some (some y) →
          (v.isDefinitelyNull = true → y = .null) ∧
            (v.isDefinitelyNotNull = true → y ≠ .null) := by
  have h := tested_shortcut (.reference 1) none
  have h := Execution.jump (e := ⟨⟨0, by decide +kernel⟩, ⟨1, by decide +kernel⟩, .fallThrough⟩)
    h (by decide +kernel) rfl fun _ hpick => Option.some.inj hpick
  have h := h.step (i := ⟨2, .constNull⟩) (by decide +kernel)
    (completes_plain ⟨_, [some .null], rfl, Nat.zero_le 0, rfl, rfl⟩ le_rfl
      (by simp [State.withStack]) rfl rfl id (by simp))
  have h := h.step (i := ⟨3, .store 1⟩) (by decide +kernel)
    (completes_plain ⟨some .null, [], rfl, Nat.one_lt_two, rfl⟩ (Nat.zero_le 1) (by simp) trivial rfl
      id (by simp))
  have honly : ParametersOnly shortcut ⟨[some (.reference 1), none], [], fun _ => none⟩ := by
    intro d hd slot hslot _ hnot
    have hparse : MethodDescriptor.parse shortcut.descriptor = .ok ⟨[.object ['A']], .void⟩ := by
      decide +kernel
    obtain rfl := Except.ok.inj (hparse.symm.trans hd)
    have hzero : slot ≠ 0 := fun hzero => hnot (by rw [hzero]; decide)
    obtain rfl : slot = 1 := by simp at hslot; omega
    rfl
  exact ⟨shortcutAnalysis, ofMethod_shortcut, _, by decide +kernel,
    definite_values ofMethod_shortcut (enters_shortcut _ _) honly h⟩

/-- A variable that has a value on entry keeps it where the method skips its only store, and yet it
is said to be null. -/
theorem definite_values_unstored :
    ∃ a, ofMethod shortcutContext shortcutClass shortcut = .ok a ∧
      ∃ first : State Cell, Enters shortcutContext.hierarchy (shortcutClass.idOf shortcut) shortcut
          first ∧ none ∉ first.locals ∧
        ∃ (b : a.graph.Node) (σ : State Cell),
          Execution a.model shortcut.maxStack first b 0 none σ ∧
            (a.factAt b 0).slots[1]? = some .definitelyNull ∧
            σ.slots[1]? = some (some (.reference 1)) := by
  have h := tested_shortcut .null (some (.reference 1))
  have h := Execution.jump (e := ⟨⟨0, by decide +kernel⟩, ⟨2, by decide +kernel⟩, .branch⟩)
    h (by decide +kernel) rfl fun _ hpick => Option.some.inj hpick
  exact ⟨shortcutAnalysis, ofMethod_shortcut, _, enters_shortcut _ _, by simp, _, _, h,
    by decide +kernel, rfl⟩

end MethodAnalysis

end Nullness
