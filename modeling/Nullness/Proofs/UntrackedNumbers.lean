import Mathlib.Data.List.Forall2
import Mathlib.Tactic
import Nullness.Descriptor.Reader
import Nullness.Proofs.EntryFrame
import Nullness.Proofs.Isolation
import Nullness.Proofs.LocationQueries
import Nullness.Proofs.NullFacts

/-!
# Analyses without congruence classes

Congruence classes serve to know values by class, to find the arguments that a call needs, and to
tighten what was dereferenced. An analysis that does not use them still decides branches by them,
and a branch may write down what is known of the class of a load at its target; but the edge forgets
it.

* `FlowAnalysis.FactInvariant`: what the steps, edges and joins of an analysis keep of any fact;
* `FlowAnalysis.FactInvariant.solve`: **all facts of a solution have it, reached or not;**
* `NullModel.factInvariant_knowsNothing`: without congruence classes, to know no value is kept;
* `Program.EqualButDereferenced`: the same program but for the parameters that methods dereference;
* `NullModel.analysis_untracked`: **without congruence classes, dereferences make no difference;**
* `MethodAnalysis.untracked_facts`: **without congruence classes no value is known of any, and
  dereferences make no difference to the facts.**
-/

namespace Nullness

/-! ### What holds of all facts -/

namespace FlowAnalysis

variable {g : FlowGraph} {Fact Decision : Type}

/-- A property that all facts of an analysis have, top or not, because what the analysis starts from
has it and its steps, edges and joins keep it. -/
structure FactInvariant (A : FlowAnalysis g Fact Decision) (Q : Fact → Prop) : Prop where
  top : Q A.top
  entry : Q A.entry
  step : ∀ {b index i f f'}, A.isTop f = false → Q f → A.step b index i f = .ok f' → Q f'
  refine : ∀ {e d f}, Q f → Q (A.refine e d f)
  handler : ∀ {e f f'}, Q f → A.enterHandler e f = .ok f' → Q f'
  join : ∀ {e sofar f f'}, Q sofar → Q f → A.join e sofar f = .ok f' → Q f'

namespace FactInvariant

variable {A : FlowAnalysis g Fact Decision} {Q : Fact → Prop} (hQ : A.FactInvariant Q)
  {t : FactTable g Fact Decision} {e : g.Arc} {f : Fact}

include hQ

/-- From the start of a block to every point in it. -/
lemma within {b : g.Node} {start : Fact} (hstart : Q start) (index : Nat) :
    Q (A.within b start index) := by
  induction index with
  | zero => rwa [within_zero]
  | succ index ih =>
      cases hi : (g.instructions b)[index]? with
      | none =>
          have hlen : (g.instructions b).length ≤ index := List.getElem?_eq_none_iff.1 hi
          rwa [A.within_of_length_le (hlen.trans (Nat.le_succ index)), ← A.within_of_length_le hlen]
      | some i =>
          rw [A.within_succ hi]
          cases htop : A.isTop (A.within b start index) with
          | true => exact ih
          | false =>
              rw [if_neg (by decide), advance]
              split
              · next hstep => exact hQ.step htop ih hstep
              · exact hQ.top

/-- What edges bring from facts with the property has it as well. -/
lemma brings (hcons : A.Consistent t) (hstarts : ∀ b, Q (t.get b).start) (hf : A.Brings t e f) :
    Q f := by
  cases hf with
  | normal _ hcarried =>
      have hresult : Q (t.get e.source).result :=
        hcons.result e.source ▸ hQ.within (hstarts e.source) _
      rw [carried?] at hcarried
      split at hcarried
      · cases hcarried
      split at hcarried
      · exact Option.some.inj hcarried ▸ hresult
      · simp only at hcarried
        split at hcarried
        · cases hcarried
        · exact Option.some.inj hcarried ▸ hQ.refine hresult
  | thrown _ hx _ henter _ =>
      obtain ⟨index, -, rfl⟩ := hcons.thrown hx
      exact hQ.handler (hQ.within (hstarts e.source) index) henter

lemma initial (b : g.Node) : Q (A.initial b) := by
  rw [FlowAnalysis.initial]
  split
  · exact hQ.entry
  · exact hQ.top

/-- **All facts of a solution have the property,** also those of blocks that are never reached. -/
theorem solve [DecidableEq Fact] {s : Solution g Fact Decision} (htop : A.isTop A.top = true)
    (hhandler : ∀ e x f, A.isTop x = false → A.enterHandler e x = .ok f → A.isTop f = false)
    (h : A.solve = .ok s) (b : g.Node) (index : Nat) : Q (A.factAt s b index) := by
  have hvisit : ∀ t b start, (A.Consistent t ∧ ∀ b, Q (t.get b).start) →
      A.startOf t b = .ok start → A.Consistent (t.set b (A.through b start) b.isLt) ∧
        ∀ c, Q ((t.set b (A.through b start) b.isLt).get c).start := by
    rintro t b start ⟨hcons, hstarts⟩ hstart
    refine ⟨hcons.set b start, fun c => ?_⟩
    by_cases hc : c = b
    · subst hc
      rw [get_set_self, through_start]
      exact startOf_keeps hhandler (fun e _ _ f hf _ _ hsofar hjoin =>
        hQ.join hsofar (hQ.brings hcons hstarts hf) hjoin) (hQ.initial c) hstart
    · rw [get_set_of_ne t _ hc]
      exact hstarts c
  have hfirst : ∀ b, Q (A.initialTable.get b).start := fun b => by
    rw [get_initialTable]
    exact hQ.top
  obtain ⟨-, hstarts⟩ := iterate_keeps hvisit ⟨consistent_initialTable htop, hfirst⟩ h
  exact hQ.within (hstarts b) index

end FactInvariant

end FlowAnalysis

/-! ### Facts that know nothing -/

namespace Frame

variable {V : Type} {f f' : Frame V}

/-- The frame knows no value of any class. -/
def KnowsNothing (f : Frame V) : Prop := ∀ n, ¬ f.Knows n

lemma knowsNothing_iff : f.KnowsNothing ↔ f.known = .empty := by
  constructor
  · intro h
    refine SortedMap.ext_get? fun n => ?_
    rw [SortedMap.get?_empty]
    exact Option.not_isSome_iff_eq_none.1 (h n)
  · rintro h n hn
    rw [Knows, knownValue?, h] at hn
    cases hn

lemma Kept.knowsNothing (h : Kept f f') (hf : f.KnowsNothing) : f'.KnowsNothing :=
  fun n hn => hf n (h.known n hn)

end Frame

namespace NullModel

open Nullness.Frame

variable {g : FlowGraph} {m : NullModel g} {b : g.Node} {index : Nat} {op : Opcode}
  {f f' : NullFrame}

/-- The model with the option set that says whether dereferences tell something. -/
def withDereferences (m : NullModel g) (d : Bool) : NullModel g :=
  { m with config := { m.config with modelDereferences := d } }

section

variable (htrack : m.config.trackValueNumbers = false)
include htrack

/-- Without congruence classes no instruction lets a class be known. -/
lemma learned?_untracked : m.learned? b index op = none := by
  have hresult : m.resultNumber? b index = none := by
    rw [resultNumber?, htrack]
    rfl
  have hstored : ∀ load, m.storedNumber? b index load = none := fun load => by
    rw [storedNumber?, htrack]
    rfl
  unfold learned?
  split
  · exact hstored _
  · exact hstored _
  · exact hstored _
  · exact hresult

/-- Without congruence classes nothing is known after an instruction either. A call is never given
up. -/
lemma knowsNothing_apply [DescriptorReader] (hvalid : f.valid = true) (hf : f.KnowsNothing)
    (h : Yields (m.apply b index op f) f') : f'.KnowsNothing := by
  obtain ⟨f₀, h₀, rfl⟩ := (yields_apply hvalid).1 h
  have hguarded : ∀ call, op = .invoke call → m.guarded b index call f ≠ .ok none := by
    rintro call -
    rw [guarded, htrack]
    exact nofun
  have hf₀ : f₀.KnowsNothing := fun n hn => by
    rcases (applied_applyOp h₀ hguarded).known n hn with hn | hlearned
    · exact hf n hn
    · rw [learned?_untracked htrack] at hlearned
      cases hlearned
  split
  · exact ((tightened_afterDereference _ _).kept.trans (kept_afterAssertion _ _)).knowsNothing hf₀
  · exact hf₀

/-- **Without congruence classes nothing is ever known.** What a branch writes as known is forgotten
before its edge is crossed. -/
theorem factInvariant_knowsNothing [DescriptorReader] {entry : NullFrame}
    (hentry : entry.KnowsNothing) :
    (m.analysis entry).FactInvariant KnowsNothing where
  top _ hn := by cases hn
  entry := hentry
  step htop hf hstep :=
    knowsNothing_apply htrack (isTop_eq_false_iff.1 htop) hf (step_eq_ok_iff.1 hstep)
  refine := by
    intro e d f hf
    change (if e.kind.isException then f else m.refine e d f).KnowsNothing
    split
    · exact hf
    · rw [NullModel.refine, htrack]
      intro n hn
      cases hn
  handler hf henter := by
    obtain ⟨-, rfl⟩ := resetStackTo_eq_ok_iff.1 henter
    exact hf
  join := by
    intro e sofar f f' hsofar hf hjoin
    rcases merge_eq_ok_iff.1 hjoin with ⟨-, rfl⟩ | ⟨-, -, rfl⟩ | ⟨-, hvalid, hfits, rfl⟩
    · exact hsofar
    · exact hf
    · exact fun n hn => hsofar n ((below_joinCells hvalid hfits).1.knows hn)

/-- Without congruence classes a dereference tells nothing, whether it is asked to or not. -/
lemma apply_withDereferences [DescriptorReader] (d : Bool) :
    (m.withDereferences d).apply = m.apply := by
  have hnone : ∀ m : NullModel g, m.config.trackValueNumbers = false → ∀ b index op f,
      m.dereferencedClass? b index op f = none := by
    intro m htrack b index op f
    rw [dereferencedClass?, htrack, Bool.not_false, Bool.or_true]
    rfl
  funext b index op f
  have hop : (m.withDereferences d).applyOp b index op f = m.applyOp b index op f := by
    cases op <;> rfl
  rw [apply, apply, hop, hnone _ htrack, hnone (m.withDereferences d) htrack]
  rfl

end

end NullModel

/-! ### Other dereferenced parameters -/

/-- A method without the parameters that it dereferences. -/
def Method.dropDereferenced (m : Method) : Method := { m with dereferencedParameters := [] }

/-- Two methods that are the same but for the parameters that they dereference. -/
def Method.EqualButDereferenced (m m' : Method) : Prop :=
  m.dropDereferenced = m'.dropDereferenced

/-- Two classes that are the same but for the parameters that their methods dereference. -/
structure ClassDecl.EqualButDereferenced (c c' : ClassDecl) : Prop where
  rest_eq : { c with methods := c'.methods } = c'
  methods : List.Forall₂ Method.EqualButDereferenced c.methods c'.methods

/-- Two programs that are the same but for the parameters that their methods dereference. -/
def Program.EqualButDereferenced (p p' : Program) : Prop :=
  List.Forall₂ ClassDecl.EqualButDereferenced p.classes p'.classes

lemma ClassDecl.EqualButDereferenced.alike {c c' : ClassDecl} (hc : c.EqualButDereferenced c') :
    c.Alike Method.dropDereferenced c' :=
  alike_of_methods
    (fun _ _ hm => ⟨(congrArg Method.name hm :), (congrArg Method.descriptor hm :)⟩)
    hc.rest_eq hc.methods

lemma Program.EqualButDereferenced.alike {p p' : Program} (hp : p.EqualButDereferenced p') :
    Hierarchy.Alike Method.dropDereferenced ⟨p.classes⟩ ⟨p'.classes⟩ :=
  Hierarchy.alike_of_forall₂ (hp.imp fun _ _ hc => hc.alike)

/-- What comes of summarizing a method is the same, its body being so. -/
lemma outcome_eq [DescriptorReader] {c c' : ClassDecl} {m m' : Method}
    (hc : c.EqualButDereferenced c')
    (hm : m.EqualButDereferenced m') :
    (c.idOf m, summaryOf? c m) = (c'.idOf m', summaryOf? c' m') := by
  have heligible : isEligible c m = isEligible c' m := by
    rw [← hc.rest_eq]
    rfl
  calc (c.idOf m, summaryOf? c m)
    _ = (c'.idOf m, summaryOf? c' m) := by
      rw [ClassDecl.idOf, ClassDecl.idOf, hc.alike.name_eq, summaryOf?_congr heligible]
    _ = (c'.idOf m.dropDereferenced, summaryOf? c' m.dropDereferenced) := rfl
    _ = (c'.idOf m'.dropDereferenced, summaryOf? c' m'.dropDereferenced) := by rw [hm]
    _ = (c'.idOf m', summaryOf? c' m') := rfl

lemma Program.EqualButDereferenced.summaries_eq [DescriptorReader] {p p' : Program}
    (hp : p.EqualButDereferenced p') :
    summaries p = summaries p' := by
  have hbodies : List.Forall₂ (fun x x' => x.1.EqualButDereferenced x'.1 ∧
      x.2.EqualButDereferenced x'.2) p.bodies p'.bodies := by
    refine List.rel_flatMap hp fun c c' hc => List.rel_map (fun m m' hm => ⟨hc, hm⟩) ?_
    refine List.rel_filter (fun m m' hm => ?_) hc.methods
    have hbody : m.body = m'.body := (congrArg Method.body hm :)
    exact iff_of_eq (congrArg (·.isSome = true) hbody)
  have houtcomes : p.outcomes = p'.outcomes :=
    map_eq_map_of_forall₂ (fun _ _ hx => outcome_eq hx.1 hx.2) hbodies
  have hentries : (summaries p).entries = (summaries p').entries := SortedMap.ext_get? fun id => by
    rw [get?_summaries, get?_summaries, houtcomes]
  exact congrArg SummaryStore.mk hentries

namespace NullModel

variable {g : FlowGraph} {m : NullModel g} {h : Hierarchy}
  (htrack : m.config.trackValueNumbers = false)
include htrack

/-- Without congruence classes the parameters that methods dereference are not asked for. -/
lemma agrees_untracked (hh : m.hierarchy.Alike Method.dropDereferenced h) :
    m.Agrees h m.summaries where
  targets_eq := hh.targets_eq
  fieldMark_eq := hh.fieldMark_eq
  returnMark_eq := hh.returnMark_eq fun _ _ hm => (congrArg Method.returnMark hm :)
  required_eq htracked := absurd htracked (by rw [htrack]; decide)
  summary_eq _ := rfl

/-- **Without congruence classes dereferences make no difference,** neither those of the method nor
those that are declared of other methods. -/
theorem analysis_untracked [DescriptorReader] (hh : m.hierarchy.Alike Method.dropDereferenced h)
    (d : Bool)
    (entry : NullFrame) :
    ((m.withDereferences d).informedBy h m.summaries).analysis entry = m.analysis entry := by
  have hagrees : (m.withDereferences d).Agrees h m.summaries :=
    agrees_untracked (m := m.withDereferences d) htrack hh
  rw [analysis_informedBy hagrees, analysis, analysis, apply_withDereferences htrack]
  rfl

end NullModel

namespace MethodAnalysis

variable {ctx : AnalysisContext} {c : ClassDecl} {method : Method} {a : MethodAnalysis}
  {config : Config} {p p' : Program} {store : SummaryStore} {c' : ClassDecl} {method' : Method}

/-- Without congruence classes the facts of a method know nothing. -/
lemma untracked_factAt [DescriptorReader] (h : ofMethod ctx c method = .ok a)
    (htrack : ctx.config.trackValueNumbers = false) (b : a.graph.Node) (index : Nat) :
    (a.factAt b index).known = .empty := by
  obtain ⟨-, -, -, -, -, hmodel, -, hentry, hsolve⟩ := ofMethod_eq_ok_iff.1 h
  have hconfig : a.model.config = ctx.config := congrArg NullModel.config hmodel
  obtain ⟨-, -, -, -, hknown⟩ := entryFrame_shape hentry
  have hhandler : ∀ e x f, (a.model.analysis a.entry).isTop x = false →
      (a.model.analysis a.entry).enterHandler e x = .ok f →
      (a.model.analysis a.entry).isTop f = false := by
    intro e x f htop henter
    obtain ⟨-, rfl⟩ := NullModel.resetStackTo_eq_ok_iff.1 henter
    exact htop
  exact Frame.knowsNothing_iff.1 <|
    (NullModel.factInvariant_knowsNothing (hconfig ▸ htrack) hknown).solve NullModel.isTop_top
      hhandler ((a.model.analysis a.entry).execute_eq_ok_iff.1 hsolve).2 b index

/-- An analysis looks at the dereferenced parameters of a method through the hierarchy only. -/
lemma ofMethod_equalButDereferenced [DescriptorReader] (hc : c.EqualButDereferenced c')
    (hm : method.EqualButDereferenced method') :
    ofMethod ctx c' method' = ofMethod ctx c method := by
  have hid : c'.idOf method = c.idOf method := by
    rw [ClassDecl.idOf, ClassDecl.idOf, hc.alike.name_eq]
  calc ofMethod ctx c' method'
    _ = ofMethod ctx c' method'.dropDereferenced := rfl
    _ = ofMethod ctx c' method.dropDereferenced := by rw [hm]
    _ = ofMethod ctx c' method := rfl
    _ = ofMethod ctx c method := by rw [ofMethod, ofMethod, hid]

/-- Without congruence classes it makes no difference to the analysis of a method which parameters
are dereferenced, here and elsewhere, nor whether dereferences are modelled. -/
lemma untracked_congr [DescriptorReader]
    (h : ofMethod ⟨config, ⟨p.classes⟩, store⟩ c method = .ok a)
    (htrack : config.trackValueNumbers = false) (d : Bool) (hp : p.EqualButDereferenced p')
    (hc : c.EqualButDereferenced c') (hm : method.EqualButDereferenced method') :
    ∃ model : NullModel a.graph, model.analysis a.entry = a.analysis ∧
      ofMethod ⟨{ config with modelDereferences := d }, ⟨p'.classes⟩, store⟩ c' method'
        = .ok { a with model } := by
  obtain ⟨body, hbody, hg, hnumbers, hchecked, hmodel, hroom, hentry, hsolve⟩ :=
    ofMethod_eq_ok_iff.1 h
  have hconfig : a.model.config = config := congrArg NullModel.config hmodel
  have hhierarchy : a.model.hierarchy = ⟨p.classes⟩ := congrArg NullModel.hierarchy hmodel
  have hsummaries : a.model.summaries = store := congrArg NullModel.summaries hmodel
  have hanalysis :=
    NullModel.analysis_untracked (hconfig ▸ htrack) (hhierarchy ▸ hp.alike) d a.entry
  have hentry' : entryFrame ⟨p'.classes⟩ (c.idOf method) method = .ok a.entry := by
    have hmark := hp.alike.parameterMark_eq fun _ _ hm => (congrArg Method.parameterMarks hm :)
    rw [← hentry, entryFrame_eq hmark]
  refine ⟨_, hanalysis, ?_⟩
  rw [ofMethod_equalButDereferenced hc hm]
  refine ofMethod_eq_ok_iff.2 ⟨body, hbody, hg, hnumbers, hchecked, ?_, hroom, hentry', ?_⟩
  · rw [NullModel.informedBy, NullModel.withDereferences, hconfig, hsummaries]
  · exact (congrArg (fun A => A.execute) hanalysis).trans hsolve

/-- The facts between the instructions of a block are those at its positions. -/
lemma exists_factAt [DescriptorReader] {b : a.graph.Node} {f : NullFrame}
    (hf : f ∈ a.blockFacts b) :
    ∃ index, a.factAt b index = f := by
  obtain ⟨index, hlt, hget⟩ := List.getElem_of_mem hf
  have hlength : (a.blockFacts b).length = (a.graph.instructions b).length + 1 :=
    FlowAnalysis.length_blockFacts a.solution b
  have hfact : (a.blockFacts b)[index]? = some (a.factAt b index) :=
    FlowAnalysis.getElem?_blockFacts _ a.solution b (by omega)
  rw [List.getElem?_eq_getElem hlt, hget] at hfact
  exact ⟨index, (Option.some.inj hfact).symm⟩

/-- **Without congruence classes no value is known of any, and dereferences make no difference.** No
fact of a method that is analysed without them knows the value of a class, be it at the start or the
end of a block or between its instructions. The summaries, the outcome and all these facts are the
same whether dereferences are modelled or not, and whatever parameters the methods of the program
dereference. -/
theorem untracked_facts [DescriptorReader]
    (h : ofMethod ⟨config, ⟨p.classes⟩, store⟩ c method = .ok a)
    (htrack : config.trackValueNumbers = false) :
    (∀ b : a.graph.Node, (a.startFact b).known = .empty ∧
      (a.solution.resultFact b).known = .empty ∧ (∀ f ∈ a.blockFacts b, f.known = .empty) ∧
      ∀ index, (a.factAt b index).known = .empty) ∧
    ∀ (d : Bool) (p' : Program) (c' : ClassDecl) (method' : Method), p.EqualButDereferenced p' →
      c.EqualButDereferenced c' → method.EqualButDereferenced method' →
      summaries p = summaries p' ∧ ∃ model : NullModel a.graph,
        let a' : MethodAnalysis := { a with model }
        ofMethod ⟨{ config with modelDereferences := d }, ⟨p'.classes⟩, store⟩ c' method' = .ok a' ∧
        ∀ b : a.graph.Node, a'.startFact b = a.startFact b ∧
          a'.solution.resultFact b = a.solution.resultFact b ∧ a'.blockFacts b = a.blockFacts b ∧
          ∀ index, a'.factAt b index = a.factAt b index := by
  refine ⟨fun b => ?_, fun d p' c' method' hp hc hm => ?_⟩
  · have hfact := untracked_factAt h htrack b
    obtain ⟨-, -, -, -, -, -, -, -, hsolve⟩ := ofMethod_eq_ok_iff.1 h
    have hcons := FlowAnalysis.solve_consistent NullModel.isTop_top
      (a.analysis.execute_eq_ok_iff.1 hsolve).2
    have hresult : a.solution.resultFact b = a.factAt b (a.graph.instructions b).length :=
      hcons.result b
    refine ⟨hfact 0, hresult ▸ hfact _, fun f hf => ?_, hfact⟩
    obtain ⟨index, rfl⟩ := exists_factAt hf
    exact hfact index
  · obtain ⟨model, hanalysis, hok⟩ := untracked_congr h htrack d hp hc hm
    refine ⟨hp.summaries_eq, model, hok, fun b => ⟨rfl, rfl, ?_, fun index => ?_⟩⟩
    · exact congrArg (fun A => A.blockFacts a.solution b) hanalysis
    · exact congrArg (fun A => A.factAt a.solution b index) hanalysis

/-- A body that compares a field against null and loads it again where it is not null. -/
def reloadingBody : Body := { returningBody with
  blocks := [⟨0, [⟨0, .load 0⟩, ⟨1, .getField ⟨"A", "next", "LA;"⟩⟩, ⟨2, .ifNull⟩]⟩, ⟨1, []⟩,
    ⟨2, [⟨3, .load 0⟩, ⟨4, .getField ⟨"A", "next", "LA;"⟩⟩,
      ⟨5, .invoke ⟨"A", "inspect", "(LA;)V", .static⟩⟩, ⟨6, .return⟩]⟩, ⟨3, [⟨7, .return⟩]⟩]
  edges := [⟨0, 3, .branch⟩, ⟨0, 2, .fallThrough⟩, ⟨2, 1, .fallThrough⟩, ⟨3, 1, .fallThrough⟩] }

/-- A class with that method, which calls another one. -/
def reloadingClass (dereferenced : List Nat) : ClassDecl :=
  applicationClass "A" none [⟨"next", "LA;", false, .unknown⟩]
    [{ staticMethod "inspect" returningBody with dereferencedParameters := dereferenced },
      staticMethod "user" reloadingBody]

/-- Everything is taken into account but congruence classes. -/
def untrackedConfig : Config := { Config.default with trackValueNumbers := false }

/-- The analysis of the method, no parameter of the other one being dereferenced. -/
def reloadingAnalysis : MethodAnalysis :=
  (ofMethod ⟨untrackedConfig, ⟨[reloadingClass []]⟩, .empty⟩ (reloadingClass [])
    (staticMethod "user" reloadingBody)).toOption.get (by decide +kernel)

/-- Where the field is not null the branch writes that down for the class of the second load, and
then forgets it. The facts stay as they are when the called method dereferences its parameter and
dereferences are not modelled. -/
theorem untracked_facts_reloading :
    ofMethod ⟨untrackedConfig, ⟨[reloadingClass []]⟩, .empty⟩ (reloadingClass [])
      (staticMethod "user" reloadingBody) = .ok reloadingAnalysis ∧
    (∃ e ∈ reloadingAnalysis.graph.edges, ∃ d,
      reloadingAnalysis.solution.decision e.source = some d ∧
      (d.apply e.kind (reloadingAnalysis.model.numbers.factAt? e.source 2)
        (reloadingAnalysis.model.numbers.startFact? e.target)
        (reloadingAnalysis.solution.resultFact e.source)).knownValue? 1 = some .nonNullProven) ∧
    (∀ b : reloadingAnalysis.graph.Node, ∀ f ∈ reloadingAnalysis.blockFacts b, f.known = .empty) ∧
    ∃ model : NullModel reloadingAnalysis.graph,
      let a' : MethodAnalysis := { reloadingAnalysis with model }
      ofMethod ⟨{ untrackedConfig with modelDereferences := false }, ⟨[reloadingClass [0]]⟩, .empty⟩
        (reloadingClass [0]) (staticMethod "user" reloadingBody) = .ok a' ∧
      ∀ b : reloadingAnalysis.graph.Node, a'.blockFacts b = reloadingAnalysis.blockFacts b := by
  have h : ofMethod ⟨untrackedConfig, ⟨[reloadingClass []]⟩, .empty⟩ (reloadingClass [])
      (staticMethod "user" reloadingBody) = .ok reloadingAnalysis := eq_ok_get (by decide +kernel)
  have hc : (reloadingClass []).EqualButDereferenced (reloadingClass [0]) :=
    ⟨rfl, .cons rfl (.cons rfl .nil)⟩
  have hp : Program.EqualButDereferenced ⟨[reloadingClass []]⟩ ⟨[reloadingClass [0]]⟩ :=
    .cons hc .nil
  obtain ⟨hknown, hcongr⟩ := @untracked_facts _ _ _ untrackedConfig ⟨[reloadingClass []]⟩ _ _ h rfl
  obtain ⟨-, model, hok, hsame⟩ := hcongr false _ _ _ hp hc rfl
  let e : reloadingAnalysis.graph.Arc :=
    ⟨⟨0, by decide +kernel⟩, ⟨2, by decide +kernel⟩, .fallThrough⟩
  have he : e ∈ reloadingAnalysis.graph.edges := by decide +kernel
  obtain ⟨d, hdecision, hwritten⟩ : ∃ d, reloadingAnalysis.solution.decision e.source = some d ∧
      (d.apply e.kind (reloadingAnalysis.model.numbers.factAt? e.source 2)
        (reloadingAnalysis.model.numbers.startFact? e.target)
        (reloadingAnalysis.solution.resultFact e.source)).knownValue? 1 = some .nonNullProven :=
    Option.bind_eq_some_iff.1 (by decide +kernel)
  exact ⟨h, ⟨e, he, d, hdecision, hwritten⟩, fun b => (hknown b).2.2.1, model, hok,
    fun b => (hsame b).2.2.1⟩

end MethodAnalysis

end Nullness
