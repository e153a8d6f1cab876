import Mathlib.Tactic
import Nullness.Session
import Nullness.Proofs.Declarations

/-!
# Reports of a session

The report on a method draws on its own body, on what the classes of the program declare, and on the
summaries. It is the same for programs that agree in these. The summaries are what comes of
summarizing the methods with a body, one by one; of several methods with one identifier the first
one counts that has a summary.

* `NullModel.informedBy`: a model that is told of other classes and summaries;
* `NullModel.Agrees`: it is told the same wherever it asks;
* `NullModel.analysis_informedBy`: what is told alike is analysed alike;
* `methodReport_congr`: **the report on a method depends on the rest of the program through
  declarations and summaries only;**
* `Program.outcomes`, `get?_summaries`: **which summary a session has of a method.**
-/

namespace Nullness

namespace NullModel

variable {g : FlowGraph} {m : NullModel g} {h : Hierarchy} {s : SummaryStore}

/-- The model with other classes and summaries. -/
def informedBy (m : NullModel g) (h : Hierarchy) (s : SummaryStore) : NullModel g :=
  { m with hierarchy := h, summaries := s }

/-- Other classes and summaries tell a model the same, wherever it asks them. What a call needs of
its arguments is asked only when congruence classes are used. -/
structure Agrees (m : NullModel g) (h : Hierarchy) (s : SummaryStore) : Prop where
  targets_eq : ∀ call, m.hierarchy.targets call = h.targets call
  fieldMark_eq : ∀ field, m.hierarchy.fieldMark field = h.fieldMark field
  returnMark_eq : ∀ id, m.hierarchy.returnMark id = h.returnMark id
  required_eq : m.config.trackValueNumbers = true → ∀ call targets,
    m.hierarchy.requiredParameters call targets = h.requiredParameters call targets
  summary_eq : ∀ id, m.summaries.get id = s.get id

/-- Classes that declare the same tell the same. -/
lemma agrees_of_alike (hh : m.hierarchy.Alike Method.declaration h)
    (hs : ∀ id, m.summaries.get id = s.get id) : m.Agrees h s where
  targets_eq := hh.targets_eq
  fieldMark_eq := hh.fieldMark_eq
  returnMark_eq := hh.returnMark_eq fun _ _ hm => (congrArg Method.returnMark hm :)
  required_eq _ := hh.requiredParameters_eq
    (fun _ _ hm => (congrArg Method.parameterMarks hm :))
    (fun _ _ hm => (congrArg Method.dereferencedParameters hm :))
  summary_eq := hs

lemma loadField_informedBy (ha : m.Agrees h s) (b : g.Node) (index : Nat) (isStatic : Bool)
    (field : FieldRef) (f : NullFrame) :
    (m.informedBy h s).loadField b index isStatic field f
      = m.loadField b index isStatic field f := by
  have hread : (m.informedBy h s).readField b index isStatic field
      = m.readField b index isStatic field := by
    funext f
    unfold readField
    rw [ha.fieldMark_eq]
    rfl
  unfold loadField
  rw [hread]
  rfl

lemma invoke_informedBy [DescriptorReader] (ha : m.Agrees h s) (b : g.Node) (index : Nat)
    (call : CallSite)
    (f : NullFrame) : (m.informedBy h s).invoke b index call f = m.invoke b index call f := by
  have hguard : m.config.trackValueNumbers = true →
      (m.informedBy h s).guardArguments b index call = m.guardArguments b index call := by
    intro htrack
    funext targets f
    unfold guardArguments
    rw [ha.required_eq htrack]
    rfl
  have hsummary : (m.informedBy h s).applySummary b index call = m.applySummary b index call := by
    funext targets f
    unfold applySummary
    rw [ha.summary_eq]
    rfl
  have hreturn : (m.informedBy h s).returnValue b call = m.returnValue b call := by
    funext targets
    unfold returnValue
    simp only [ha.returnMark_eq]
    rfl
  have hfinish : (m.informedBy h s).finishCall b index call = m.finishCall b index call := by
    funext targets f
    unfold finishCall
    rw [hreturn]
    rfl
  have hconfig : (m.informedBy h s).config = m.config := rfl
  unfold invoke
  rw [ha.targets_eq, hsummary, hfinish, hconfig]
  by_cases htrack : m.config.trackValueNumbers = true
  · rw [hguard htrack]
    rfl
  · simp only [if_neg htrack]
    rfl

lemma apply_informedBy [DescriptorReader] (ha : m.Agrees h s) :
    (m.informedBy h s).apply = m.apply := by
  have hop : ∀ b index op f, (m.informedBy h s).applyOp b index op f = m.applyOp b index op f := by
    intro b index op f
    cases op with
    | getField field => exact loadField_informedBy ha ..
    | getStatic field => exact loadField_informedBy ha ..
    | invoke call => exact invoke_informedBy ha ..
    | _ => rfl
  funext b index op f
  unfold apply
  rw [hop]
  rfl

/-- What is told alike is analysed alike. -/
lemma analysis_informedBy [DescriptorReader] (ha : m.Agrees h s) (entry : NullFrame) :
    (m.informedBy h s).analysis entry = m.analysis entry := by
  unfold analysis
  rw [apply_informedBy ha]
  rfl

end NullModel

/-! ### Methods -/

lemma entryFrame_eq [DescriptorReader] {h h' : Hierarchy}
    (hmark : ∀ id i, h.parameterMark id i = h'.parameterMark id i) (id : MethodId) (m : Method) :
    entryFrame h id m = entryFrame h' id m := by
  simp only [entryFrame, entryValue, hmark]

/-- The end of an analysis is reported alike after steps that are the same. -/
lemma ofAnalysis_bind [DescriptorReader] {α : Type} {x : Except Error α}
    {next next' : α → Except Error MethodAnalysis}
    (h : ∀ a, MethodStatus.ofAnalysis (next a) = .ofAnalysis (next' a)) :
    MethodStatus.ofAnalysis (x >>= next) = .ofAnalysis (x >>= next') := by
  cases x with
  | error e => rfl
  | ok a => exact h a

/-- The report on a settled analysis does not tell what the model was told. -/
lemma ofAnalysis_informedBy [DescriptorReader] {g : FlowGraph} {m : NullModel g} {h : Hierarchy}
    {s : SummaryStore}
    (ha : m.Agrees h s) (entry : NullFrame) (solution : Solution g NullFrame (BranchDecision Nullity)) :
    MethodStatus.ofAnalysis (.ok ⟨g, m.informedBy h s, entry, solution⟩) =
      .ofAnalysis (.ok ⟨g, m, entry, solution⟩) := by
  have hblock : blockReport ⟨g, m.informedBy h s, entry, solution⟩ =
      blockReport ⟨g, m, entry, solution⟩ := by
    funext b
    unfold blockReport MethodAnalysis.blockFacts MethodAnalysis.newNullSlot? MethodAnalysis.factAt
      MethodAnalysis.analysis
    simp only [NullModel.apply_informedBy ha, NullModel.analysis_informedBy ha]
  unfold MethodStatus.ofAnalysis
  simp only [hblock, MethodAnalysis.passes]

/-- **The report on a method depends on the rest of the program through declarations and summaries
only.** Of the class of the method only the name matters. -/
theorem methodReport_congr [DescriptorReader] {config : Config} {h h' : Hierarchy}
    {s s' : SummaryStore}
    (hh : h.Alike Method.declaration h') (hs : ∀ id, s.get id = s'.get id) {c c' : ClassDecl}
    (hc : c.name = c'.name) (m : Method) :
    methodReport ⟨config, h', s'⟩ c' m = methodReport ⟨config, h, s⟩ c m := by
  have hid : c'.idOf m = c.idOf m := by rw [ClassDecl.idOf, ClassDecl.idOf, hc]
  suffices hstatus : MethodStatus.ofAnalysis (MethodAnalysis.ofMethod ⟨config, h', s'⟩ c' m) =
      .ofAnalysis (MethodAnalysis.ofMethod ⟨config, h, s⟩ c m) by
    rw [methodReport, methodReport, hstatus, hid]
  unfold MethodAnalysis.ofMethod
  rw [hid]
  cases m.body with
  | none => rfl
  | some body =>
      refine ofAnalysis_bind fun g => ofAnalysis_bind fun numbers => ?_
      -- what remains is the same for any checked calls
      have hrest : ∀ checked, MethodStatus.ofAnalysis (do
            allocate (m.maxLocals + m.maxStack) Nullity.bytes
            let entry ← inContext (.entryFrame (c.idOf m)) (entryFrame h' (c.idOf m) m)
            let model : NullModel g := ⟨config, h', s', numbers, checked⟩
            let solution ← inContext .nullnessDataflow (model.analysis entry).execute
            return ⟨g, model, entry, solution⟩) = .ofAnalysis (do
            allocate (m.maxLocals + m.maxStack) Nullity.bytes
            let entry ← inContext (.entryFrame (c.idOf m)) (entryFrame h (c.idOf m) m)
            let model : NullModel g := ⟨config, h, s, numbers, checked⟩
            let solution ← inContext .nullnessDataflow (model.analysis entry).execute
            return ⟨g, model, entry, solution⟩) := by
        intro checked
        let model : NullModel g := ⟨config, h, s, numbers, checked⟩
        have hmark := hh.parameterMark_eq fun _ _ hm => (congrArg Method.parameterMarks hm :)
        rw [entryFrame_eq hmark]
        refine ofAnalysis_bind fun _ => ofAnalysis_bind fun entry => ?_
        have ha : model.Agrees h' s' := NullModel.agrees_of_alike hh hs
        have hanalysis := model.analysis_informedBy ha entry
        refine (congrArg (fun A : FlowAnalysis g NullFrame (BranchDecision Nullity) =>
          MethodStatus.ofAnalysis (inContext .nullnessDataflow A.execute >>= fun solution =>
            .ok ⟨g, model.informedBy h' s', entry, solution⟩)) hanalysis).trans ?_
        exact ofAnalysis_bind fun solution => ofAnalysis_informedBy ha entry solution
      dsimp only
      split
      · exact ofAnalysis_bind hrest
      · exact ofAnalysis_bind hrest

/-! ### Programs -/

/-- The report of a session in which every method with a body has an entry, in program order, that
tells how its own analysis has ended. -/
def Program.fullReport [DescriptorReader] (config : Config) (p : Program) : Report where
  summaries := summaries p
  methods := p.bodies.map fun x => methodReport ⟨config, ⟨p.classes⟩, summaries p⟩ x.1 x.2

/-- A traversal that ends at the values of some kind gives the results of all values, if none is of
that kind. -/
lemma mapM_if {ε α β : Type} (ends : β → Bool) (e : ε) (f : α → β) : ∀ l : List α,
    l.mapM (fun x => if ends (f x) then Except.error e else .ok (f x)) =
      if (l.map f).any ends then .error e else .ok (l.map f)
  | [] => rfl
  | x :: l => by
      rw [List.mapM_cons, mapM_if ends e f l, List.map_cons, List.any_cons]
      cases ends (f x) <;> cases (l.map f).any ends <;> rfl

/-- **A session reports on every method with a body, or the run ends.** -/
theorem analyse_eq [DescriptorReader] (config : Config) (p : Program) : analyse config p =
    if (p.fullReport config).methods.any (·.status.endsRun) then .error .overflow
    else .ok (p.fullReport config) := by
  have hmethods := mapM_if (fun r => r.status.endsRun) Error.overflow
    (fun x : ClassDecl × Method => methodReport ⟨config, ⟨p.classes⟩, summaries p⟩ x.1 x.2) p.bodies
  change (p.bodies.mapM fun x => analyseMethod ⟨config, ⟨p.classes⟩, summaries p⟩ x.1 x.2).map
    (Report.mk (summaries p)) = _
  unfold analyseMethod
  rw [hmethods, Program.fullReport]
  split <;> rfl

/-! ### Summaries -/

/-- What comes of summarizing a method, if anything. -/
def summaryOf? [DescriptorReader] (c : ClassDecl) (m : Method) : Option MethodSummary :=
  match summarize c m with
  | .ok summary? => summary?
  | .error _ => none

/-- Of the class it matters only whether its methods are summarized. -/
lemma summaryOf?_congr [DescriptorReader] {c c' : ClassDecl} {m : Method}
    (heligible : isEligible c m = isEligible c' m) : summaryOf? c m = summaryOf? c' m := by
  rw [summaryOf?, summaryOf?, summarize, summarize, heligible]

/-- The methods with a body, each with what comes of summarizing it. -/
def Program.outcomes [DescriptorReader] (p : Program) : List (MethodId × Option MethodSummary) :=
  p.bodies.map fun (c, m) => (c.idOf m, summaryOf? c m)

/-- What an outcome has to say about a method. -/
def outcomeFor (id : MethodId) (outcome : MethodId × Option MethodSummary) : Option MethodSummary :=
  if outcome.1 = id then outcome.2 else none

/-- A method that has no summary yet gets the one that it is summarized with. -/
lemma get?_recordSummary [DescriptorReader] (s : SummaryStore) (c : ClassDecl) (m : Method)
    (id : MethodId) :
    (recordSummary s c m).entries.get? id =
      (s.entries.get? id).or (outcomeFor id (c.idOf m, summaryOf? c m)) := by
  unfold recordSummary summaryOf? outcomeFor
  cases hsummary : summarize c m with
  | error e => simp
  | ok summary? => cases summary? with
    | none => simp
    | some summary =>
        by_cases hrecorded : s.entries.contains (c.idOf m) = true
        · -- the summary that the method has already stays
          obtain ⟨earlier, hearlier⟩ := Option.isSome_iff_exists.1 hrecorded
          by_cases hid : c.idOf m = id
          · subst hid
            simp [SummaryStore.record, hrecorded, hearlier]
          · simp [SummaryStore.record, hrecorded, hid]
        · have hnone : s.entries.get? (c.idOf m) = none := by
            simpa [SortedMap.contains] using hrecorded
          by_cases hid : c.idOf m = id
          · subst hid
            simp [SummaryStore.record, hrecorded, SortedMap.get?_insert, hnone]
          · simp [SummaryStore.record, hrecorded, SortedMap.get?_insert, hid, Ne.symm hid]

/-- **Which summary a session has of a method:** that of the first outcome that has one for it. -/
theorem get?_summaries [DescriptorReader] (p : Program) (id : MethodId) :
    (summaries p).entries.get? id = p.outcomes.findSome? (outcomeFor id) := by
  have hfold : ∀ (bodies : List (ClassDecl × Method)) (s : SummaryStore),
      (bodies.foldl (fun s (c, m) => recordSummary s c m) s).entries.get? id =
        (s.entries.get? id).or ((bodies.map fun (c, m) => (c.idOf m, summaryOf? c m)).findSome?
          (outcomeFor id)) := by
    intro bodies
    induction bodies with
    | nil => simp
    | cons body bodies ih =>
        intro s
        rw [List.foldl_cons, ih, get?_recordSummary, List.map_cons, List.findSome?_cons,
          Option.or_assoc]
        congr 1
        cases outcomeFor id (body.1.idOf body.2, summaryOf? body.1 body.2) <;> rfl
  exact (hfold p.bodies .empty).trans (Option.none_or ..)

end Nullness
