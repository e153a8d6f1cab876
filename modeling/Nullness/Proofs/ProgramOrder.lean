import Mathlib.Data.List.Find
import Mathlib.Tactic
import Nullness.Descriptor.Reader
import Nullness.Proofs.Isolation

/-!
# The order of a program

A program may list its classes in any order, and each class its fields and methods. As long as no
two of them have one name, a session gives the same summaries and the same reports; only the reports
come in the order of the methods.

* `Program.Reordered`: the same classes and members in another order;
* `Program.DistinctNames`: no two classes, fields or methods of one name;
* `Program.Reordered.alike`: reordered programs declare the same;
* `Program.Reordered.fullReport_perm`: every method is reported on alike;
* `analyse_reordered`: **reordered programs have the same summaries and reports.**
-/

namespace Nullness

/-- The first value of a key is found in any order of the list when all keys are distinct. -/
lemma find?_perm_of_nodup {α κ : Type} (key : α → κ) {p : α → Bool} {l l' : List α}
    (hnodup : (l.map key).Nodup) (hl : l.Perm l') (hkey : ∀ a b, p a → p b → key a = key b) :
    l.find? p = l'.find? p :=
  List.find?_eq_find?_of_perm hl fun a ha b hb =>
    List.inj_on_of_nodup_map hnodup ha.1 hb.1 (hkey a b ha.2 hb.2)

/-! ### Other orders -/

/-- The same class with its members in another order. -/
structure ClassDecl.Reordered (c c' : ClassDecl) : Prop where
  rest_eq : { c with fields := c'.fields, methods := c'.methods } = c'
  fields : c.fields.Perm c'.fields
  methods : c.methods.Perm c'.methods

/-- The same program with its classes in another order, and the members of each class. -/
def Program.Reordered (p p' : Program) : Prop :=
  ∃ classes, p.classes.Perm classes ∧ List.Forall₂ ClassDecl.Reordered classes p'.classes

/-- The field of a class as an instruction names it. -/
def ClassDecl.refOf (c : ClassDecl) (f : FieldDecl) : FieldRef := ⟨c.name, f.name, f.descriptor⟩

/-- No two classes have one name, and no two methods or fields of a class one name and
descriptor. -/
structure Program.DistinctNames (p : Program) : Prop where
  classes : (p.classes.map (·.name)).Nodup
  methods : (p.classes.flatMap fun c => c.methods.map c.idOf).Nodup
  fields : (p.classes.flatMap fun c => c.fields.map c.refOf).Nodup

namespace ClassDecl.Reordered

variable {c c' : ClassDecl} (hc : c.Reordered c')
include hc

lemma name_eq : c.name = c'.name := (congrArg name hc.rest_eq :)

/-- A class whose members have distinct names declares the same in any order. -/
lemma alike (hmethods : (c.methods.map c.idOf).Nodup) (hfields : (c.fields.map c.refOf).Nodup) :
    c.Alike Method.declaration c' where
  name_eq := hc.name_eq
  superName_eq := (congrArg superName hc.rest_eq :)
  interfaces_eq := (congrArg interfaces hc.rest_eq :)
  method?_eq name descriptor := by
    have hfind : c.method? name descriptor = c'.method? name descriptor :=
      find?_perm_of_nodup c.idOf hmethods hc.methods fun m m' hm hm' => by
        simp only [decide_eq_true_eq] at hm hm'
        rw [idOf, idOf, hm.1, hm.2, hm'.1, hm'.2]
    rw [hfind]
  field?_eq name descriptor :=
    find?_perm_of_nodup c.refOf hfields hc.fields fun f f' hf hf' => by
      simp only [decide_eq_true_eq] at hf hf'
      rw [refOf, refOf, hf.1, hf.2, hf'.1, hf'.2]

lemma summaryOf?_eq [DescriptorReader] (m : Method) : summaryOf? c m = summaryOf? c' m :=
  summaryOf?_congr (by rw [← hc.rest_eq]; rfl)

end ClassDecl.Reordered

/-! ### Declarations and methods -/

namespace Program.Reordered

variable {p p' : Program} (hp : p.Reordered p')
include hp

/-- Reordered programs declare the same. -/
lemma alike (hnames : p.DistinctNames) :
    Hierarchy.Alike Method.declaration ⟨p.classes⟩ ⟨p'.classes⟩ := by
  obtain ⟨classes, hperm, hclasses⟩ := hp
  have halike : Hierarchy.Alike Method.declaration ⟨classes⟩ ⟨p'.classes⟩ := by
    have hmem : ∀ c ∈ classes, c ∈ p.classes := fun c => hperm.mem_iff.2
    refine Hierarchy.alike_of_forall₂ (((List.forall₂_and_left _ _).2 ⟨hmem, hclasses⟩).imp ?_)
    exact fun c c' hc => hc.2.alike ((List.nodup_flatMap.1 hnames.methods).1 c hc.1)
      ((List.nodup_flatMap.1 hnames.fields).1 c hc.1)
  have hnamed : ∀ name, classNamed? p.classes name = classNamed? classes name := by
    intro name
    rw [classNamed?, classNamed?, List.findRev?_eq_find?_reverse, List.findRev?_eq_find?_reverse]
    refine find?_perm_of_nodup (·.name) ?_ ?_ fun c c' hc hc' => ?_
    · rw [List.map_reverse, List.nodup_reverse]
      exact hnames.classes
    · exact (List.reverse_perm _).trans (hperm.trans (List.reverse_perm _).symm)
    · exact (of_decide_eq_true hc).trans (of_decide_eq_true hc').symm
  exact {
    classNamed? := fun name => (hnamed name).symm ▸ halike.classNamed? name
    declares_eq := fun id => hperm.any_eq.trans (halike.declares_eq id)
    length_eq := hperm.length_eq.trans halike.length_eq
    supertypeCount_eq := (hperm.flatMap_right _).length_eq.trans halike.supertypeCount_eq }

/-- What is said of each method is the same, in another order. -/
lemma map_bodies_perm {α : Type} (f f' : ClassDecl → Method → α)
    (hf : ∀ c c', c.Reordered c' → ∀ m, f c m = f' c' m) :
    (p.bodies.map fun x => f x.1 x.2).Perm (p'.bodies.map fun x => f' x.1 x.2) := by
  obtain ⟨classes, hperm, hclasses⟩ := hp
  have hmap : ∀ (f : ClassDecl → Method → α) (p : Program),
      (p.bodies.map fun x => f x.1 x.2) =
        (p.classes.map fun c => (c.methods.filter fun m => m.body.isSome).map (f c)).flatten :=
    fun f p => by
      rw [bodies, List.map_flatMap, List.flatMap_def]
      simp only [List.map_map, Function.comp_def]
  rw [hmap, hmap]
  refine (hperm.map _).flatten.trans (List.Perm.flatten_congr ?_)
  rw [List.forall₂_map_left_iff, List.forall₂_map_right_iff]
  refine hclasses.imp fun c c' hc => ?_
  rw [funext (hf c c' hc)]
  exact (hc.methods.filter _).map _

end Program.Reordered

/-! ### Summaries and reports -/

lemma Program.DistinctNames.nodup_bodies {p : Program} (hnames : p.DistinctNames) :
    (p.bodies.map fun x => x.1.idOf x.2).Nodup := by
  refine hnames.methods.sublist ?_
  rw [bodies, List.map_flatMap]
  refine List.Sublist.flatMap_right _ fun c _ => ?_
  rw [List.map_map]
  exact List.filter_sublist.map _

/-- When no method is summarized twice, every outcome is what the session knows of its method. -/
lemma get?_summaries_eq_some_iff [DescriptorReader] {p : Program}
    (hids : (p.outcomes.map Prod.fst).Nodup)
    {id : MethodId} {summary : MethodSummary} :
    (summaries p).entries.get? id = some summary ↔ (id, some summary) ∈ p.outcomes := by
  have hfound : ∀ {summary}, p.outcomes.findSome? (outcomeFor id) = some summary →
      (id, some summary) ∈ p.outcomes := fun hsome => by
    obtain ⟨⟨other, summary?⟩, hmem, houtcome⟩ := List.exists_of_findSome?_eq_some hsome
    unfold outcomeFor at houtcome
    split at houtcome
    · next hid => exact hid ▸ houtcome ▸ hmem
    · cases houtcome
  rw [get?_summaries]
  refine ⟨hfound, fun hmem => ?_⟩
  obtain ⟨summary', hsome⟩ := Option.isSome_iff_exists.1 (List.findSome?_isSome_iff.2
    ⟨_, hmem, show (outcomeFor id (id, some summary)).isSome by simp [outcomeFor]⟩)
  have heq := List.inj_on_of_nodup_map hids hmem (hfound hsome) rfl
  rw [hsome]
  exact (congrArg Prod.snd heq).symm

/-- Reordered programs have the same summaries. -/
lemma Program.Reordered.summaries_eq [DescriptorReader] {p p' : Program} (hp : p.Reordered p')
    (hnames : p.DistinctNames) : summaries p = summaries p' := by
  have houtcomes : p.outcomes.Perm p'.outcomes :=
    hp.map_bodies_perm (fun c m => (c.idOf m, summaryOf? c m))
      (fun c m => (c.idOf m, summaryOf? c m)) fun c c' hc m => by
        rw [ClassDecl.idOf, ClassDecl.idOf, hc.name_eq, hc.summaryOf?_eq]
  have hids : (p.outcomes.map Prod.fst).Nodup := by
    rw [outcomes, List.map_map]
    exact hnames.nodup_bodies
  have hids' : (p'.outcomes.map Prod.fst).Nodup := (houtcomes.map _).nodup_iff.1 hids
  have hentries : (summaries p).entries = (summaries p').entries := by
    refine SortedMap.ext_get? fun id => Option.ext fun summary => ?_
    rw [get?_summaries_eq_some_iff hids, get?_summaries_eq_some_iff hids', houtcomes.mem_iff]
  exact congrArg SummaryStore.mk hentries

/-- Every method of a reordered program is reported on as before. -/
lemma Program.Reordered.fullReport_perm [DescriptorReader] {p p' : Program} (hp : p.Reordered p')
    (hnames : p.DistinctNames) (config : Config) :
    (p.fullReport config).methods.Perm (p'.fullReport config).methods := by
  have hsummaries : ∀ id, (summaries p).get id = (summaries p').get id := fun id => by
    rw [hp.summaries_eq hnames]
  exact hp.map_bodies_perm (methodReport ⟨config, ⟨p.classes⟩, summaries p⟩)
    (methodReport ⟨config, ⟨p'.classes⟩, summaries p'⟩) fun c c' hc m =>
      (methodReport_congr (hp.alike hnames) hsummaries hc.name_eq m).symm

lemma Program.map_method_fullReport [DescriptorReader] (p : Program) (config : Config) :
    (p.fullReport config).methods.map (·.method) = p.bodies.map fun x => x.1.idOf x.2 := by
  rw [fullReport, List.map_map]
  rfl

/-- **Reordered programs have the same summaries and reports.** No two reports are on one method, so
each method has the same report as before; the reports come in the order of the methods. If the run
ends on one of the programs, then it does on the other, and some number in the program is too
large. -/
theorem analyse_reordered [DescriptorReader] {p p' : Program} (hp : p.Reordered p')
    (hnames : p.DistinctNames)
    (config : Config) :
    (∃ r r', analyse config p = .ok r ∧ analyse config p' = .ok r' ∧
      r.summaries = r'.summaries ∧
      r.methods.Perm r'.methods ∧
      (r.methods.map (·.method)).Nodup ∧
      r'.methods.map (·.method) = p'.bodies.map fun x => x.1.idOf x.2) ∨
    ¬ p.Fits ∧ analyse config p = .error .overflow ∧ analyse config p' = .error .overflow := by
  have hperm := hp.fullReport_perm hnames config
  have hends : (p.fullReport config).methods.any (·.status.endsRun) =
      (p'.fullReport config).methods.any (·.status.endsRun) := hperm.any_eq
  by_cases h : (p.fullReport config).methods.any (·.status.endsRun) = true
  · right
    have hend : analyse config p = .error .overflow := by rw [analyse_eq, if_pos h]
    refine ⟨fun hfits => ?_, hend, by rw [analyse_eq, ← hends, if_pos h]⟩
    rw [analyse_of_fits hfits] at hend
    cases hend
  · left
    refine ⟨p.fullReport config, p'.fullReport config, by rw [analyse_eq, if_neg h],
      by rw [analyse_eq, ← hends, if_neg h], hp.summaries_eq hnames, hperm, ?_, ?_⟩
    · rw [Program.map_method_fullReport]
      exact hnames.nodup_bodies
    · exact p'.map_method_fullReport config

/-- A class and a subclass with the same static method. -/
def superclassFirst : Program where
  classes := [
    applicationClass "A" none [⟨"next", "LA;", false, .nonNull⟩, ⟨"last", "LA;", false, .unknown⟩]
      [staticMethod "inspect" returningBody, staticMethod "user" inspectingBody],
    applicationClass "B" (some "A") [] [staticMethod "inspect" inspectingBody]]

/-- The same classes the other way round, with the members of the superclass exchanged as well. -/
def subclassFirst : Program where
  classes := [
    applicationClass "B" (some "A") [] [staticMethod "inspect" inspectingBody],
    applicationClass "A" none [⟨"last", "LA;", false, .unknown⟩, ⟨"next", "LA;", false, .nonNull⟩]
      [staticMethod "user" inspectingBody, staticMethod "inspect" returningBody]]

/-- A subclass may come before its superclass. -/
theorem analyse_reordered_subclassFirst :
    superclassFirst.Reordered subclassFirst ∧ superclassFirst.DistinctNames ∧
    ∃ r r', analyse .default superclassFirst = .ok r ∧ analyse .default subclassFirst = .ok r' ∧
      r.summaries = r'.summaries ∧
      r.methods.Perm r'.methods ∧
      (r.methods.map (·.method)).Nodup ∧
      r'.methods.map (·.method) = subclassFirst.bodies.map fun x => x.1.idOf x.2 := by
  have hp : superclassFirst.Reordered subclassFirst :=
    ⟨superclassFirst.classes.reverse, .swap _ _ _,
      .cons ⟨rfl, .refl _, .refl _⟩ (.cons ⟨rfl, .swap _ _ _, .swap _ _ _⟩ .nil)⟩
  have hnames : superclassFirst.DistinctNames := ⟨by decide, by decide, by decide⟩
  have hfits : superclassFirst.Fits := by decide +kernel
  exact ⟨hp, hnames, (analyse_reordered hp hnames .default).resolve_right fun h => h.1 hfits⟩

end Nullness
