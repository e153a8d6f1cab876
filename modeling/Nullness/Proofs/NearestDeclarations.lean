import Mathlib.Tactic
import Nullness.Annotations
import Nullness.Proofs.Receivers

/-!
# Nearest declarations

Two questions walk upwards from a class through superclasses and interfaces: which declaration a call
takes, and what is known of a method. Both answers are the nearest ones, on hierarchies of any shape,
cycles included. Among equally near declarations the first in breadth-first order is taken, where the
superclass of a class stands in front of its interfaces.

* `Hierarchy.mem_ancestors`, `Hierarchy.ancestors_of_le`: a walk upwards lists everything above a
  class and ends by itself;
* `Hierarchy.FirstDeclaration`, `Hierarchy.inherited?_eq_some_iff`: the declaration that a class
  inherits;
* `Hierarchy.targets_firstDeclaration`: **the targets of a call;**
* `Hierarchy.OwnDeclaration`, `Hierarchy.method?_eq_some_iff`: the declaration that counts in a class;
* `Hierarchy.marks_nearestKnown`: **annotations come from the nearest supertype that has a known one.**
-/

namespace Nullness

/-! ### Look-ups -/

/-- The last class of a name is found. -/
lemma classNamed?_eq_some_iff {classes : List ClassDecl} {name : String} {c : ClassDecl} :
    classNamed? classes name = some c ↔ ∃ before after, classes = before ++ c :: after ∧
      c.name = name ∧ ∀ d ∈ after, d.name ≠ name := by
  rw [classNamed?, List.findRev?_eq_find?_reverse, List.find?_eq_some_iff_append]
  constructor
  · rintro ⟨hname, front, back, hsplit, hfront⟩
    refine ⟨back.reverse, front.reverse, ?_, by simpa using hname, fun d hd => ?_⟩
    · rw [← List.reverse_reverse classes, hsplit]
      simp
    · simpa using hfront d (List.mem_reverse.1 hd)
  · rintro ⟨before, after, rfl, rfl, hafter⟩
    refine ⟨by simp, after.reverse, before.reverse, by simp, fun d hd => ?_⟩
    simpa using hafter d (List.mem_reverse.1 hd)

/-- The first method of a name and descriptor is found. -/
lemma ClassDecl.method?_eq_some_iff {c : ClassDecl} {name descriptor : String} {m : Method} :
    c.method? name descriptor = some m ↔ ∃ earlier later, c.methods = earlier ++ m :: later ∧
      (m.name = name ∧ m.descriptor = descriptor) ∧
      ∀ m' ∈ earlier, ¬ (m'.name = name ∧ m'.descriptor = descriptor) := by
  rw [ClassDecl.method?, List.find?_eq_some_iff_append]
  simp only [decide_eq_true_eq, Bool.not_eq_true', decide_eq_false_iff_not]
  exact ⟨fun ⟨hm, earlier, later, hsplit, hbefore⟩ => ⟨earlier, later, hsplit, hm, hbefore⟩,
    fun ⟨earlier, later, hsplit, hm, hbefore⟩ => ⟨hm, earlier, later, hsplit, hbefore⟩⟩

namespace Hierarchy

variable {h : Hierarchy}

/-! ### Above a class -/

lemma supertypes_sublist (c : String) :
    ((h.supertypes c).map (c, ·)).Sublist
      ((h.classes.flatMap fun d => d.parents.map (d.name, ·)).filter fun step => step.1 = c) := by
  unfold supertypes
  cases hc : classNamed? h.classes c with
  | none => exact List.nil_sublist _
  | some d =>
      obtain ⟨hmem, rfl⟩ := mem_of_classNamed? hc
      have hlisted : (d.parents.map (d.name, ·)).Sublist
          (h.classes.flatMap fun d => d.parents.map (d.name, ·)) :=
        List.sublist_flatten_of_mem (List.mem_map_of_mem hmem)
      have hkept : (d.parents.map (d.name, ·)).filter (fun step => step.1 = d.name)
          = d.parents.map (d.name, ·) := by simp [List.filter_eq_self]
      rw [← hkept]
      exact hlisted.filter _

/-- All listings of supertypes together are short enough. -/
lemma sum_supertypes_le (values : Finset String) :
    ∑ c ∈ values, (h.supertypes c).length ≤ h.supertypeCount := by
  have hcount : (h.classes.flatMap fun d => d.parents.map (d.name, ·)).length = h.supertypeCount := by
    simp [supertypeCount, List.length_flatMap]
  rw [← hcount]
  refine (Finset.sum_le_sum fun c _ => ?_).trans (sum_length_filter_le Prod.fst _ values)
  have hlength := (supertypes_sublist (h := h) c).length_le
  rwa [List.length_map] at hlength

/-- The names that a walk upwards from a class can meet. -/
def namesAbove (h : Hierarchy) (name : String) : Finset String :=
  insert name (h.classes.flatMap ClassDecl.parents).toFinset

lemma mem_namesAbove (name : String) : ∀ c ∈ h.namesAbove name, ∀ p ∈ h.supertypes c,
    p ∈ h.namesAbove name := by
  intro c _ p hp
  unfold supertypes at hp
  cases hc : classNamed? h.classes c with
  | none => simp [hc] at hp
  | some d =>
      rw [hc] at hp
      exact Finset.mem_insert_of_mem
        (List.mem_toFinset.2 (List.mem_flatMap.2 ⟨d, (mem_of_classNamed? hc).1, hp⟩))

/-- What is listed above a class lies above it. -/
lemma mem_ancestors {c name : String} : c ∈ h.ancestors name ↔ h.Below name c :=
  mem_reachableFrom (mem_namesAbove name) (sum_supertypes_le _) (Finset.mem_insert_self _ _)

/-- The walk upwards ends by itself. -/
lemma ancestors_of_le {name : String} {steps : Nat} (hsteps : h.supertypeCount ≤ steps) :
    reachableFrom h.supertypes steps name = h.ancestors name :=
  reachableFrom_of_le (mem_namesAbove name) (sum_supertypes_le _) hsteps (Finset.mem_insert_self _ _)

/-- The walk downwards ends by itself. -/
lemma descendants_of_le {name : String} {steps : Nat} (hname : name ∈ h.names)
    (hsteps : h.classes.length * h.classes.length ≤ steps) :
    reachableFrom h.subtypes steps name = h.descendants name :=
  reachableFrom_of_le (fun _ _ _ hc => mem_names_of_subtypes hc) sum_subtypes_le hsteps hname

/-! ### The declaration that a class inherits -/

section Targets

variable {call : CallSite} {id id' : MethodId}

/-- A class of the program declares a method. -/
def Declared (h : Hierarchy) (id : MethodId) : Prop :=
  ∃ c ∈ h.classes, c.name = id.className ∧
    ∃ m ∈ c.methods, m.name = id.name ∧ m.descriptor = id.descriptor

lemma declares_iff : h.declares id = true ↔ h.Declared id := by
  simp [declares, Declared]

/-- The declaration that a call takes from its owner or from above: choices of supertypes lead to it
that come before all choices that lead to another class with a declaration. -/
structure FirstDeclaration (h : Hierarchy) (call : CallSite) (id : MethodId) : Prop where
  name_eq : id.name = call.name
  descriptor_eq : id.descriptor = call.descriptor
  declared : h.Declared id
  first : ∃ choices, follow h.supertypes call.owner choices = some id.className ∧
    ∀ c, h.Declared ⟨c, call.name, call.descriptor⟩ → ∀ others,
      follow h.supertypes call.owner others = some c → place choices ≤ place others

/-- The method of the called name in another class. -/
lemma FirstDeclaration.eq (hid : h.FirstDeclaration call id) :
    id = ⟨id.className, call.name, call.descriptor⟩ := by
  rw [← hid.name_eq, ← hid.descriptor_eq]

/-- No other declaration is first. -/
lemma FirstDeclaration.unique (hid : h.FirstDeclaration call id)
    (hid' : h.FirstDeclaration call id') : id = id' := by
  obtain ⟨choices, hchoices, hfirst⟩ := hid.first
  obtain ⟨choices', hchoices', hfirst'⟩ := hid'.first
  have hdeclared := hid.declared
  have hdeclared' := hid'.declared
  rw [hid.eq] at hdeclared
  rw [hid'.eq] at hdeclared'
  have hplace : place choices = place choices' :=
    le_antisymm (hfirst _ hdeclared' _ hchoices') (hfirst' _ hdeclared _ hchoices)
  obtain rfl : choices = choices' := congrArg (fun p => (ofLex p).2) hplace
  have hclass : id.className = id'.className := Option.some.inj (hchoices.symm.trans hchoices')
  rw [hid.eq, hid'.eq, hclass]

lemma inherited?_eq_none_iff {name descriptor owner : String} :
    h.inherited? owner name descriptor = none ↔
      ∀ c, h.Below owner c → ¬ h.Declared ⟨c, name, descriptor⟩ := by
  simp only [inherited?, List.find?_map, Option.map_eq_none_iff, List.find?_eq_none, mem_ancestors,
    Function.comp_apply, declares_iff]

/-- The declaration that a class inherits is the first one. -/
lemma inherited?_eq_some_iff :
    h.inherited? call.owner call.name call.descriptor = some id ↔ h.FirstDeclaration call id := by
  have hfirst : ∀ {id}, h.inherited? call.owner call.name call.descriptor = some id →
      h.FirstDeclaration call id := by
    intro id hid
    rw [inherited?, List.find?_map, Option.map_eq_some_iff] at hid
    obtain ⟨c, hc, rfl⟩ := hid
    obtain ⟨hdeclares, choices, hchoices, hplace⟩ := first_of_find? hc
    exact ⟨rfl, rfl, declares_iff.1 hdeclares, choices, hchoices,
      fun d hd => hplace d (declares_iff.2 hd)⟩
  refine ⟨hfirst, fun hid => ?_⟩
  cases hfound : h.inherited? call.owner call.name call.descriptor with
  | none =>
      obtain ⟨choices, hchoices, -⟩ := hid.first
      have hbelow : h.Below call.owner id.className :=
        exists_stepsTo_iff.1 ⟨_, stepsTo_iff.2 ⟨choices, rfl, hchoices⟩⟩
      have hdeclared := hid.declared
      rw [hid.eq] at hdeclared
      exact absurd hdeclared (inherited?_eq_none_iff.1 hfound _ hbelow)
  | some found => rw [(hfirst hfound).unique hid]

/-! ### The targets of a call -/

/-- The targets are listed in ascending order. -/
lemma targets_ascending (hcall : call.kind = .virtual ∨ call.kind = .interface) :
    (h.targets call).Pairwise fun a b => compare a b = .lt := by
  rcases hcall with hkind | hkind <;>
  · rw [targets, hkind]
    exact SortedSet.toList_ascending _

/-- **The targets of a call.** Both walks end by themselves. A static or special call has the first
declaration upwards from its owner as its only target, and no target only if nothing at or above the
owner declares the method. A virtual or interface call has that declaration, and every declaration in
a class from which steps upwards lead to the owner, in ascending order. -/
theorem targets_firstDeclaration (h : Hierarchy) (call : CallSite) :
    (∀ more, reachableFrom h.supertypes (h.supertypeCount + more) call.owner
      = h.ancestors call.owner) ∧
    (∀ c ∈ h.subtypes call.owner, ∀ more,
      reachableFrom h.subtypes (h.classes.length * h.classes.length + more) c = h.descendants c) ∧
    match call.kind with
    | .static | .special =>
      (h.targets call).length ≤ 1 ∧ (∀ id, id ∈ h.targets call ↔ h.FirstDeclaration call id) ∧
        (h.targets call = [] ↔
          ∀ c, h.Below call.owner c → ¬ h.Declared ⟨c, call.name, call.descriptor⟩)
    | .virtual | .interface =>
      (h.targets call).Pairwise (fun a b => compare a b = .lt) ∧
        ∀ id, id ∈ h.targets call ↔ h.FirstDeclaration call id ∨
          h.Declared id ∧ id.name = call.name ∧ id.descriptor = call.descriptor ∧
            Relation.TransGen (fun c p => p ∈ h.supertypes c) id.className call.owner := by
  have hinherited : ∀ id, id ∈ (h.inherited? call.owner call.name call.descriptor).toList ↔
      h.FirstDeclaration call id := by
    intro id
    rw [Option.mem_toList, inherited?_eq_some_iff]
  have hnone : (h.inherited? call.owner call.name call.descriptor).toList = [] ↔
      ∀ c, h.Below call.owner c → ¬ h.Declared ⟨c, call.name, call.descriptor⟩ := by
    rw [Option.toList_eq_nil_iff, inherited?_eq_none_iff]
  have hoverriding : ∀ (hcall : call.kind = .virtual ∨ call.kind = .interface) (id : MethodId),
      id ∈ h.targets call ↔ h.FirstDeclaration call id ∨
        h.Declared id ∧ id.name = call.name ∧ id.descriptor = call.descriptor ∧
          Relation.TransGen (fun c p => p ∈ h.supertypes c) id.className call.owner := by
    intro hcall id
    rw [mem_targets_iff hcall, inherited?_eq_some_iff, declares_iff]
  refine ⟨fun more => ancestors_of_le (Nat.le_add_right _ _),
    fun c hc more => descendants_of_le (mem_names_of_subtypes hc) (Nat.le_add_right _ _), ?_⟩
  split
  case h_1 hkind | h_2 hkind =>
    have htargets : h.targets call
        = (h.inherited? call.owner call.name call.descriptor).toList := by rw [targets, hkind]
    rw [htargets]
    exact ⟨Option.length_toList_le, hinherited, hnone⟩
  case h_3 hkind => exact ⟨targets_ascending (.inl hkind), hoverriding (.inl hkind)⟩
  case h_4 hkind => exact ⟨targets_ascending (.inr hkind), hoverriding (.inr hkind)⟩

end Targets

/-! ### The declaration that counts in a class -/

section Marks

variable {id : MethodId} {m : Method} {answer : Method → NullMark}

/-- The declaration of a method in its own class. Of the classes of one name the last one counts, and
of the methods of a class with one name and descriptor the first. -/
def OwnDeclaration (h : Hierarchy) (id : MethodId) (m : Method) : Prop :=
  ∃ before c after, h.classes = before ++ c :: after ∧ c.name = id.className ∧
    (∀ d ∈ after, d.name ≠ id.className) ∧
    ∃ earlier later, c.methods = earlier ++ m :: later ∧
      (m.name = id.name ∧ m.descriptor = id.descriptor) ∧
      ∀ m' ∈ earlier, ¬ (m'.name = id.name ∧ m'.descriptor = id.descriptor)

/-- The look-up finds the declaration that counts. -/
lemma method?_eq_some_iff : h.method? id = some m ↔ h.OwnDeclaration id m := by
  simp only [method?, Option.bind_eq_some_iff, classNamed?_eq_some_iff,
    ClassDecl.method?_eq_some_iff, OwnDeclaration]
  constructor
  · rintro ⟨c, ⟨before, after, hsplit, hname, hlast⟩, hm⟩
    exact ⟨before, c, after, hsplit, hname, hlast, hm⟩
  · rintro ⟨before, c, after, hsplit, hname, hlast, hm⟩
    exact ⟨c, ⟨before, after, hsplit, hname, hlast⟩, hm⟩

/-! ### Known annotations -/

/-- A class declares a method with an annotation that is known. -/
def Known (h : Hierarchy) (id : MethodId) (answer : Method → NullMark) (c : String) (a : NullMark) :
    Prop :=
  a ≠ .unknown ∧ ∃ m, h.OwnDeclaration { id with className := c } m ∧ answer m = a

/-- An annotation is the nearest known one: no known annotation is fewer steps up, and it is unknown
only if there is none. -/
structure NearestKnown (h : Hierarchy) (id : MethodId) (answer : Method → NullMark) (a : NullMark) :
    Prop where
  unknown_iff : a = .unknown ↔ ∀ c, h.Below id.className c → ∀ b, ¬ h.Known id answer c b
  nearest : a ≠ .unknown → ∃ c n, StepsTo h.supertypes id.className n c ∧ h.Known id answer c a ∧
    ∀ d k b, StepsTo h.supertypes id.className k d → h.Known id answer d b → n ≤ k

/-- Whether a class has a known annotation of a method. -/
def answers (h : Hierarchy) (id : MethodId) (answer : Method → NullMark) (c : String) : Bool :=
  ((h.method? { id with className := c }).map answer).any fun a => a ≠ .unknown

lemma answers_iff {c : String} : h.answers id answer c = true ↔ ∃ a, h.Known id answer c a := by
  simp only [answers, Option.any_map, Option.any_eq_true, Known, ← method?_eq_some_iff]
  constructor
  · rintro ⟨m, hm, ha⟩
    exact ⟨answer m, by simpa using ha, m, hm, rfl⟩
  · rintro ⟨a, ha, m, hm, rfl⟩
    exact ⟨m, hm, by simpa using ha⟩

lemma inheritedMark_eq : h.inheritedMark id answer =
    (((h.ancestors id.className).find? (h.answers id answer)).bind fun c =>
      (h.method? { id with className := c }).map answer).getD .unknown := by
  rw [inheritedMark, List.find?_filterMap]
  rfl

/-- An inherited annotation is the nearest known one. -/
lemma nearestKnown_inheritedMark : h.NearestKnown id answer (h.inheritedMark id answer) := by
  rw [inheritedMark_eq]
  cases hfound : (h.ancestors id.className).find? (h.answers id answer) with
  | none =>
      have hnone : ∀ c, h.Below id.className c → ∀ b, ¬ h.Known id answer c b := by
        intro c hc b hb
        exact List.find?_eq_none.1 hfound c (mem_ancestors.2 hc) (answers_iff.2 ⟨b, hb⟩)
      exact ⟨⟨fun _ => hnone, fun _ => rfl⟩, fun hne => absurd rfl hne⟩
  | some c =>
      obtain ⟨hanswers, choices, hchoices, hfirst⟩ := first_of_find? hfound
      obtain ⟨a, hknown⟩ := answers_iff.1 hanswers
      obtain ⟨hne, m, hm, rfl⟩ := hknown
      have hmark : ((some c).bind fun c =>
          (h.method? { id with className := c }).map answer).getD .unknown = answer m := by
        rw [Option.bind_some, method?_eq_some_iff.2 hm, Option.map_some, Option.getD_some]
      rw [hmark]
      refine ⟨⟨fun heq => absurd heq hne, fun hnone => ?_⟩, fun _ => ?_⟩
      · have hbelow := mem_ancestors.1 (List.mem_of_find?_eq_some hfound)
        exact absurd ⟨hne, m, hm, rfl⟩ (hnone c hbelow (answer m))
      · refine ⟨c, choices.length, stepsTo_iff.2 ⟨choices, rfl, hchoices⟩, ⟨hne, m, hm, rfl⟩, ?_⟩
        intro d k b hd hb
        obtain ⟨others, rfl, hothers⟩ := stepsTo_iff.1 hd
        exact length_le_of_place_le (hfirst d (answers_iff.2 ⟨b, hb⟩) others hothers)

/-- **Annotations come from the nearest supertype that has a known one.** The walk upwards ends by
itself, and what is known of a returned value and of a parameter is the annotation of a class with as
few steps to it as any that declares the method with a known annotation. -/
theorem marks_nearestKnown (h : Hierarchy) (id : MethodId) (index : Nat) :
    (∀ more, reachableFrom h.supertypes (h.supertypeCount + more) id.className
      = h.ancestors id.className) ∧
    h.NearestKnown id (fun m => m.returnMark) (h.returnMark id) ∧
    h.NearestKnown id (fun m => m.parameterMarks[index]?.getD .unknown) (h.parameterMark id index) :=
  ⟨fun _ => ancestors_of_le (Nat.le_add_right _ _), nearestKnown_inheritedMark,
    nearestKnown_inheritedMark⟩

end Marks

end Hierarchy

end Nullness
