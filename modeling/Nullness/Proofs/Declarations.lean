import Mathlib.Data.List.Forall2
import Mathlib.Tactic
import Nullness.Annotations
import Nullness.Proofs.Receivers

/-!
# Declarations

Calls are resolved and annotations looked up in what the classes of a program declare. The bodies of
the methods are not looked at, nor is the order in which a class lists its members, as long as no
two of them have one name. Programs are compared in a view of their methods, which leaves out what is
not asked for.

* `ClassDecl.Alike`, `Hierarchy.Alike`: the same declarations, as far as a view of methods shows;
* `Hierarchy.alike_of_forall₂`: hierarchies are alike when their classes are, one by one;
* `Hierarchy.Alike.targets_eq`, `Hierarchy.Alike.fieldMark_eq`, `Hierarchy.Alike.returnMark_eq`,
  `Hierarchy.Alike.parameterMark_eq`, `Hierarchy.Alike.requiredParameters_eq`: **hierarchies that
  are alike give the same answers.**
-/

namespace Nullness

/-! ### Lists that correspond -/

lemma map_eq_map_of_forall₂ {α β γ : Type} {R : α → β → Prop} {f : α → γ} {f' : β → γ}
    (hf : ∀ a b, R a b → f a = f' b) {l : List α} {l' : List β} (h : List.Forall₂ R l l') :
    l.map f = l'.map f' := by
  rw [← List.forall₂_eq_eq_eq, List.forall₂_map_left_iff, List.forall₂_map_right_iff]
  exact h.imp hf

lemma any_eq_any_of_forall₂ {α β : Type} {R : α → β → Prop} {p : α → Bool} {p' : β → Bool}
    (hp : ∀ a b, R a b → p a = p' b) {l : List α} {l' : List β} (h : List.Forall₂ R l l') :
    l.any p = l'.any p' := by
  induction h with
  | nil => rfl
  | cons hab _ ih => rw [List.any_cons, List.any_cons, hp _ _ hab, ih]

/-- Searches for the same come to a halt at corresponding values. -/
lemma find?_forall₂ {α β : Type} {R : α → β → Prop} {p : α → Bool} {p' : β → Bool}
    (hp : ∀ a b, R a b → p a = p' b) {l : List α} {l' : List β} (h : List.Forall₂ R l l') :
    Option.Rel R (l.find? p) (l'.find? p') := by
  induction h with
  | nil => exact .none
  | @cons a b l l' hab _ ih =>
      rw [List.find?_cons, List.find?_cons, hp a b hab]
      cases p' b with
      | true => exact .some hab
      | false => exact ih

/-! ### Alike classes -/

/-- A method without its body and the cells that the body uses. -/
def Method.declaration (m : Method) : Method :=
  { m with maxLocals := 0, maxStack := 0, body := none }

/-- Two classes of one name with the same supertypes, whose members declare the same in a view of
methods. -/
structure ClassDecl.Alike {α : Type} (view : Method → α) (c c' : ClassDecl) : Prop where
  name_eq : c.name = c'.name
  superName_eq : c.superName = c'.superName
  interfaces_eq : c.interfaces = c'.interfaces
  method?_eq : ∀ name descriptor,
    (c.method? name descriptor).map view = (c'.method? name descriptor).map view
  field?_eq : ∀ name descriptor, c.field? name descriptor = c'.field? name descriptor

variable {α : Type} {view : Method → α} {c c' : ClassDecl}

/-- Classes are alike when they are the same but for methods that look alike, one by one. -/
lemma ClassDecl.alike_of_methods
    (hname : ∀ m m', view m = view m' → m.name = m'.name ∧ m.descriptor = m'.descriptor)
    (hrest : { c with methods := c'.methods } = c')
    (hmethods : List.Forall₂ (fun m m' => view m = view m') c.methods c'.methods) :
    c.Alike view c' where
  name_eq := (congrArg name hrest :)
  superName_eq := (congrArg superName hrest :)
  interfaces_eq := (congrArg interfaces hrest :)
  method?_eq name descriptor := by
    have hrel : Option.Rel (fun m m' => view m = view m')
        (c.method? name descriptor) (c'.method? name descriptor) :=
      find?_forall₂ (fun m m' hm => by rw [(hname m m' hm).1, (hname m m' hm).2]) hmethods
    generalize c.method? name descriptor = m? at hrel ⊢
    generalize c'.method? name descriptor = m'? at hrel ⊢
    cases hrel with
    | none => rfl
    | some hm => exact congrArg some hm
  field?_eq name descriptor := by
    have hfields : c.fields = c'.fields := (congrArg fields hrest :)
    rw [field?, field?, hfields]

namespace ClassDecl.Alike

variable (hc : c.Alike view c')
include hc

lemma parents_eq : c.parents = c'.parents := by
  rw [parents, parents, hc.superName_eq, hc.interfaces_eq]

lemma any_methods_eq (name descriptor : String) :
    (c.methods.any fun m => m.name = name && m.descriptor = descriptor) =
      c'.methods.any fun m => m.name = name && m.descriptor = descriptor := by
  have hany : ∀ c : ClassDecl, (c.methods.any fun m => m.name = name && m.descriptor = descriptor) =
      ((c.method? name descriptor).map view).isSome := fun c => by
    simp [method?, List.isSome_find?]
  rw [hany, hany, hc.method?_eq]

end ClassDecl.Alike

namespace Hierarchy

/-- Two hierarchies of as many classes, those of one name being alike. -/
structure Alike (view : Method → α) (h h' : Hierarchy) : Prop where
  classNamed? : ∀ name,
    Option.Rel (ClassDecl.Alike view) (classNamed? h.classes name) (classNamed? h'.classes name)
  declares_eq : ∀ id, h.declares id = h'.declares id
  length_eq : h.classes.length = h'.classes.length
  supertypeCount_eq : h.supertypeCount = h'.supertypeCount

variable {h h' : Hierarchy}

/-- Hierarchies are alike when their classes are, one by one. -/
lemma alike_of_forall₂ (hclasses : List.Forall₂ (ClassDecl.Alike view) h.classes h'.classes) :
    h.Alike view h' where
  classNamed? name := by
    rw [Nullness.classNamed?, Nullness.classNamed?, List.findRev?_eq_find?_reverse,
      List.findRev?_eq_find?_reverse]
    exact find?_forall₂ (fun c c' hc => by rw [hc.name_eq]) (List.rel_reverse hclasses)
  declares_eq id :=
    any_eq_any_of_forall₂ (fun c c' hc => by rw [hc.name_eq, hc.any_methods_eq]) hclasses
  length_eq := hclasses.length_eq
  supertypeCount_eq := by
    have hparents : h.classes.map ClassDecl.parents = h'.classes.map ClassDecl.parents :=
      map_eq_map_of_forall₂ (fun c c' hc => hc.parents_eq) hclasses
    rw [supertypeCount, supertypeCount, List.flatMap_def, List.flatMap_def, hparents]

namespace Alike

variable (hh : h.Alike view h')
include hh

/-- A name is unknown to both hierarchies, or names alike classes. -/
lemma classNamed?_cases (name : String) :
    (Nullness.classNamed? h.classes name = none ∧ Nullness.classNamed? h'.classes name = none) ∨
      ∃ c c', Nullness.classNamed? h.classes name = some c ∧
        Nullness.classNamed? h'.classes name = some c' ∧ c.Alike view c' := by
  have hrel := hh.classNamed? name
  generalize Nullness.classNamed? h.classes name = c? at hrel ⊢
  generalize Nullness.classNamed? h'.classes name = c'? at hrel ⊢
  cases hrel with
  | none => exact .inl ⟨rfl, rfl⟩
  | some hc => exact .inr ⟨_, _, rfl, rfl, hc⟩

/-! ### Calls -/

lemma supertypes_eq : h.supertypes = h'.supertypes := by
  funext name
  rw [supertypes, supertypes]
  obtain ⟨hc, hc'⟩ | ⟨c, c', hc, hc', halike⟩ := hh.classNamed?_cases name
  · rw [hc, hc']
  · rw [hc, hc']
    exact halike.parents_eq

lemma ancestors_eq (name : String) : h.ancestors name = h'.ancestors name := by
  rw [ancestors, ancestors, hh.supertypes_eq, hh.supertypeCount_eq]

lemma inherited?_eq (className name descriptor : String) :
    h.inherited? className name descriptor = h'.inherited? className name descriptor := by
  rw [inherited?, inherited?, hh.ancestors_eq, funext hh.declares_eq]

/-- A call may run the same methods. The classes below its owner are listed in the order of the
program, but the methods in ascending order. -/
lemma targets_eq (call : CallSite) : h.targets call = h'.targets call := by
  have hbelow : ∀ c, c ∈ h.properDescendants call.owner ↔ c ∈ h'.properDescendants call.owner :=
    fun c => by rw [mem_properDescendants, mem_properDescendants, hh.supertypes_eq]
  have hset : ∀ inherited : List MethodId,
      SortedSet.ofList (inherited ++ ((h.properDescendants call.owner).map fun c =>
        (⟨c, call.name, call.descriptor⟩ : MethodId)).filter h.declares) =
      SortedSet.ofList (inherited ++ ((h'.properDescendants call.owner).map fun c =>
        (⟨c, call.name, call.descriptor⟩ : MethodId)).filter h'.declares) := fun inherited => by
    refine SortedSet.ext_mem fun id => Bool.eq_iff_iff.2 ?_
    simp only [SortedSet.mem_ofList, List.mem_append, List.mem_filter, List.mem_map, hbelow,
      hh.declares_eq]
  unfold targets
  simp only [hh.inherited?_eq, hset]

/-! ### Annotations -/

lemma method?_eq (id : MethodId) :
    (h.method? id).map view = (h'.method? id).map view := by
  rw [method?, method?]
  obtain ⟨hc, hc'⟩ | ⟨c, c', hc, hc', halike⟩ := hh.classNamed?_cases id.className
  · rw [hc, hc']
  · rw [hc, hc']
    exact halike.method?_eq id.name id.descriptor

/-- What the view shows of a method is answered alike. -/
lemma map_method?_eq {β : Type} {answer answer' : Method → β}
    (hanswer : ∀ m m', view m = view m' → answer m = answer' m') (id : MethodId) :
    (h.method? id).map answer = (h'.method? id).map answer' := by
  have hmethod := hh.method?_eq id
  generalize h.method? id = m? at hmethod ⊢
  generalize h'.method? id = m'? at hmethod ⊢
  cases m? with
  | none => cases m'? with
    | none => rfl
    | some m' => cases hmethod
  | some m => cases m'? with
    | none => cases hmethod
    | some m' => exact congrArg some (hanswer m m' (Option.some.inj hmethod))

lemma inheritedMark_eq {answer : Method → NullMark}
    (hanswer : ∀ m m', view m = view m' → answer m = answer m') (id : MethodId) :
    h.inheritedMark id answer = h'.inheritedMark id answer := by
  simp only [inheritedMark, hh.ancestors_eq, hh.map_method?_eq hanswer]

lemma returnMark_eq (hview : ∀ m m', view m = view m' → m.returnMark = m'.returnMark)
    (id : MethodId) : h.returnMark id = h'.returnMark id :=
  hh.inheritedMark_eq hview id

lemma parameterMark_eq (hview : ∀ m m', view m = view m' → m.parameterMarks = m'.parameterMarks)
    (id : MethodId) (i : Nat) : h.parameterMark id i = h'.parameterMark id i :=
  hh.inheritedMark_eq (fun m m' hm => by rw [ownParameterMark, ownParameterMark, hview m m' hm]) id

lemma fieldFrom_eq (field : FieldRef) (bound : Nat) (name : Option String) :
    h.fieldFrom field bound name = h'.fieldFrom field bound name := by
  induction bound generalizing name with
  | zero => cases name <;> rfl
  | succ bound ih =>
      cases name with
      | none => rfl
      | some name =>
          rw [fieldFrom, fieldFrom]
          obtain ⟨hc, hc'⟩ | ⟨c, c', hc, hc', halike⟩ := hh.classNamed?_cases name
          · rw [hc, hc']
          · simp only [hc, hc', halike.field?_eq, halike.superName_eq, ih]

lemma fieldMark_eq (field : FieldRef) : h.fieldMark field = h'.fieldMark field := by
  rw [fieldMark, fieldMark, hh.length_eq, hh.fieldFrom_eq]

/-- What a call needs of its arguments is the same if the view shows all that is needed. -/
lemma requiredParameters_eq
    (hmarks : ∀ m m', view m = view m' → m.parameterMarks = m'.parameterMarks)
    (hdereferenced : ∀ m m', view m = view m' →
      m.dereferencedParameters = m'.dereferencedParameters)
    (call : CallSite) (targets : List MethodId) :
    h.requiredParameters call targets = h'.requiredParameters call targets := by
  have hmethod : ∀ id m m', view m = view m' → h.requiredBy id m = h'.requiredBy id m' :=
    fun id m m' hm => by
      simp only [requiredBy, hmarks m m' hm, hdereferenced m m' hm, hh.parameterMark_eq hmarks]
  have hrequired : (fun id => (h.method? id).map (h.requiredBy id)) =
      fun id => (h'.method? id).map (h'.requiredBy id) :=
    funext fun id => hh.map_method?_eq (hmethod id) id
  rw [requiredParameters, requiredParameters, hrequired]

end Alike

end Hierarchy

end Nullness
