import Mathlib.Tactic
import Nullness.Annotations

/-!
# Required arguments

A call needs an argument to be not null when all its targets do, be it that they dereference the
parameter or that their annotation, which may be inherited, says so. Of the annotated parameters
those are looked at that the target's own list of annotations is long enough for. A target that
inherits an annotation and lists none itself is not seen to need the argument.

* `Hierarchy.NeedsNonNull`, `Hierarchy.Lists`: what a method needs, and the parameters that its own
  declaration speaks of;
* `Hierarchy.mem_requiredParameters_iff`: **the required arguments of a call.**
-/

namespace Nullness

lemma SortedSet.mem_foldl_inter {κ : Type} [Ord κ] [Std.LawfulEqOrd κ] {k : κ}
    {rest : List (SortedSet κ)} {first : SortedSet κ} :
    SortedSet.mem (rest.foldl SortedSet.inter first) k = true ↔
      ∀ s ∈ first :: rest, SortedSet.mem s k = true := by
  induction rest generalizing first with
  | nil => simp
  | cons s rest ih =>
      rw [List.foldl_cons, ih]
      simp only [List.forall_mem_cons, mem_inter, Bool.and_eq_true, and_assoc]

/-- All answers exist and have a property exactly when each of them does. -/
lemma exists_mapM_forall {α β : Type} {f : α → Option β} {P : β → Prop} {xs : List α} :
    (∃ ys, xs.mapM f = some ys ∧ ∀ y ∈ ys, P y) ↔ ∀ x ∈ xs, ∃ y, f x = some y ∧ P y := by
  induction xs with
  | nil => simp
  | cons x xs ih =>
      rw [List.forall_mem_cons, ← ih, List.mapM_cons]
      simp only [Option.bind_eq_bind, Option.bind_eq_some_iff, Option.pure_def, Option.some_inj]
      constructor
      · rintro ⟨_, ⟨y, hy, ys, hys, rfl⟩, hall⟩
        obtain ⟨hfirst, hrest⟩ := List.forall_mem_cons.1 hall
        exact ⟨⟨y, hy, hfirst⟩, ys, hys, hrest⟩
      · rintro ⟨⟨y, hy, hfirst⟩, ys, hys, hrest⟩
        exact ⟨_, ⟨y, hy, ys, hys, rfl⟩, List.forall_mem_cons.2 ⟨hfirst, hrest⟩⟩

namespace Hierarchy

variable {h : Hierarchy} {id : MethodId} {m : Method} {i : Nat}

/-- A method dereferences a parameter, or the parameter is annotated, here or in a supertype, as one
that is not null. -/
def NeedsNonNull (h : Hierarchy) (id : MethodId) (i : Nat) : Prop :=
  (∃ m, h.method? id = some m ∧ i ∈ m.dereferencedParameters) ∨ h.parameterMark id i = .nonNull

/-- A method is declared and says itself that it dereferences a parameter, or has an annotation of
its own for the parameter, whatever it says. -/
def Lists (h : Hierarchy) (id : MethodId) (i : Nat) : Prop :=
  ∃ m, h.method? id = some m ∧ (i ∈ m.dereferencedParameters ∨ i < m.parameterMarks.length)

lemma mem_requiredBy : SortedSet.mem (h.requiredBy id m) i = true ↔
    i ∈ m.dereferencedParameters ∨
      i < m.parameterMarks.length ∧ h.parameterMark id i = .nonNull := by
  rw [requiredBy, SortedSet.mem_ofList, List.mem_append, List.mem_filter, List.mem_range,
    decide_eq_true_eq]

/-- A target requires what it needs and lists. -/
lemma requiredBy_iff : (∃ s, (h.method? id).map (h.requiredBy id) = some s ∧
    SortedSet.mem s i = true) ↔ h.NeedsNonNull id i ∧ h.Lists id i := by
  simp only [Option.map_eq_some_iff]
  constructor
  · rintro ⟨_, ⟨m, hm, rfl⟩, hmem⟩
    rcases mem_requiredBy.1 hmem with hdereferenced | ⟨hlength, hmark⟩
    · exact ⟨.inl ⟨m, hm, hdereferenced⟩, m, hm, .inl hdereferenced⟩
    · exact ⟨.inr hmark, m, hm, .inr hlength⟩
  · rintro ⟨hneeds, m, hm, hlists⟩
    refine ⟨_, ⟨m, hm, rfl⟩, mem_requiredBy.2 ?_⟩
    rcases hneeds with ⟨m', hm', hdereferenced⟩ | hmark
    · obtain rfl := Option.some.inj (hm.symm.trans hm')
      exact .inl hdereferenced
    · exact hlists.imp_right fun hlength => ⟨hlength, hmark⟩

/-- **The required arguments of a call:** those that all its targets need and list. -/
theorem mem_requiredParameters_iff {call : CallSite} {targets : List MethodId}
    (hne : targets ≠ []) : SortedSet.mem (h.requiredParameters call targets) i = true ↔
      (∀ id ∈ targets, h.NeedsNonNull id i) ∧ ∀ id ∈ targets, h.Lists id i := by
  have hcommon : SortedSet.mem (h.requiredParameters call targets) i = true ↔
      ∃ sets, (targets.mapM fun id => (h.method? id).map (h.requiredBy id)) = some sets ∧
        ∀ s ∈ sets, SortedSet.mem s i = true := by
    rw [requiredParameters, if_neg (by simpa using hne)]
    split
    · rename_i hnone
      simp [hnone]
    · rename_i hnil
      obtain ⟨id, rest, rfl⟩ := List.exists_cons_of_ne_nil hne
      simp [List.mapM_cons, Option.bind_eq_some_iff] at hnil
    · rename_i first rest hsome
      rw [SortedSet.mem_foldl_inter, hsome]
      simp
  rw [hcommon, exists_mapM_forall]
  simp only [requiredBy_iff]
  exact forall₂_and

/-- A method of one parameter, with what it says about its parameters. -/
def annotated (parameterMarks : List NullMark) (dereferencedParameters : List Nat) : Method where
  name := "m"
  descriptor := "(LA;)V"
  isPublic := true
  isStatic := false
  isAbstract := false
  returnMark := .unknown
  parameterMarks
  maxLocals := 2
  maxStack := 0
  body := none
  dereferencedParameters

/-- A class whose parameter is annotated, and a subclass that overrides its method. -/
def override (overriding : Method) : Hierarchy where
  classes := [
    { name := "Base", superName := none, interfaces := [], isInterface := false,
      isAbstract := false, isApplication := true, fields := [],
      methods := [annotated [.nonNull] []] },
    { name := "Sub", superName := some "Base", interfaces := [], isInterface := false,
      isAbstract := false, isApplication := true, fields := [], methods := [overriding] }]

/-- An annotation is inherited where the overriding method has one of its own that is not known. -/
theorem mem_requiredParameters_override :
    [⟨"Base", "m", "(LA;)V"⟩, ⟨"Sub", "m", "(LA;)V"⟩] ≠ ([] : List MethodId) ∧
    SortedSet.mem ((override (annotated [.unknown] [])).requiredParameters
      ⟨"Base", "m", "(LA;)V", .virtual⟩ [⟨"Base", "m", "(LA;)V"⟩, ⟨"Sub", "m", "(LA;)V"⟩]) 0
      = true := by
  have hmark : ∀ id ∈ [(⟨"Base", "m", "(LA;)V"⟩ : MethodId), ⟨"Sub", "m", "(LA;)V"⟩],
      (override (annotated [.unknown] [])).parameterMark id 0 = .nonNull := by decide +kernel
  refine ⟨by simp, (mem_requiredParameters_iff (by simp)).2
    ⟨fun id hid => .inr (hmark id hid), fun id hid => ?_⟩⟩
  simp only [List.mem_cons, List.not_mem_nil, or_false] at hid
  rcases hid with rfl | rfl
  · exact ⟨annotated [.nonNull] [], by decide +kernel, .inr (by decide)⟩
  · exact ⟨annotated [.unknown] [], by decide +kernel, .inr (by decide)⟩

/-- **An inherited annotation may be missed.** The only target is declared and inherits that its
parameter is not null, but the argument is not required. -/
theorem not_mem_requiredParameters_override :
    ∃ h : Hierarchy, ∃ call targets, targets ≠ [] ∧ (∀ id ∈ targets, h.declares id = true) ∧
      h.targets call = targets ∧ (∀ id ∈ targets, h.parameterMark id 0 = .nonNull) ∧
      SortedSet.mem (h.requiredParameters call targets) 0 = false :=
  ⟨override (annotated [] []), ⟨"Sub", "m", "(LA;)V", .virtual⟩, [⟨"Sub", "m", "(LA;)V"⟩],
    by simp, by decide +kernel, by decide +kernel, by decide +kernel, by decide +kernel⟩

end Hierarchy

end Nullness
