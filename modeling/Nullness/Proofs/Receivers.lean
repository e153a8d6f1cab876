import Mathlib.Tactic
import Nullness.Hierarchy
import Nullness.Proofs.Reachability

/-!
# The methods that receivers run

A receiver runs the first declaration on the chain of superclasses of its class. A call finds the
declarations at and below its owner, and beyond these only the one that the owner itself inherits. A
class below the owner may inherit its method from elsewhere.

* `Hierarchy.Below`, `Hierarchy.Runs`: subclasses and subtypes, and what a receiver runs;
* `Hierarchy.mem_targets_iff`: **the targets of a call on a receiver;**
* `Hierarchy.runs_mem_targets_iff`: **which receivers a call finds.**
-/

namespace Nullness

namespace Hierarchy

variable {h : Hierarchy}

/-! ### Below a class -/

/-- A class is another one or lies below it, through superclasses and interfaces. -/
def Below (h : Hierarchy) : String → String → Prop :=
  Relation.ReflTransGen fun c p => p ∈ h.supertypes c

lemma mem_of_classNamed? {classes : List ClassDecl} {name : String} {c : ClassDecl}
    (hc : classNamed? classes name = some c) : c ∈ classes ∧ c.name = name := by
  rw [classNamed?, List.findRev?_eq_find?_reverse] at hc
  exact ⟨List.mem_reverse.1 (List.mem_of_find?_eq_some hc), by simpa using List.find?_some hc⟩

/-- Subtypes are listed where they name their supertypes. -/
lemma mem_subtypes {c p : String} : c ∈ h.subtypes p ↔ p ∈ h.supertypes c := by
  rw [subtypes, List.mem_filter, decide_eq_true_eq, and_iff_right_iff_imp]
  intro hp
  unfold supertypes at hp
  cases hc : classNamed? h.classes c with
  | none => simp [hc] at hp
  | some d =>
      obtain ⟨hmem, hname⟩ := mem_of_classNamed? hc
      exact List.mem_map.2 ⟨d, hmem, hname⟩

/-- The names of the classes of a program. -/
def names (h : Hierarchy) : Finset String := (h.classes.map (·.name)).toFinset

lemma mem_names_of_subtypes {c p : String} (hc : c ∈ h.subtypes p) : c ∈ h.names :=
  List.mem_toFinset.2 (List.mem_of_mem_filter hc)

/-- All listings of subtypes together are short enough. -/
lemma sum_subtypes_le :
    ∑ p ∈ h.names, (h.subtypes p).length ≤ h.classes.length * h.classes.length := by
  have heach : ∀ p ∈ h.names, (h.subtypes p).length ≤ h.classes.length := fun p _ =>
    (List.length_filter_le _ _).trans (List.length_map _).le
  have hcount : h.names.card ≤ h.classes.length :=
    (List.toFinset_card_le _).trans (List.length_map _).le
  exact (Finset.sum_le_card_nsmul _ _ _ heach).trans (Nat.mul_le_mul_right _ hcount)

/-- What is listed below a class of the program lies below it. -/
lemma mem_descendants {c p : String} (hp : p ∈ h.names) : c ∈ h.descendants p ↔ h.Below c p := by
  rw [descendants, mem_reachableFrom (fun _ _ _ hc => mem_names_of_subtypes hc) sum_subtypes_le hp,
    Below, ← Relation.reflTransGen_swap]
  simp only [mem_subtypes]

/-- What is listed below a class, apart from itself, lies below it by at least one step. -/
lemma mem_properDescendants {c p : String} : c ∈ h.properDescendants p ↔
    Relation.TransGen (fun c p => p ∈ h.supertypes c) c p := by
  rw [properDescendants, List.mem_flatMap, Relation.TransGen.tail'_iff]
  constructor
  · rintro ⟨child, hchild, hc⟩
    exact ⟨child, (mem_descendants (mem_names_of_subtypes hchild)).1 hc, mem_subtypes.1 hchild⟩
  · rintro ⟨child, hc, hchild⟩
    have hchild := mem_subtypes.2 hchild
    exact ⟨child, hchild, (mem_descendants (mem_names_of_subtypes hchild)).2 hc⟩

/-! ### What a receiver runs -/

/-- A class has another one as its direct superclass. -/
def Extends (h : Hierarchy) (c p : String) : Prop :=
  ∃ d, classNamed? h.classes c = some d ∧ d.superName = some p

/-- A receiver of a class runs the method of that name and descriptor in another class, the first
one on the chain of its superclasses that declares it. -/
inductive Runs (h : Hierarchy) (name descriptor : String) : String → String → Prop
  | here {c : String} : h.declares ⟨c, name, descriptor⟩ = true → Runs h name descriptor c c
  | up {c p d : String} : h.declares ⟨c, name, descriptor⟩ = false → h.Extends c p →
      Runs h name descriptor p d → Runs h name descriptor c d

lemma Runs.declares {name descriptor c d : String} (hruns : h.Runs name descriptor c d) :
    h.declares ⟨d, name, descriptor⟩ = true := by
  induction hruns with
  | here hdeclares => exact hdeclares
  | up _ _ _ ih => exact ih

/-- A class that declares a method inherits its own. -/
lemma inherited?_of_declares {name descriptor c : String}
    (hdeclares : h.declares ⟨c, name, descriptor⟩ = true) :
    h.inherited? c name descriptor = some ⟨c, name, descriptor⟩ := by
  have hself : ∃ above, h.ancestors c = c :: above := by
    rw [ancestors, reachableFrom, listReachable, if_neg List.not_mem_nil]
    exact ⟨_, rfl⟩
  obtain ⟨above, hself⟩ := hself
  rw [inherited?, hself, List.map_cons, List.find?_cons_of_pos hdeclares]

/-- **The targets of a call on a receiver:** what the owner inherits, and what is declared below it.
-/
theorem mem_targets_iff {call : CallSite} (hcall : call.kind = .virtual ∨ call.kind = .interface)
    {id : MethodId} : id ∈ h.targets call ↔
      h.inherited? call.owner call.name call.descriptor = some id ∨
      h.declares id = true ∧ id.name = call.name ∧ id.descriptor = call.descriptor ∧
        Relation.TransGen (fun c p => p ∈ h.supertypes c) id.className call.owner := by
  have hlisted : id ∈ h.targets call ↔
      id ∈ (h.inherited? call.owner call.name call.descriptor).toList ∨
        id ∈ ((h.properDescendants call.owner).map fun c =>
          (⟨c, call.name, call.descriptor⟩ : MethodId)).filter h.declares := by
    rcases hcall with hkind | hkind <;>
    · rw [targets, hkind]
      exact SortedSet.mem_toList.trans (SortedSet.mem_ofList.trans List.mem_append)
  rw [hlisted, Option.mem_toList, List.mem_filter, List.mem_map]
  refine or_congr_right ⟨?_, ?_⟩
  · rintro ⟨⟨c, hc, rfl⟩, hdeclares⟩
    exact ⟨hdeclares, rfl, rfl, mem_properDescendants.1 hc⟩
  · rintro ⟨hdeclares, hname, hdescriptor, hbelow⟩
    refine ⟨⟨id.className, mem_properDescendants.2 hbelow, ?_⟩, hdeclares⟩
    rw [← hname, ← hdescriptor]

/-- **Which receivers a call finds.** What a receiver runs is among the targets exactly when it is
declared at or below the owner of the call, or is the nearest declaration that the owner inherits.
-/
theorem runs_mem_targets_iff {call : CallSite}
    (hcall : call.kind = .virtual ∨ call.kind = .interface) {c d : String}
    (hruns : h.Runs call.name call.descriptor c d) :
    ⟨d, call.name, call.descriptor⟩ ∈ h.targets call ↔ h.Below d call.owner ∨
      h.inherited? call.owner call.name call.descriptor
        = some ⟨d, call.name, call.descriptor⟩ := by
  rw [mem_targets_iff hcall, Below, Relation.reflTransGen_iff_eq_or_transGen]
  constructor
  · rintro (hinherited | ⟨-, -, -, hbelow⟩)
    · exact .inr hinherited
    · exact .inl (.inr hbelow)
  · rintro ((heq | hbelow) | hinherited)
    · have hdeclares := hruns.declares
      rw [← heq] at hdeclares ⊢
      exact .inl (inherited?_of_declares hdeclares)
    · exact .inr ⟨hruns.declares, rfl, rfl, hbelow⟩
    · exact .inl hinherited

/-- A method without a body. -/
def mixinMethod : Method where
  name := "m"
  descriptor := "()V"
  isPublic := true
  isStatic := false
  isAbstract := false
  returnMark := .unknown
  parameterMarks := []
  maxLocals := 1
  maxStack := 0
  body := none
  dereferencedParameters := []

/-- A class that takes the method of an interface from a superclass that does not implement it. -/
def mixin : Hierarchy where
  classes := [
    { name := "I", superName := none, interfaces := [], isInterface := true, isAbstract := true,
      isApplication := true, fields := [], methods := [mixinMethod] },
    { name := "Base", superName := none, interfaces := [], isInterface := false,
      isAbstract := false, isApplication := true, fields := [], methods := [mixinMethod] },
    { name := "C", superName := some "Base", interfaces := ["I"], isInterface := false,
      isAbstract := false, isApplication := true, fields := [], methods := [] }]

lemma extends_mixin {c p : String} (hextends : mixin.Extends c p) : c = "C" ∧ p = "Base" := by
  obtain ⟨d, hd, hsuper⟩ := hextends
  obtain ⟨hmem, rfl⟩ := mem_of_classNamed? hd
  fin_cases hmem
  · cases hsuper
  · cases hsuper
  · exact ⟨rfl, (Option.some.inj hsuper).symm⟩

/-- A receiver of the class runs the method of its superclass. -/
lemma runs_mixin : mixin.Runs "m" "()V" "C" "Base" :=
  .up (by decide) ⟨_, rfl, rfl⟩ (.here (by decide))

/-- A call on the superclass finds that method. -/
theorem runs_mem_targets_mixin : mixin.Runs "m" "()V" "C" "Base" ∧
    ⟨"Base", "m", "()V"⟩ ∈ mixin.targets ⟨"Base", "m", "()V", .virtual⟩ :=
  ⟨runs_mixin, (@runs_mem_targets_iff mixin ⟨"Base", "m", "()V", .virtual⟩ (.inl rfl) "C" "Base"
    runs_mixin).2 (.inl .refl)⟩

/-- **A call on the interface misses it**, although no name is used twice and no class is its own
superclass. -/
theorem runs_not_mem_targets_mixin : (mixin.classes.map (·.name)).Nodup ∧
    (∀ c, ¬ Relation.TransGen mixin.Extends c c) ∧
    ∃ call : CallSite, call.kind = .interface ∧ ∃ c ∈ mixin.classes.map (·.name),
      mixin.Below c call.owner ∧ ∃ d, mixin.Runs call.name call.descriptor c d ∧
        ⟨d, call.name, call.descriptor⟩ ∉ mixin.targets call := by
  refine ⟨by decide, fun c hcycle => ?_, ⟨"I", "m", "()V", .interface⟩, rfl, "C", by decide,
    .single (by decide), "Base", runs_mixin, by decide +kernel⟩
  obtain ⟨_, hfirst, -⟩ := Relation.TransGen.head'_iff.1 hcycle
  obtain ⟨_, -, hlast⟩ := Relation.TransGen.tail'_iff.1 hcycle
  have hname : "C" = "Base" := (extends_mixin hfirst).1.symm.trans (extends_mixin hlast).2
  exact absurd hname (by decide)

end Hierarchy

end Nullness
