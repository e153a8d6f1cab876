import Nullness.Program
import Nullness.Reachability
import Nullness.SortedMap

/-!
# The class hierarchy

Supertypes, declarations, and the methods that a call may run. Of several classes with one name the
last one counts for its supertypes, while every declared method is a declaration.

* `Hierarchy.inherited?`: the nearest declaration at or above a class;
* `Hierarchy.targets`: the methods that a call may run.
-/

namespace Nullness

/-- The classes of a program, as far as inheritance is concerned. -/
structure Hierarchy where
  classes : List ClassDecl

namespace Hierarchy

variable (h : Hierarchy)

/-- The direct superclass and the interfaces of a class; nothing for an unknown class. -/
def supertypes (name : String) : List String :=
  match classNamed? h.classes name with
  | none => []
  | some c => c.parents

/-- The number of direct supertypes of all classes, which bounds the steps of a walk upwards. -/
def supertypeCount : Nat := (h.classes.flatMap ClassDecl.parents).length

/-- A class and all its supertypes, nearest first. -/
def ancestors (name : String) : List String := reachableFrom h.supertypes h.supertypeCount name

/-- The classes that name a class as a direct supertype. -/
def subtypes (name : String) : List String :=
  (h.classes.map (·.name)).filter fun c => name ∈ h.supertypes c

/-- A class and everything below it. -/
def descendants (name : String) : List String :=
  reachableFrom h.subtypes (h.classes.length * h.classes.length) name

/-- Whether a class of the program declares the method. -/
def declares (id : MethodId) : Bool :=
  h.classes.any fun c => c.name = id.className &&
    c.methods.any fun m => m.name = id.name && m.descriptor = id.descriptor

/-- The nearest declaration of a method at or above a class. -/
def inherited? (className name descriptor : String) : Option MethodId :=
  ((h.ancestors className).map fun c => ⟨c, name, descriptor⟩).find? h.declares

/-- The classes below a class, not counting the class itself unless it is below itself. -/
def properDescendants (name : String) : List String :=
  (h.subtypes name).flatMap h.descendants

/-- The methods that a call may run, in ascending order. A static or special call runs the nearest
declaration; a virtual or interface call may also run one of any class below its owner. -/
def targets (call : CallSite) : List MethodId :=
  let inherited := (h.inherited? call.owner call.name call.descriptor).toList
  match call.kind with
  | .static | .special => inherited
  | .virtual | .interface =>
    let overriding := ((h.properDescendants call.owner).map fun c =>
      (⟨c, call.name, call.descriptor⟩ : MethodId)).filter h.declares
    (SortedSet.ofList (inherited ++ overriding)).toList

end Hierarchy

end Nullness
