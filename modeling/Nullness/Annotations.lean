import Nullness.Hierarchy

/-!
# Annotations of a program

What the declarations of a program say about fields, returned values and parameters. An unknown
annotation of a method is inherited from the nearest supertype declaration that has a known one; a
field is looked up along the superclasses, and the first declaration counts whatever it says.

Of several classes with one name the last one counts, of several equal members of a class the first.

* `Hierarchy.inheritedMark`: the nearest known answer;
* `Hierarchy.requiredParameters`: the arguments that every target of a call needs to be not null.
-/

namespace Nullness

namespace Hierarchy

variable (h : Hierarchy)

/-- The declaration of a method in its own class. -/
def method? (id : MethodId) : Option Method :=
  (classNamed? h.classes id.className).bind fun c => c.method? id.name id.descriptor

/-- The first known answer from a class upwards, of those that declare the method. -/
def inheritedMark (id : MethodId) (answer : Method → NullMark) : NullMark :=
  let answers := (h.ancestors id.className).filterMap fun c =>
    (h.method? { id with className := c }).map answer
  (answers.find? fun a => a ≠ .unknown).getD .unknown

/-- What is known of the value that a method returns. -/
def returnMark (id : MethodId) : NullMark :=
  h.inheritedMark id (·.returnMark)

/-- What a method says itself about a parameter. -/
def ownParameterMark (m : Method) (index : Nat) : NullMark :=
  m.parameterMarks[index]?.getD .unknown

/-- What is known of a parameter of a method. -/
def parameterMark (id : MethodId) (index : Nat) : NullMark :=
  h.inheritedMark id fun m => ownParameterMark m index

/-- Looks a field up in a class and then in its superclasses, as many as the bound allows. -/
def fieldFrom (field : FieldRef) : Nat → Option String → NullMark
  | 0, _ => .unknown
  | _, none => .unknown
  | bound + 1, some name =>
    match classNamed? h.classes name with
    | none => .unknown
    | some c =>
      match c.field? field.name field.descriptor with
      | some declared => declared.mark
      | none => fieldFrom field bound c.superName

/-- What is known of a field. Unless a class is its own superclass, a walk upwards meets every class
at most once. -/
def fieldMark (field : FieldRef) : NullMark :=
  h.fieldFrom field (h.classes.length + 1) (some field.owner)

/-- The parameters that a declared method needs to be not null: those it dereferences, and those
that are annotated so. -/
def requiredBy (id : MethodId) (m : Method) : SortedSet Nat :=
  .ofList (m.dereferencedParameters ++
    (List.range m.parameterMarks.length).filter fun i => h.parameterMark id i = .nonNull)

/-- The arguments that every target of a call needs to be not null; the method that the call names
stands in when no target is known. A target outside the program needs nothing. -/
def requiredParameters (call : CallSite) (targets : List MethodId) : SortedSet Nat :=
  let targets := if targets.isEmpty then [call.declared] else targets
  match targets.mapM fun id => (h.method? id).map (h.requiredBy id) with
  | none | some [] => .empty
  | some (first :: rest) => rest.foldl SortedSet.inter first

end Hierarchy

end Nullness
