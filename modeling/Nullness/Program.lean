import Nullness.Instruction

/-!
# Programs

A program is a list of classes with their fields and methods. A method body is a control-flow graph
of straight-line blocks; abstract and native methods have none. Nullness annotations come with the
program and are taken at their word.
-/

namespace Nullness

/-- An annotation: what a declaration says about a reference. -/
inductive NullMark
  | nonNull
  /-- May be null and has to be checked before use. -/
  | checkForNull
  /-- May be null, without a duty to check. -/
  | nullable
  | unknown
deriving DecidableEq, Inhabited

/-- How control gets from one block to another. -/
inductive EdgeKind
  | fallThrough
  /-- The taken side of a branch, a jump or a switch. -/
  | branch
  | handledException
  /-- An exception that leaves the method. -/
  | unhandledException
deriving DecidableEq, Inhabited

/-- Whether an edge is taken by an exception. -/
def EdgeKind.isException : EdgeKind → Bool
  | .handledException | .unhandledException => true
  | .fallThrough | .branch => false

/-- An edge between blocks that are named by values of `β`. -/
structure Edge (β : Type) where
  source : β
  target : β
  kind : EdgeKind
deriving DecidableEq, Inhabited

/-- A straight-line sequence of instructions and the identifier it is declared with. -/
structure Block where
  id : Nat
  code : List Instruction
deriving DecidableEq, Inhabited

/-- The control-flow graph of a method as declared; `FlowGraph.ofBody` checks it. -/
structure Body where
  entry : Nat
  exit : Nat
  blocks : List Block
  edges : List (Edge Nat)
deriving DecidableEq, Inhabited

/-- A field as its class declares it. -/
structure FieldDecl where
  name : String
  descriptor : String
  isStatic : Bool
  mark : NullMark
deriving DecidableEq, Inhabited

/-- A method as its class declares it. -/
structure Method where
  name : String
  descriptor : String
  isPublic : Bool
  isStatic : Bool
  isAbstract : Bool
  returnMark : NullMark
  parameterMarks : List NullMark
  maxLocals : Nat
  maxStack : Nat
  body : Option Body
  /-- Parameters that the method dereferences on every path before it returns. -/
  dereferencedParameters : List Nat
deriving DecidableEq, Inhabited

/-- A class or an interface. -/
structure ClassDecl where
  name : String
  superName : Option String
  interfaces : List String
  isInterface : Bool
  isAbstract : Bool
  /-- Application classes are summarized; library classes only supply facts. -/
  isApplication : Bool
  fields : List FieldDecl
  methods : List Method
deriving DecidableEq, Inhabited

/-- A list of classes. -/
structure Program where
  classes : List ClassDecl
deriving DecidableEq, Inhabited

namespace ClassDecl

/-- The identifier of a method of the class. -/
def idOf (c : ClassDecl) (m : Method) : MethodId := ⟨c.name, m.name, m.descriptor⟩

/-- The first method with the given name and descriptor. -/
def method? (c : ClassDecl) (name descriptor : String) : Option Method :=
  c.methods.find? fun m => m.name = name ∧ m.descriptor = descriptor

/-- The first field with the given name and descriptor. -/
def field? (c : ClassDecl) (name descriptor : String) : Option FieldDecl :=
  c.fields.find? fun f => f.name = name ∧ f.descriptor = descriptor

/-- The direct superclass, if any, and then the interfaces. -/
def parents (c : ClassDecl) : List String := c.superName.toList ++ c.interfaces

end ClassDecl

/-- The class of a name; the last one declared counts. -/
def classNamed? (classes : List ClassDecl) (name : String) : Option ClassDecl :=
  classes.findRev? fun c => c.name = name

end Nullness
