import Nullness.Error

/-!
# Method descriptors

A method descriptor lists the parameter types between parentheses and then the return type, as in
`(ILjava/lang/Object;[J)V`. How such a text is read is a parameter of the library, so that what
holds of the analyses does not depend on what a reader makes of a malformed one.

* `MethodDescriptor.render`: the spelling of a descriptor;
* `DescriptorReader`: a way to read descriptors, with which `MethodDescriptor.parse` reads one;
* `MethodDescriptor.parameterSlots`, `MethodDescriptor.returnKind`: what the analyses ask of one.
-/

namespace Nullness

/-- A type as descriptors spell it. -/
inductive JvmType
  | void
  | boolean
  | byte
  | char
  | short
  | int
  | long
  | float
  | double
  | object (name : List Char)
  /-- An array of the given number of dimensions. -/
  | array (dimensions : Nat) (element : JvmType)
deriving DecidableEq, Inhabited

namespace JvmType

/-- Whether values of the type are references. -/
def isReference : JvmType → Bool
  | .object _ | .array _ _ => true
  | _ => false

/-- The local-variable slots that a value of the type occupies. -/
def slots : JvmType → Nat
  | .long | .double => 2
  | _ => 1

/-- The greatest number of dimensions of an array type. -/
def maxDimensions : Nat := 255

/-- The spelling of a type. -/
def render : JvmType → List Char
  | .void => ['V']
  | .boolean => ['Z']
  | .byte => ['B']
  | .char => ['C']
  | .short => ['S']
  | .int => ['I']
  | .long => ['J']
  | .float => ['F']
  | .double => ['D']
  | .object name => 'L' :: name ++ [';']
  | .array dimensions element => List.replicate dimensions '[' ++ element.render

end JvmType

/-- Parameter types and return type of a method. -/
structure MethodDescriptor where
  parameters : List JvmType
  result : JvmType
deriving DecidableEq, Inhabited

/-- What a method returns, as far as nullness is concerned. -/
inductive ReturnKind
  | void
  | primitive
  | reference
deriving DecidableEq

/-- How method descriptors are read. The library works with any reader. -/
class DescriptorReader where
  read : String → Except DescriptorError MethodDescriptor

namespace MethodDescriptor

/-- The spelling of a method descriptor. -/
def render (d : MethodDescriptor) : List Char :=
  '(' :: d.parameters.flatMap JvmType.render ++ ')' :: d.result.render

/-- Reads a method descriptor. -/
def parse [DescriptorReader] (text : String) : Except Error MethodDescriptor :=
  match DescriptorReader.read text with
  | .ok d => .ok d
  | .error e => .error (.descriptor e)

/-- The kind of the return type. -/
def returnKind (d : MethodDescriptor) : ReturnKind :=
  match d.result with
  | .void => .void
  | .object _ | .array _ _ => .reference
  | _ => .primitive

/-- The slots of parameters that start at a given slot. -/
def slotsFrom : Nat → List JvmType → List Nat
  | _, [] => []
  | slot, t :: ts => slot :: slotsFrom (slot + t.slots) ts

/-- The local slot of each parameter. An instance method keeps its receiver in slot 0, and a
`long` or `double` takes two slots. -/
def parameterSlots (d : MethodDescriptor) (isStatic : Bool) : List Nat :=
  slotsFrom (if isStatic then 0 else 1) d.parameters

/-- Which parameters are references. -/
def referenceParameters (d : MethodDescriptor) : List Bool := d.parameters.map (·.isReference)

end MethodDescriptor

/-- Whether a field descriptor names a reference type. -/
def isReferenceField (descriptor : String) : Bool :=
  match descriptor.toList with
  | 'L' :: _ | '[' :: _ => true
  | _ => false

end Nullness
