import Nullness.MethodId

/-!
# Causes of failure

Every operation of the library that can fail names its cause by a value of `Error`. A cause may be
wrapped in the contexts in which it arose; `Error.chain` lists the messages from the outermost
context to the cause, and `Error.message` joins them.
-/

namespace Nullness

/-- Why a text is not a method descriptor. -/
inductive DescriptorError
  | unexpectedEnd
  | tooManyDimensions
  | noOpeningParenthesis
  | unterminatedName
  | unrecognizedType
  /-- A closing parenthesis stands where the element type of an array belongs. -/
  | missingElementType
  | missingReturnType
deriving DecidableEq

/-- Why a method body is not a flow graph. -/
inductive GraphError
  | misplacedBlock (id index : Nat)
  | missingEntry (id : Nat)
  | missingExit (id : Nat)
  | danglingEdge (source target : Nat)
  | edgeFromExit (exit : Nat)
deriving DecidableEq

/-- Why an operation on an abstract frame is refused. -/
inductive FrameError
  | slotOutOfRange (slot live : Nat)
  | localOutOfRange (index locals : Nat)
  | stackOverflow (max : Nat)
  | stackUnderflow
  /-- A cell further from the top than the stack is deep. -/
  | tooDeep (fromTop depth : Nat)
  | shapesDiffer
  | depthsDiffer (mine theirs : Nat)
deriving DecidableEq

/-- Why value numbering cannot follow an instruction or a join. -/
inductive NumberingError
  | stackUnderflow
  | loadOfUnknownLocal (slot : Nat)
  | storeToUnknownLocal (slot : Nat)
  | slotCountsDiffer (mine theirs block : Nat)
deriving DecidableEq

/-- The activity during which a failure arose. -/
inductive Context
  | valueNumbering
  | checkedCalls
  | nullnessDataflow
  | entryFrame (method : MethodId)
  | parametersOf (name descriptor : String)
deriving DecidableEq

/-- The causes of failure of the whole library. -/
inductive Error
  | descriptor (cause : DescriptorError)
  | graph (cause : GraphError)
  | frame (cause : FrameError)
  | numbering (cause : NumberingError)
  /-- The iteration still changed after the given number of passes. -/
  | notConverged (limit : Nat)
  | noBody
  | recordedTwice (method : MethodId)
  /-- A count is no machine word, or a size no object can have. -/
  | overflow
  | within (context : Context) (cause : Error)
deriving DecidableEq

/-! ### Messages -/

/-- The wording of a refused descriptor. -/
def DescriptorError.message : DescriptorError → String
  | .unexpectedEnd => "Unexpected end of input."
  | .tooManyDimensions => "Array has too many dimensions."
  | .noOpeningParenthesis => "Invalid descriptor: Method descriptor must start with '('."
  | .unterminatedName => "Invalid descriptor: Missing semicolon in class name descriptor."
  | .unrecognizedType => "Invalid descriptor: Unrecognized type descriptor."
  | .missingElementType => "Invalid descriptor: Invalid descriptor."
  | .missingReturnType => "Invalid descriptor: Missing return type."

/-- The wording of a refused body. -/
def GraphError.message : GraphError → String
  | .misplacedBlock id index => s!"block ids are not dense: B{id} stored at index {index}"
  | .missingEntry id => s!"entry block B{id} does not exist"
  | .missingExit id => s!"exit block B{id} does not exist"
  | .danglingEdge source target => s!"edge B{source} -> B{target} references an unknown block"
  | .edgeFromExit exit => s!"exit block B{exit} has an outgoing edge"

/-- The wording of a refused operation on a frame. -/
def FrameError.message : FrameError → String
  | .slotOutOfRange slot live => s!"slot {slot} out of range ({live} live slots)"
  | .localOutOfRange index locals => s!"local {index} out of range ({locals} locals)"
  | .stackOverflow max => s!"operand stack overflow (max {max})"
  | .stackUnderflow => "operand stack underflow"
  | .tooDeep fromTop depth => s!"stack value {fromTop} requested with depth {depth}"
  | .shapesDiffer => "merging frames of different shapes"
  | .depthsDiffer mine theirs => s!"merging frames with stack depths {mine} and {theirs}"

/-- The wording of a failure of value numbering. -/
def NumberingError.message : NumberingError → String
  | .stackUnderflow => "value-number stack underflow"
  | .loadOfUnknownLocal slot => s!"load of unknown local {slot}"
  | .storeToUnknownLocal slot => s!"store to unknown local {slot}"
  | .slotCountsDiffer mine theirs block =>
    s!"value-number frames with {mine} and {theirs} slots meet at B{block}"

/-- The wording of an activity. -/
def Context.message : Context → String
  | .valueNumbering => "value numbering"
  | .checkedCalls => "checked calls"
  | .nullnessDataflow => "nullness dataflow"
  | .entryFrame method => s!"entry frame of {method}"
  | .parametersOf name descriptor => s!"parameters of {name}{descriptor}"

namespace Error

/-- The messages of the contexts, outermost first, and of the cause. -/
def chain : Error → List String
  | .descriptor cause => ["parse method descriptor", cause.message]
  | .graph cause => [cause.message]
  | .frame cause => [cause.message]
  | .numbering cause => [cause.message]
  | .notConverged limit => [s!"dataflow did not converge within {limit} passes"]
  | .noBody => ["method has no body"]
  | .recordedTwice method => [s!"summary for {method} recorded twice"]
  | .overflow => ["overflow"]
  | .within context cause => context.message :: cause.chain

/-- The chain on one line. -/
def message (e : Error) : String := ": ".intercalate e.chain

/-- Whether the cause ends the run of the program. Other causes concern one method. -/
def endsRun : Error → Bool
  | .overflow => true
  | .within _ cause => cause.endsRun
  | _ => false

end Error

/-- Names the activity during which a computation fails, should it fail. -/
def inContext {α : Type} (context : Context) : Except Error α → Except Error α
  | .ok a => .ok a
  | .error e => .error (.within context e)

@[simp] theorem inContext_eq_ok {α : Type} {context : Context} {x : Except Error α} {a : α} :
    inContext context x = .ok a ↔ x = .ok a := by
  cases x <;> simp [inContext]

end Nullness
