import Nullness.Json
import Nullness.Unicode.Category

/-!
# Faults of JSON documents

Why a text cannot be read as a value of the expected shape, and where in the document the fault
lies. A fault is one of the text's form, or the text ends too early, or a well-formed value has the
wrong shape.
-/

namespace Nullness

/-- What stands where a value of another shape is expected. -/
inductive Found
  | null
  | bool (b : Bool)
  | number (n : JsonNumber)
  | string (s : String)
  | sequence
  | map

/-- Why a document cannot be read. -/
inductive JsonError
  -- The text ends too early.
  | endInValue
  | endInList
  | endInObject
  | endInString
  -- The text is not well formed.
  | expectedValue
  | expectedWord
  | expectedColon
  | expectedListEnd
  | expectedObjectEnd
  | keyNotString
  | trailingComma
  | trailingCharacters
  | invalidNumber
  | numberOutOfRange
  | invalidEscape
  | controlCharacter
  | loneSurrogate
  | unfinishedSurrogate
  | nestedTooDeep
  -- A value has the wrong shape.
  | wrongType (found : Found) (expected : String)
  | wrongValue (found : Found) (expected : String)
  | wrongLength (length : Nat) (expected : String)
  | missingField (name : String)
  | duplicateField (name : String)
  | unknownVariant (name : String) (choices : List String)

/-- The kinds of fault. -/
inductive FaultKind
  | syntactic
  | unexpectedEnd
  | shape
deriving DecidableEq

/-- A step from a value into a part of it. -/
inductive Segment
  | member (key : String)
  | item (index : Nat)
  /-- A member whose key could not be read. -/
  | unknown
deriving DecidableEq

/-- A fault and the way to the value in which it was found. -/
structure Fault where
  error : JsonError
  path : List Segment

/-! ### Descriptions -/

/-- A character inside a quoted text of a message. One that is not shown is spelled by its
number. -/
def messageChar (c : Char) : List Char :=
  match c with
  | '"' => ['\\', '"']
  | '\\' => ['\\', '\\']
  | '\n' => ['\\', 'n']
  | '\r' => ['\\', 'r']
  | '\t' => ['\\', 't']
  | '\x00' => ['\\', '0']
  | c =>
    if Unicode.isInvisible c then
      "\\u".toList ++ '\x7b' :: Nat.toDigits 16 c.toNat ++ ['\x7d']
    else [c]

/-- A text as messages quote it. -/
def messageQuote (s : String) : String :=
  String.ofList ('"' :: s.toList.flatMap messageChar ++ ['"'])

/-- A text between backquotes. -/
def backquote (s : String) : String := "`" ++ s ++ "`"

/-- What a value of another shape is called. -/
def Found.describe : Found → String
  | .null => "null"
  | .bool b => "boolean " ++ backquote (if b then "true" else "false")
  | .number (.natural n) => "integer " ++ backquote (toString n)
  | .number (.negative n) => "integer " ++ backquote ("-" ++ toString n)
  | .number (.decimal x) => "floating point " ++ backquote (spellFloat x)
  | .string s => "string " ++ messageQuote s
  | .sequence => "sequence"
  | .map => "map"

/-- The choices of a message, between backquotes. -/
def describeChoices (choices : List String) : String :=
  match choices.map backquote with
  | [] => "there are no variants"
  | [a] => "expected " ++ a
  | [a, b] => "expected " ++ a ++ " or " ++ b
  | all => "expected one of " ++ ", ".intercalate all

namespace JsonError

/-- The kind of a fault. -/
def kind : JsonError → FaultKind
  | .endInValue | .endInList | .endInObject | .endInString => .unexpectedEnd
  | .wrongType .. | .wrongValue .. | .wrongLength .. => .shape
  | .missingField _ | .duplicateField _ | .unknownVariant .. => .shape
  | _ => .syntactic

/-- The wording of a fault. -/
def message : JsonError → String
  | .endInValue => "EOF while parsing a value"
  | .endInList => "EOF while parsing a list"
  | .endInObject => "EOF while parsing an object"
  | .endInString => "EOF while parsing a string"
  | .expectedValue => "expected value"
  | .expectedWord => "expected ident"
  | .expectedColon => "expected `:`"
  | .expectedListEnd => "expected `,` or `]`"
  | .expectedObjectEnd => "expected `,` or `\x7d`"
  | .keyNotString => "key must be a string"
  | .trailingComma => "trailing comma"
  | .trailingCharacters => "trailing characters"
  | .invalidNumber => "invalid number"
  | .numberOutOfRange => "number out of range"
  | .invalidEscape => "invalid escape"
  | .controlCharacter => "control character (\\u0000-\\u001F) found while parsing a string"
  | .loneSurrogate => "lone leading surrogate in hex escape"
  | .unfinishedSurrogate => "unexpected end of hex escape"
  | .nestedTooDeep => "recursion limit exceeded"
  | .wrongType found expected => "invalid type: " ++ found.describe ++ ", expected " ++ expected
  | .wrongValue found expected => "invalid value: " ++ found.describe ++ ", expected " ++ expected
  | .wrongLength length expected =>
    "invalid length " ++ toString length ++ ", expected " ++ expected
  | .missingField name => "missing field " ++ backquote name
  | .duplicateField name => "duplicate field " ++ backquote name
  | .unknownVariant name choices =>
    "unknown variant " ++ backquote name ++ ", " ++ describeChoices choices

end JsonError

/-- The way to a value: members after a point, items in brackets, and a point for the whole
document. -/
def describePath : List Segment → String
  | [] => "."
  | first :: rest => go "" first ++ String.join (rest.map (go "."))
where
  /-- One step, with what separates it from the step before. -/
  go (separator : String) : Segment → String
    | .member key => separator ++ key
    | .item index => "[" ++ toString index ++ "]"
    | .unknown => separator ++ "?"

namespace Fault

/-- A fault at the value that is being read. -/
def here (error : JsonError) : Fault := ⟨error, []⟩

/-- The fault seen from the value of which the faulty one is a part. -/
def below (s : Segment) (f : Fault) : Fault := { f with path := s :: f.path }

/-- The fault on one line: the path, if any of its steps is known, and the message. -/
def message (f : Fault) : String :=
  if f.path.all fun s => s = .unknown then f.error.message
  else describePath f.path ++ ": " ++ f.error.message

end Fault

/-- Places the faults of a computation in a part of the value that is being read. -/
def inPart {α : Type} (s : Segment) : Except Fault α → Except Fault α
  | .ok a => .ok a
  | .error f => .error (f.below s)

/-- Places the errors of a computation at the value that is being read. -/
def faultHere {α : Type} : Except JsonError α → Except Fault α
  | .ok a => .ok a
  | .error e => .error (.here e)

end Nullness
