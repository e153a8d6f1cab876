import Nullness.Descriptor

/-!
# A reader of descriptors

Types are read one after another up to the closing parenthesis; what follows the return type is not
looked at. The reader is lenient where a class file would not be: `V` is accepted wherever a type
is, and an object name is everything up to the next semicolon.
-/

namespace Nullness

namespace JvmType

/-- The array type over an element type; without dimensions the element type itself. -/
def arrayOf : Nat → JvmType → JvmType
  | 0, t => t
  | n + 1, t => .array (n + 1) t

/-- Reads an element type from its first character and the characters after it. -/
def readElement (c : Char) (rest : List Char) : Except DescriptorError (JvmType × List Char) :=
  match c with
  | 'V' => .ok (.void, rest)
  | 'Z' => .ok (.boolean, rest)
  | 'B' => .ok (.byte, rest)
  | 'C' => .ok (.char, rest)
  | 'S' => .ok (.short, rest)
  | 'I' => .ok (.int, rest)
  | 'J' => .ok (.long, rest)
  | 'F' => .ok (.float, rest)
  | 'D' => .ok (.double, rest)
  | 'L' =>
    match rest.dropWhile (· ≠ ';') with
    | [] => .error .unterminatedName
    | _ :: after => .ok (.object (rest.takeWhile (· ≠ ';')), after)
  | _ => .error .unrecognizedType

/-- Reads a type after some opening brackets, or `none` at a closing parenthesis. -/
def read? (brackets : Nat) : List Char → Except DescriptorError (Option JvmType × List Char)
  | [] => .error .unexpectedEnd
  | '[' :: rest =>
    if brackets < maxDimensions then read? (brackets + 1) rest else .error .tooManyDimensions
  | ')' :: rest => if brackets = 0 then .ok (none, rest) else .error .missingElementType
  | c :: rest => do
    let (t, after) ← readElement c rest
    .ok (some (arrayOf brackets t), after)

end JvmType

namespace MethodDescriptor

/-- Reads types up to the closing parenthesis. Each type takes at least one character, so the
length of the text bounds their number. -/
def readParameters : Nat → List Char → Except DescriptorError (List JvmType × List Char)
  | 0, _ => .error .unexpectedEnd
  | bound + 1, text => do
    match ← JvmType.read? 0 text with
    | (none, rest) => .ok ([], rest)
    | (some t, rest) =>
      let (ts, after) ← readParameters bound rest
      .ok (t :: ts, after)

/-- Reads a method descriptor from its characters. -/
def ofChars : List Char → Except DescriptorError MethodDescriptor
  | '(' :: text => do
    let (parameters, rest) ← readParameters (text.length + 1) text
    match ← JvmType.read? 0 rest with
    | (none, _) => .error .missingReturnType
    | (some result, _) => .ok ⟨parameters, result⟩
  | _ => .error .noOpeningParenthesis

end MethodDescriptor

/-- Reads the characters of a text from left to right. -/
instance : DescriptorReader where
  read text := MethodDescriptor.ofChars text.toList

end Nullness
