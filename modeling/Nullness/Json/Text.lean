import Nullness.Json.Decoder
import Nullness.Json.Lexical

/-!
# Texts as documents

Reading a value from the start of a text; what follows it is left. A text is read once from left to
right, so of several faults the first counts, whether it is one of form or of shape.

Values that are kept may be nested to a limited depth only. Values that are passed over need only
be well formed, to any depth.
-/

namespace Nullness

namespace Lexical

/-! ### Lists and objects -/

/-- The text of the next item of a list, or nothing at its closing bracket. -/
def nextItem (first : Bool) (cs : List Char) : Except JsonError (Option (List Char)) :=
  match skipBlank cs with
  | [] => .error .endInList
  | ']' :: _ => .ok none
  | c :: cs =>
    if first then .ok (some (c :: cs))
    else if c = ',' then
      match skipBlank cs with
      | [] => .error .endInValue
      | ']' :: _ => .error .trailingComma
      | cs => .ok (some cs)
    else .error .expectedListEnd

/-- Passes over the closing bracket of a list that may have no more items. -/
def endOfList (cs : List Char) : Except JsonError (List Char) :=
  match skipBlank cs with
  | [] => .error .endInList
  | ']' :: cs => .ok cs
  | ',' :: cs =>
    match skipBlank cs with
    | ']' :: _ => .error .trailingComma
    | _ => .error .trailingCharacters
  | _ => .error .trailingCharacters

/-- The key of the next member of an object, or nothing after its closing brace. -/
def nextKey (first : Bool) (cs : List Char) :
    Except JsonError (Option String × List Char) :=
  let key (cs : List Char) : Except JsonError (Option String × List Char) :=
    match cs with
    | [] => .error .endInValue
    | '"' :: cs => (string cs).map fun (s, cs) => (some s, cs)
    | '\x7d' :: _ => .error .trailingComma
    | _ => .error .keyNotString
  match skipBlank cs with
  | [] => .error .endInObject
  | '\x7d' :: cs => .ok (none, cs)
  | c :: cs =>
    if first then key (c :: cs)
    else if c = ',' then key (skipBlank cs)
    else .error .expectedObjectEnd

/-- Passes over the colon between a key and its value. -/
def colon (cs : List Char) : Except JsonError (List Char) :=
  match skipBlank cs with
  | [] => .error .endInObject
  | ':' :: cs => .ok cs
  | _ => .error .expectedColon

/-! ### Values without parts -/

/-- Reads a value that is neither a list nor an object. -/
def scalar : List Char → Except JsonError (Json × List Char)
  | [] => .error .endInValue
  | 'n' :: cs => (expectWord "ull".toList cs).map fun cs => (.null, cs)
  | 't' :: cs => (expectWord "rue".toList cs).map fun cs => (.bool true, cs)
  | 'f' :: cs => (expectWord "alse".toList cs).map fun cs => (.bool false, cs)
  | '"' :: cs => (string cs).map fun (s, cs) => (.string s, cs)
  | '-' :: cs => (number true cs).map fun (n, cs) => (.number n, cs)
  | c :: cs =>
    if c.isDigit then (number false (c :: cs)).map fun (n, cs) => (.number n, cs)
    else .error .expectedValue

/-- Passes over a value that is neither a list nor an object. -/
def skipScalar : List Char → Except JsonError (List Char)
  | [] => .error .endInValue
  | 'n' :: cs => expectWord "ull".toList cs
  | 't' :: cs => expectWord "rue".toList cs
  | 'f' :: cs => expectWord "alse".toList cs
  | '"' :: cs => skipString cs
  | '-' :: cs => skipNumber cs
  | c :: cs => if c.isDigit then skipNumber (c :: cs) else .error .expectedValue

/-- The error of a value that has another shape. The value is read first if it has no parts. -/
def mismatch (expected : String) (cs : List Char) : JsonError :=
  match cs with
  | '[' :: _ => .wrongType .sequence expected
  | '\x7b' :: _ => .wrongType .map expected
  | cs =>
    match scalar cs with
    | .ok (j, _) => .wrongType (.ofJson j) expected
    | .error e => e

/-! ### Passing over values -/

/-- A list or an object that has begun. -/
inductive Bracket
  | list
  | object

/-- What is due when a text is passed over. -/
inductive Due
  | value
  /-- The next part of the innermost bracket or its end; a comma stands first unless the bracket
  has just begun. -/
  | part (afterComma : Bool)

/-- Passes over the key of a member and its colon. -/
def skipKey (cs : List Char) : Except JsonError (List Char) :=
  match skipBlank cs with
  | [] => .error .endInObject
  | '"' :: cs => do colon (← skipString cs)
  | _ => .error .keyNotString

/-- Passes over the beginning of a part of a bracket. -/
def skipToPart : Bracket → List Char → Except JsonError (List Char)
  | .list, cs => .ok cs
  | .object, cs => skipKey cs

/-- Passes over a value inside the brackets that are open, the innermost first. Every two steps take
a character. -/
def skipFrom : Nat → Due → List Bracket → List Char → Except JsonError (List Char)
  | 0, _, _, _ => .error .endInValue
  | bound + 1, .value, brackets, cs =>
    match skipBlank cs with
    | '[' :: cs => skipFrom bound (.part false) (.list :: brackets) cs
    | '\x7b' :: cs => skipFrom bound (.part false) (.object :: brackets) cs
    | cs => do skipFrom bound (.part true) brackets (← skipScalar cs)
  | _ + 1, .part _, [], cs => .ok cs
  | bound + 1, .part afterComma, b :: brackets, cs =>
    match skipBlank cs, b with
    | ']' :: cs, .list => skipFrom bound (.part true) brackets cs
    | '\x7d' :: cs, .object => skipFrom bound (.part true) brackets cs
    | [], .list => .error .endInList
    | [], .object => .error .endInObject
    | c :: cs, b =>
      if !afterComma then do skipFrom bound .value (b :: brackets) (← skipToPart b (c :: cs))
      else if c = ',' then do skipFrom bound .value (b :: brackets) (← skipToPart b cs)
      else
        match b with
        | .list => .error .expectedListEnd
        | .object => .error .expectedObjectEnd

/-- Passes over a value of a text of at most the given length. -/
def skipValue (length : Nat) (cs : List Char) : Except JsonError (List Char) :=
  skipFrom (2 * length + 2) .value [] cs

end Lexical

/-- What bounds the reading of a text. -/
structure TextLimits where
  /-- How many more lists and objects may begin inside each other. -/
  levels : Nat
  /-- A length that the text does not exceed. -/
  length : Nat

/-- How a value of type `α` is read from the start of a text. -/
def TextDecoder (α : Type) : Type := TextLimits → List Char → Except Fault (α × List Char)

namespace TextDecoder

open Lexical

variable {α β σ : Type}

/-- The levels of nesting of values that are kept. -/
def maxLevels : Nat := 127

/-- Changes what is read. -/
def map (f : α → β) (d : TextDecoder α) : TextDecoder β :=
  fun limits cs => (d limits cs).map fun (a, cs) => (f a, cs)

/-- A value that is read without looking for its parts. -/
def ofScalar (expected : String) (take : Json → Option (Except JsonError α)) : TextDecoder α :=
  fun _ cs =>
    let cs := skipBlank cs
    match scalar cs with
    | .error _ => .error (.here (mismatch expected cs))
    | .ok (j, rest) =>
      match take j with
      | none => .error (.here (mismatch expected cs))
      | some (.error e) => .error (.here e)
      | some (.ok a) => .ok (a, rest)

/-- A string. -/
def string : TextDecoder String :=
  ofScalar "a string" fun
    | .string s => some (.ok s)
    | _ => none

/-- A truth value. -/
def bool : TextDecoder Bool :=
  ofScalar "a boolean" fun
    | .bool b => some (.ok b)
    | _ => none

/-- A natural number of a range. -/
def natural (range : NaturalRange) : TextDecoder Nat :=
  ofScalar range.name fun
    | .number n => some (range.ofNumber n)
    | _ => none

/-- A value or null. -/
def optional (d : TextDecoder α) : TextDecoder (Option α) :=
  fun limits cs =>
    match skipBlank cs with
    | 'n' :: cs => faultHere ((expectWord "ull".toList cs).map fun cs => (none, cs))
    | cs => (d limits cs).map fun (a, cs) => (some a, cs)

/-- Enters a list or an object. -/
def enter (limits : TextLimits) (inner : TextLimits → Except Fault α) : Except Fault α :=
  match limits.levels with
  | 0 => .error (.here .nestedTooDeep)
  | levels + 1 => inner { limits with levels }

/-! ### Lists -/

/-- Reads the items of a list after the opening bracket. Every item takes a character. -/
def itemsFrom (item : List Char → Except Fault (α × List Char)) :
    Nat → Nat → List α → List Char → Except Fault (List α × List Char)
  | 0, _, _, _ => .error (.here .endInList)
  | bound + 1, index, sofar, cs => do
    match ← faultHere (nextItem (index = 0) cs) with
    | none => return (sofar.reverse, ← faultHere (endOfList cs))
    | some cs =>
      let (a, cs) ← inPart (.item index) (item cs)
      itemsFrom item bound (index + 1) (a :: sofar) cs

/-- A list of values. -/
def list (d : TextDecoder α) : TextDecoder (List α) :=
  fun limits cs =>
    match skipBlank cs with
    | '[' :: cs => enter limits fun limits => itemsFrom (d limits) (limits.length + 1) 0 [] cs
    | cs => .error (.here (mismatch "a sequence" cs))

/-! ### Objects -/

/-- Reads the members of an object after the opening brace; `member` reads one from behind its key.
Every member takes a character. -/
def membersFrom (member : σ → String → List Char → Except Fault (σ × List Char)) :
    Nat → Bool → σ → List Char → Except Fault (σ × List Char)
  | 0, _, _, _ => .error (.here .endInObject)
  | bound + 1, first, s, cs => do
    match ← inPart .unknown (faultHere (nextKey first cs)) with
    | (none, cs) => return (s, cs)
    | (some key, cs) =>
      let (s, cs) ← member s key cs
      membersFrom member bound false s cs

/-- Reads the members of an object after the opening brace, in a text of at most the given
length. -/
def members (length : Nat) (member : σ → String → List Char → Except Fault (σ × List Char))
    (start : σ) (cs : List Char) : Except Fault (σ × List Char) :=
  membersFrom member (length + 1) true start cs

/-- Reads the value of a member from behind its key. -/
def memberValue (value : List Char → Except Fault (α × List Char)) (key : String)
    (cs : List Char) : Except Fault (α × List Char) := do
  let cs ← faultHere (colon cs)
  inPart (.member key) (value cs)

/-- Keeps a member as it stands, in front of those before it. -/
def keepMember (value : List Char → Except Fault (Json × List Char))
    (s : List (String × Json)) (key : String) (cs : List Char) :
    Except Fault (List (String × Json) × List Char) := do
  let (j, cs) ← memberValue value key cs
  return ((key, j) :: s, cs)

/-- Reads a value as such, at a number of levels above the deepest and in a text of at most the
given length. -/
def jsonFrom (length : Nat) : Nat → List Char → Except Fault (Json × List Char)
  | levels, cs =>
    match levels, skipBlank cs with
    | 0, '[' :: _ | 0, '\x7b' :: _ => .error (.here .nestedTooDeep)
    | levels + 1, '[' :: cs =>
      (itemsFrom (jsonFrom length levels) (length + 1) 0 [] cs).map fun (l, cs) => (.array l, cs)
    | levels + 1, '\x7b' :: cs => do
      let (s, cs) ← members length (keepMember (jsonFrom length levels)) [] cs
      return (.object s.reverse, cs)
    | _, cs => faultHere (scalar cs)

/-- A value as such. -/
def json : TextDecoder Json := fun limits cs => jsonFrom limits.length limits.levels cs

/-- A name, or an object with the name as its only key and null as the value. -/
def choice (choices : List (String × α)) : TextDecoder α :=
  fun limits cs =>
    match skipBlank cs with
    | [] => .error (.here .endInValue)
    | '"' :: cs => do
      let (name, cs) ← faultHere (Lexical.string cs)
      return (← faultHere (chosen choices name), cs)
    | '\x7b' :: cs => enter limits fun _ => do
      let (a, key, cs) ← faultHere (variant (skipBlank cs))
      let cs ← inPart (.member key) (faultHere (unit (skipBlank cs)))
      match skipBlank cs with
      | [] => .error (.here .endInObject)
      | '\x7d' :: cs => return (a, cs)
      | _ => .error (.here .expectedValue)
    | _ => .error (.here .expectedValue)
where
  /-- The name as a key, with its colon. -/
  variant (cs : List Char) : Except JsonError (α × String × List Char) :=
    match cs with
    | '"' :: cs => do
      let (name, cs) ← Lexical.string cs
      let a ← chosen choices name
      return (a, name, ← colon cs)
    | [] => .error .endInObject
    | '\x7d' :: _ => .error .expectedValue
    | _ => .error .keyNotString
  /-- The value null. -/
  unit (cs : List Char) : Except JsonError (List Char) :=
    match cs with
    | 'n' :: cs => expectWord "ull".toList cs
    | cs => .error (mismatch "unit" cs)

/-! ### Records -/

/-- Reads a member that the shape of a record names; the others are read by `other`. -/
def takeMember (r : RecordShape TextDecoder α) (limits : TextLimits)
    (other : σ → String → List Char → Except Fault (σ × List Char))
    (s : PartialRecord α × σ) (key : String) (cs : List Char) :
    Except Fault ((PartialRecord α × σ) × List Char) :=
  match r.member? key with
  | none => do
    let (t, cs) ← other s.2 key cs
    return ((s.1, t), cs)
  | some m => do
    faultHere (s.1.expectNew m.name)
    let (update, cs) ← memberValue (m.read limits) key cs
    return ((s.1.take m.name update, s.2), cs)

/-- Passes over a member. -/
def skipMember (limits : TextLimits) (s : σ) (key : String) (cs : List Char) :
    Except Fault (σ × List Char) :=
  memberValue (fun cs => faultHere ((skipValue limits.length cs).map fun cs => (s, cs))) key cs

/-- Reads the members of a record from a list of their values. -/
def takeItems (r : RecordShape TextDecoder α) (limits : TextLimits) :
    List (Member TextDecoder α) → Nat → α → List Char → Except Fault (α × List Char)
  | [], _, a, cs => return (a, ← faultHere (endOfList cs))
  | m :: ms, index, a, cs => do
    match ← faultHere (nextItem (index = 0) cs) with
    | some cs =>
      let (update, cs) ← inPart (.item index) (m.read limits cs)
      takeItems r limits ms (index + 1) (update a) cs
    | none =>
      if m.isRequired then .error (.here (.wrongLength index r.describeLength))
      else takeItems r limits ms (index + 1) a cs

/-- A record, or a list of the values of its members in their order. -/
def record (r : RecordShape TextDecoder α) : TextDecoder α :=
  fun limits cs =>
    match skipBlank cs with
    | '\x7b' :: cs => enter limits fun limits => do
      let ((p, _), cs) ←
        members limits.length (takeMember r limits (skipMember limits)) (r.begin, ()) cs
      return (← faultHere (r.finish p), cs)
    | '[' :: cs => enter limits fun limits => takeItems r limits r.members 0 r.start cs
    | cs => .error (.here (mismatch r.describe cs))

/-- A record that is completed by the members which its shape does not name. -/
def openRecord (r : RecordShape TextDecoder α)
    (complete : List (String × Json) → α → Except JsonError α) : TextDecoder α :=
  fun limits cs =>
    match skipBlank cs with
    | '\x7b' :: cs => enter limits fun limits => do
      let ((p, others), cs) ←
        members limits.length (takeMember r limits (keepMember (json limits))) (r.begin, []) cs
      let a ← faultHere (r.finish p)
      return (← faultHere (complete others.reverse a), cs)
    | cs => .error (.here (mismatch r.describe cs))

instance : Decoder TextDecoder where
  map := map
  string := string
  bool := bool
  natural := natural
  optional := optional
  list := list
  choice := choice
  record := record
  openRecord := openRecord

/-- Reads the value at the start of a text. -/
def decode (d : TextDecoder α) (text : String) : Except Fault α :=
  let cs := text.toList
  (d ⟨maxLevels, cs.length⟩ cs).map (·.1)

end TextDecoder

end Nullness
