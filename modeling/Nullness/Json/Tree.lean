import Nullness.Json.Decoder

/-!
# Values as documents

Reading a JSON value that is already at hand. Its members are read in the order in which they stand.
-/

namespace Nullness

/-- How a JSON value is read as a value of type `α`. -/
def TreeDecoder (α : Type) : Type := Json → Except JsonError α

namespace TreeDecoder

variable {α β : Type}

/-- Changes what is read. -/
def map (f : α → β) (d : TreeDecoder α) : TreeDecoder β := fun j => (d j).map f

/-- The error of a value that has another shape. -/
def mismatch (expected : String) (j : Json) : JsonError := .wrongType (.ofJson j) expected

/-- A string. -/
def string : TreeDecoder String
  | .string s => .ok s
  | j => .error (mismatch "a string" j)

/-- A truth value. -/
def bool : TreeDecoder Bool
  | .bool b => .ok b
  | j => .error (mismatch "a boolean" j)

/-- A natural number of a range. -/
def natural (range : NaturalRange) : TreeDecoder Nat
  | .number n => range.ofNumber n
  | j => .error (mismatch range.name j)

/-- A value or null. -/
def optional (d : TreeDecoder α) : TreeDecoder (Option α)
  | .null => .ok none
  | j => (d j).map some

/-- A list of values. -/
def list (d : TreeDecoder α) : TreeDecoder (List α)
  | .array items => items.mapM d
  | j => .error (mismatch "a sequence" j)

/-- A name, or an object with the name as its only key and null as the value. -/
def choice (choices : List (String × α)) : TreeDecoder α
  | .string s => chosen choices s
  | .object [(key, value)] => do
    let a ← chosen choices key
    match value with
    | .null => return a
    | j => .error (mismatch "unit" j)
  | .object _ => .error (.wrongValue .map "map with a single key")
  | j => .error (mismatch "string or map" j)

/-- Reads a member that the shape of a record names; the others are given to `other`. -/
def takeMember {σ : Type} (r : RecordShape TreeDecoder α)
    (other : σ → String × Json → σ) (s : PartialRecord α × σ) (member : String × Json) :
    Except JsonError (PartialRecord α × σ) :=
  match r.member? member.1 with
  | none => .ok (s.1, other s.2 member)
  | some m => do
    s.1.expectNew m.name
    return (s.1.take m.name (← m.read member.2), s.2)

/-- Reads the members of a record from a list of their values. -/
def takeItems (r : RecordShape TreeDecoder α) :
    List (Member TreeDecoder α) → Nat → List Json → α → Except JsonError α
  | [], _, _, a => .ok a
  | m :: ms, index, j :: rest, a => do takeItems r ms (index + 1) rest ((← m.read j) a)
  | m :: ms, index, [], a =>
    if m.isRequired then .error (.wrongLength index r.describeLength)
    else takeItems r ms (index + 1) [] a

/-- A record, or a list of the values of its members in their order. -/
def record (r : RecordShape TreeDecoder α) : TreeDecoder α
  | .object members => do
    let (p, _) ← members.foldlM (takeMember r fun s _ => s) (r.begin, ())
    r.finish p
  | .array items => do
    let a ← takeItems r r.members 0 items r.start
    if r.members.length < items.length then
      .error (.wrongLength items.length "fewer elements in array")
    else return a
  | j => .error (mismatch r.describe j)

/-- A record that is completed by the members which its shape does not name. -/
def openRecord (r : RecordShape TreeDecoder α)
    (complete : List (String × Json) → α → Except JsonError α) : TreeDecoder α
  | .object members => do
    let (p, others) ← members.foldlM (takeMember r fun s m => m :: s) (r.begin, [])
    complete others.reverse (← r.finish p)
  | j => .error (mismatch r.describe j)

instance : Decoder TreeDecoder where
  map := map
  string := string
  bool := bool
  natural := natural
  optional := optional
  list := list
  choice := choice
  record := record
  openRecord := openRecord

end TreeDecoder

end Nullness
