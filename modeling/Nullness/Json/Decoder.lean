import Nullness.Json.Fault

/-!
# Shapes of documents

A document format is described once, by the shapes of its values, and can then be read from several
kinds of document. A shape is a string, a truth value, a natural number, one of several names, a
list, a value that may be null, or a record.

Members of a record come in any order, and members that its shape does not name are passed over. A
member that may be left out leaves the record as it is at the start.
-/

namespace Nullness

/-- A range of natural numbers and its name in messages. -/
structure NaturalRange where
  name : String
  greatest : Nat

/-- A member of a record: its name, whether it must be there, and how its value enters the
record. -/
structure Member (D : Type → Type) (α : Type) where
  name : String
  isRequired : Bool
  read : D (α → α)

/-- A record: its name in messages, the record without any member, and its members. -/
structure RecordShape (D : Type → Type) (α : Type) where
  name : String
  start : α
  members : List (Member D α)

/-- How values of each shape are read from documents of one kind. -/
class Decoder (D : Type → Type) extends Functor D where
  string : D String
  bool : D Bool
  natural : NaturalRange → D Nat
  /-- A value or null. -/
  optional {α : Type} : D α → D (Option α)
  list {α : Type} : D α → D (List α)
  /-- One of several names, each with its meaning. -/
  choice {α : Type} : List (String × α) → D α
  /-- A record, or a list of the values of its members in their order. -/
  record {α : Type} : RecordShape D α → D α
  /-- A record that keeps the members which its shape does not name and is completed by them. -/
  openRecord {α : Type} :
    RecordShape D α → (List (String × Json) → α → Except JsonError α) → D α

namespace Member

variable {D : Type → Type} [Functor D] {α β : Type}

/-- A member that must be there. -/
def required (name : String) (value : D β) (set : β → α → α) : Member D α :=
  ⟨name, true, set <$> value⟩

/-- A member that may be left out. -/
def optional (name : String) (value : D β) (set : β → α → α) : Member D α :=
  ⟨name, false, set <$> value⟩

end Member

/-- A record of which some members are read. -/
structure PartialRecord (α : Type) where
  value : α
  seen : List String

namespace RecordShape

variable {D : Type → Type} {α : Type}

/-- What messages expect in place of another value. -/
def describe (r : RecordShape D α) : String := "struct " ++ r.name

/-- What messages expect in place of a list that is too short. -/
def describeLength (r : RecordShape D α) : String :=
  r.describe ++ " with " ++ toString r.members.length ++
    (if r.members.length = 1 then " element" else " elements")

/-- The record before its first member. -/
def begin (r : RecordShape D α) : PartialRecord α := ⟨r.start, []⟩

/-- The member of a name. -/
def member? (r : RecordShape D α) (name : String) : Option (Member D α) :=
  r.members.find? fun m => m.name = name

/-- The record after its last member. -/
def finish (r : RecordShape D α) (p : PartialRecord α) : Except JsonError α :=
  match r.members.find? fun m => m.isRequired && !p.seen.contains m.name with
  | some m => .error (.missingField m.name)
  | none => .ok p.value

end RecordShape

namespace PartialRecord

variable {α : Type}

/-- A member may not be given twice. -/
def expectNew (p : PartialRecord α) (name : String) : Except JsonError Unit :=
  if p.seen.contains name then .error (.duplicateField name) else .ok ()

/-- Takes the value of a member in. -/
def take (p : PartialRecord α) (name : String) (update : α → α) : PartialRecord α :=
  ⟨update p.value, name :: p.seen⟩

end PartialRecord

namespace Found

/-- What a value is called in messages. -/
def ofJson : Json → Found
  | .null => .null
  | .bool b => .bool b
  | .number n => .number n
  | .string s => .string s
  | .array _ => .sequence
  | .object _ => .map

end Found

namespace NaturalRange

/-- A number of the range. -/
def ofNumber (range : NaturalRange) (n : JsonNumber) : Except JsonError Nat :=
  match n with
  | .natural k =>
    if k ≤ range.greatest then .ok k else .error (.wrongValue (.number n) range.name)
  | .negative _ => .error (.wrongValue (.number n) range.name)
  | .decimal _ => .error (.wrongType (.number n) range.name)

end NaturalRange

/-- The meaning of a name. -/
def chosen {α : Type} (choices : List (String × α)) (name : String) : Except JsonError α :=
  match choices.lookup name with
  | some a => .ok a
  | none => .error (.unknownVariant name (choices.map (·.1)))

end Nullness
