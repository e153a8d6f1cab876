import Nullness.Descriptor.Reader
import Nullness.Endpoint
import Nullness.Program.Format
import Nullness.Session.Format

/-!
# The command line

Options are words that begin with two hyphens. A value follows its option as the next word or, in
the same word, behind an equals sign. An option may be given once, except for the one that lists
assertion methods; there are no other arguments.

Words are read from left to right, and the first word that is not acceptable decides how the command
line is refused. A value that stands in a word of its own is looked at when the next option or the
end of the command line has been recognized.

* `Invocation.ofWords`: what a command line asks for;
* `Invocation.run`: the report that it produces from a file's text.
-/

namespace Nullness

/-! ### Options -/

/-- An option with a value. -/
inductive ValueOption
  | input
  | output
  /-- Where traces are sent. -/
  | endpoint
  | assertionMethod
deriving DecidableEq

/-- An option without a value. -/
inductive Switch
  | quiet
  | timing
  | noAssertionSuppression
  | noValueNumbers
  | noReturnModeling
  | noDereferenceModeling
  | noCheckedCalls
deriving DecidableEq

/-- What a name on the command line stands for. -/
inductive NamedOption
  | value (o : ValueOption)
  | switch (s : Switch)
  | help
  | version
deriving DecidableEq

/-- The long names of the options. -/
def optionNames : List (String × NamedOption) :=
  [("input", .value .input), ("output", .value .output), ("quiet", .switch .quiet),
    ("timing", .switch .timing), ("otel", .value .endpoint),
    ("no-assertion-suppression", .switch .noAssertionSuppression),
    ("no-value-numbers", .switch .noValueNumbers),
    ("no-return-modeling", .switch .noReturnModeling),
    ("no-dereference-modeling", .switch .noDereferenceModeling),
    ("no-checked-calls", .switch .noCheckedCalls),
    ("assertion-method", .value .assertionMethod), ("help", .help), ("version", .version)]

/-- The short names of the options. -/
def shortNames : List (Char × NamedOption) := [('h', .help), ('V', .version)]

/-- Why a command line does not lead to a run. -/
inductive UsageError
  | unknownArgument
  /-- An option is given twice. -/
  | conflict
  /-- A value is missing or empty. -/
  | invalidValue
  /-- A switch is given a value. -/
  | tooManyValues
  | missingInput
  | helpRequested
  | versionRequested
deriving DecidableEq

/-- What has been given on a command line. -/
structure Arguments where
  input : Option String
  output : Option String
  endpoint : Option String
  switches : List Switch
  assertionMethods : List String
deriving DecidableEq

namespace Arguments

/-- Nothing has been given yet. -/
def empty : Arguments := ⟨none, none, none, [], []⟩

/-- A value that may be given once. -/
def once (present : Option String) (value : String) : Except UsageError (Option String) :=
  if present.isSome then .error .conflict else .ok (some value)

/-- A path that may be given once, and may not be empty. -/
def oncePath (present : Option String) (path : String) : Except UsageError (Option String) := do
  let given ← once present path
  if path = "" then .error .invalidValue else return given

/-- Takes the value of an option in. -/
def give (a : Arguments) (o : ValueOption) (value : String) : Except UsageError Arguments :=
  match o with
  | .input => do return { a with input := ← oncePath a.input value }
  | .output => do return { a with output := ← oncePath a.output value }
  | .endpoint => do return { a with endpoint := ← once a.endpoint value }
  | .assertionMethod => .ok { a with assertionMethods := a.assertionMethods ++ [value] }

/-- Takes a switch in. -/
def turn (a : Arguments) (s : Switch) : Except UsageError Arguments :=
  if s ∈ a.switches then .error .conflict else .ok { a with switches := s :: a.switches }

/-- The options of the analysis. -/
def config (a : Arguments) : Config where
  suppressAssertionNulls := .noAssertionSuppression ∉ a.switches
  trackValueNumbers := .noValueNumbers ∉ a.switches
  modelReturnValues := .noReturnModeling ∉ a.switches
  modelDereferences := .noDereferenceModeling ∉ a.switches
  trackCheckedCalls := .noCheckedCalls ∉ a.switches
  assertionMethods := .ofList a.assertionMethods

end Arguments

/-! ### Words -/

/-- A command line of which some words are read. -/
structure Reading where
  arguments : Arguments
  /-- The option that the last words were about, with its value if that has been read. -/
  pending : Option (ValueOption × Option String)

namespace Reading

/-- The arguments with the pending option. -/
def settle (r : Reading) : Except UsageError Arguments :=
  match r.pending with
  | none => .ok r.arguments
  | some (_, none) => .error .invalidValue
  | some (o, some value) => r.arguments.give o value

/-- Reads an option and the value in its word, if there is one. -/
def takeOption (r : Reading) (o : NamedOption) (attached : Option String) :
    Except UsageError Reading :=
  match o, attached with
  | .value o, none => do return ⟨← r.settle, some (o, none)⟩
  | .value o, some value => do return ⟨← (← r.settle).give o value, none⟩
  | .switch s, none => do return ⟨← (← r.settle).turn s, none⟩
  | .help, none => do
    let _ ← r.settle
    .error .helpRequested
  | .version, none => do
    let _ ← r.settle
    .error .versionRequested
  | _, some _ => .error .tooManyValues

/-- Reads a word behind two hyphens. -/
def takeLong (r : Reading) (word : List Char) : Except UsageError Reading :=
  let name := word.takeWhile (· ≠ '=')
  let attached := match word.drop name.length with
    | [] => none
    | _ :: value => some (String.ofList value)
  match optionNames.lookup (String.ofList name) with
  | none => .error .unknownArgument
  | some o => r.takeOption o attached

/-- Reads a word behind one hyphen. -/
def takeShort (r : Reading) (name : Char) : Except UsageError Reading :=
  match shortNames.lookup name with
  | none => .error .unknownArgument
  | some o => r.takeOption o none

/-- Reads a word. -/
def takeWord (r : Reading) (word : String) : Except UsageError Reading :=
  match word.toList with
  | '-' :: '-' :: long => r.takeLong long
  | '-' :: short :: _ => r.takeShort short
  | _ =>
    match r.pending with
    | some (o, none) => .ok { r with pending := some (o, some word) }
    | _ => .error .unknownArgument

/-- Reads words. Behind a word of two hyphens only arguments could stand. -/
def takeWords (r : Reading) : List String → Except UsageError Reading
  | [] => .ok r
  | word :: rest =>
    if word = "--" then if rest.isEmpty then .ok r else .error .unknownArgument
    else do (← r.takeWord word).takeWords rest

end Reading

/-! ### Runs -/

/-- What a command line asks for. -/
structure Invocation where
  input : String
  output : Option String
  endpoint : Option String
  quiet : Bool
  timing : Bool
  config : Config

/-- Why a run fails. -/
inductive RunError
  | inputNotFound (path : String)
  | badEndpoint (address : String) (cause : EndpointError)
  | badProgram (path : String) (cause : Fault)
  /-- The analysis has ended before there was a report. -/
  | ended (cause : Error)

/-- The wording of a failed run. -/
def RunError.message : RunError → String
  | .inputNotFound path => "input not found: " ++ path
  | .badEndpoint address cause => "parse OTLP endpoint " ++ address ++ ": " ++ cause.message
  | .badProgram path cause => "failed to parse " ++ path ++ ": " ++ cause.message
  | .ended cause => cause.message

namespace Invocation

/-- Reads the words of a command line. -/
def ofWords (words : List String) : Except UsageError Invocation := do
  let a ← (← Reading.takeWords ⟨.empty, none⟩ words).settle
  match a.input with
  | none => .error .missingInput
  | some input =>
    return ⟨input, a.output, a.endpoint, .quiet ∈ a.switches, .timing ∈ a.switches, a.config⟩

/-- The program to analyse, from the text of the input file if that exists. -/
def program (i : Invocation) (text : Option String) : Except RunError Program :=
  match text with
  | none => .error (.inputNotFound i.input)
  | some text => do
    match i.endpoint with
    | none => pure ()
    | some address => (Endpoint.check address).mapError (.badEndpoint address)
    (Program.read text).mapError (.badProgram i.input)

/-- The text of the report. -/
def run (i : Invocation) (text : Option String) : Except RunError String := do
  return (← (analyse i.config (← i.program text)).mapError .ended).text

end Invocation

end Nullness
