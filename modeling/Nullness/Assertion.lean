import Nullness.Config
import Nullness.Instruction

/-!
# Assertion calls

A call asserts something when its owner's simple name looks like an assertion utility and its own
name looks like a check, or when it is listed by name. Names of classes may be written with slashes
or with dots. Names are compared without regard to the case of ASCII letters.
-/

namespace Nullness

/-- What the simple name of an assertion utility contains. -/
def assertionClassMarkers : List String := ["assert", "preconditions", "validate", "verify"]

/-- What the name of an assertion method starts with. -/
def assertionMethodStarts : List String := ["assert", "check", "verify", "fail", "require"]

/-- A name with every dot replaced by a slash. -/
def slashed (name : String) : String :=
  String.ofList (name.toList.map fun c => if c = '.' then '/' else c)

/-- What follows the last separator of a class name. -/
def simpleName (owner : List Char) : List Char :=
  (owner.reverse.takeWhile fun c => c ≠ '/' ∧ c ≠ '.' ∧ c ≠ '$').reverse

/-- ASCII letters in lower case, everything else as it is. -/
def lowercase (cs : List Char) : List Char := cs.map Char.toLower

/-- Whether a word occurs somewhere in a text. -/
def occursIn (word : List Char) : List Char → Bool
  | [] => word.isEmpty
  | c :: cs => word.isPrefixOf (c :: cs) || occursIn word cs

/-- Whether a call is listed by its owner and name. -/
def isListedAssertion (listed : List String) (call : CallSite) : Bool :=
  (listed.map slashed).contains (slashed call.owner ++ "/" ++ call.name)

/-- Whether a call looks like an assertion. -/
def looksLikeAssertion (call : CallSite) : Bool :=
  let simple := lowercase (simpleName call.owner.toList)
  let name := lowercase call.name.toList
  assertionClassMarkers.any (fun marker => occursIn marker.toList simple) &&
    assertionMethodStarts.any fun start => start.toList.isPrefixOf name

/-- Whether a call asserts something. -/
def isAssertion (listed : List String) (call : CallSite) : Bool :=
  isListedAssertion listed call || looksLikeAssertion call

end Nullness
