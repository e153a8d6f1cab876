import Nullness.Endpoint.Punycode
import Nullness.Unicode.Composition
import Nullness.Unicode.Direction
import Nullness.Unicode.HostName
import Nullness.Unicode.Joining

/-!
# Domain names

A domain name is a row of labels with points between them. It is read without regard to the form of
its characters; a label that begins with `xn--` is written in letters of ASCII and stands for
another one, which has to be what it is read as.

* `DomainName.read`: the characters of a name in their normal form;
* `DomainName.ofText?`: the name that a text is, if it is one.
-/

namespace Nullness

namespace DomainName

/-! ### Characters -/

/-- The ASCII characters that no domain name contains. -/
def isForbidden (c : Char) : Bool :=
  c.toNat ≤ 32 || c.toNat = 127 || "#%/:<>?@[\\]^|".toList.contains c

/-- Whether a character belongs to ASCII. -/
def isAscii (c : Char) : Bool := c.toNat < 128

/-- The characters as which a name is read, in normal form. -/
def read (cs : List Char) : Option (List Char) := do
  return Unicode.normalize (← cs.mapM Unicode.inHostName).flatten

/-! ### Labels -/

/-- The greatest length of a label in letters of ASCII, without its beginning. -/
def maxWritten : Nat := 2000

/-- The greatest length of a label with characters beyond ASCII. -/
def maxLabel : Nat := 1000

/-- The label for which a label stands. A label in letters of ASCII has to stand for one that is
read as it is, and that could not have been written without them. -/
def decodeLabel : List Char → Option (List Char)
  | 'x' :: 'n' :: '-' :: '-' :: written =>
    if written.all isAscii && written.getLast?.any (· ≠ '-') && written.length ≤ maxWritten then do
      let label ← Punycode.decode written
      if read label = some label then some label else none
    else none
  | label => some label

/-- Whether a vowel has been taken from the consonant in front of a place. -/
def endsInVirama : List Char → Bool
  | [] => false
  | c :: _ => Unicode.markClass c = Unicode.viramaClass

/-- Whether every joint of a label makes a difference, given the label from some place on and what
stands before that place from its end. -/
def jointsMatter : (before : List Char) → List Char → Bool
  | _, [] => true
  | before, c :: after =>
    (if c.toNat = 0x200c then endsInVirama before || Unicode.joinAcross before after
      else if c.toNat = 0x200d then endsInVirama before
      else true) && jointsMatter (c :: before) after

/-- Whether a label is well formed apart from its direction. -/
def isLabel (label : List Char) : Bool :=
  !label.head?.any Unicode.isMark && jointsMatter [] label &&
    (label.all isAscii || label.length ≤ maxLabel)

/-! ### Direction -/

/-- What may stand in a label whatever its direction. -/
def isIndifferent : Unicode.Direction → Bool
  | .europeanNumber | .europeanSeparator | .commonSeparator | .europeanTerminator => true
  | .neutral | .nonspacing | .boundary => true
  | .left | .right | .arabicLetter | .arabicNumber => false

/-- Whether a label that begins with a letter can be written from left to right, given the rest of
it without the marks at its end. -/
def fitsLeft (rest : List Unicode.Direction) : Bool :=
  rest.all (fun d => d = .left || isIndifferent d) &&
    rest.getLast?.all fun d => d = .left || d = .europeanNumber

/-- Whether a label that begins with a letter can be written from right to left. Its numbers are of
one kind. -/
def fitsRight (rest : List Unicode.Direction) : Bool :=
  rest.all (fun d => d.isFromRight || isIndifferent d) &&
    (rest.getLast?.all fun d => d.isFromRight || d = .europeanNumber) &&
    !(rest.contains .europeanNumber && rest.contains .arabicNumber)

/-- Whether a label can stand in a name that has a label written from right to left. -/
def fitsDirection (label : List Char) : Bool :=
  match label.map Unicode.direction with
  | [] => true
  | first :: rest =>
    let rest := (rest.reverse.dropWhile (· = .nonspacing)).reverse
    if first = .left then fitsLeft rest
    else (first = .right || first = .arabicLetter) && fitsRight rest

/-- Whether the labels of a name agree in their directions: if one of them has characters from right
to left, each has to begin with its direction and to keep it. -/
def directionsAgree (labels : List (List Char)) : Bool :=
  let mixed := labels.any fun label => label.any fun c => (Unicode.direction c).isFromRight
  !mixed || labels.all fitsDirection

/-! ### Names -/

/-- The domain name that a text is, in the characters as which it is read, if it is one. -/
def ofText? (cs : List Char) : Option (List Char) := do
  let name ← read cs
  if name.any isForbidden then none
  else
    let labels ← (name.splitOn '.').mapM decodeLabel
    if labels.all isLabel && directionsAgree labels then some (['.'].intercalate labels) else none

end DomainName

end Nullness
