/-!
# Labels in letters of ASCII

A label with characters beyond ASCII can be written in letters, digits and hyphens. The ASCII
characters of the label come first, followed by a hyphen if there are any. What follows are numbers
with digits of base 36, the lowest first, each of which tells which character comes next in the
order of code points, and where it is inserted. How many digits a number has is told by thresholds,
which adapt themselves to the numbers before.

* `decode`: the label that is written in a given way.
-/

namespace Nullness

namespace Punycode

/-- The number of digits. -/
def base : Nat := 36

/-- The greatest number in which places and code points are counted. -/
def maxNumber : Nat := 0xFFFFFFFF

/-- The value of a digit: the letters come before the numerals. -/
def digit? (c : Char) : Option Nat :=
  if c.isLower then some (c.toNat - 'a'.toNat)
  else if c.isUpper then some (c.toNat - 'A'.toNat)
  else if c.isDigit then some (c.toNat - '0'.toNat + 26)
  else none

/-- A digit below the threshold of its place is the last one of its number. -/
def threshold (place bias : Nat) : Nat :=
  if place ≤ bias then 1 else if bias + 26 ≤ place then 26 else place - bias

/-- Reads a number whose first digits are read already: `weight` is the worth of the next digit. -/
def readNumber (bias : Nat) : (place weight number : Nat) → List Char → Option (Nat × List Char)
  | _, _, _, [] => none
  | place, weight, number, c :: rest => do
    let d ← digit? c
    let number := number + d * weight
    let t := threshold place bias
    if maxNumber < number then none
    else if d < t then some (number, rest)
    else if maxNumber < weight * (base - t) then none
    else readNumber bias (place + base) (weight * (base - t)) number rest

/-- How often a number can be divided by 35 before it is small, and what is left of it. The bound
limits the divisions; a number of 32 bits allows five of them. -/
def scaleDown : Nat → Nat → Nat × Nat
  | 0, n => (0, n)
  | bound + 1, n =>
    if n ≤ 455 then (0, n)
    else
      let (times, rest) := scaleDown bound (n / 35)
      (times + 1, rest)

/-- The bias after a number, given how much it has advanced and how many characters there are. -/
def adapt (advance count : Nat) (isFirst : Bool) : Nat :=
  let halved := if isFirst then advance / 700 else advance / 2
  let (times, rest) := scaleDown 8 (halved + halved / count)
  times * base + base * rest / (rest + 38)

/-- The character of a code point, if it is one. -/
def character? (n : Nat) : Option Char := if n.isValidChar then some (Char.ofNat n) else none

/-- What is known between two insertions. -/
structure State where
  /-- The least code point that may come next. -/
  code : Nat
  /-- The place from which the next one is counted. -/
  place : Nat
  bias : Nat
  text : List Char

/-- Inserts the characters that the numbers tell. Every number takes a digit, so the length of the
text bounds how many there are. -/
def insertFrom : Nat → State → List Char → Option (List Char)
  | _, s, [] => some s.text
  | 0, _, _ :: _ => none
  | bound + 1, s, c :: cs => do
    let (number, rest) ← readNumber s.bias base 1 s.place (c :: cs)
    let count := s.text.length + 1
    let code := s.code + number / count
    let place := number % count
    let next ← character? code
    insertFrom bound
      { code, place := place + 1
        bias := adapt (number - s.place) count (s.place = 0)
        text := s.text.insertIdx place next }
      rest

/-- The ASCII characters at the start of a written label, and the numbers behind them. A hyphen at
the very start separates nothing. -/
def splitBasic (cs : List Char) : List Char × List Char :=
  let numbers := (cs.reverse.takeWhile (· ≠ '-')).reverse
  if cs.length ≤ numbers.length + 1 then ([], cs)
  else (cs.take (cs.length - numbers.length - 1), numbers)

/-- The label that is written in letters of ASCII. -/
def decode (cs : List Char) : Option (List Char) :=
  let (basic, numbers) := splitBasic cs
  insertFrom numbers.length ⟨128, 0, 72, basic⟩ numbers

end Punycode

end Nullness
