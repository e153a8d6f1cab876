import Nullness.Json.Fault

/-!
# Words, strings and numbers of JSON texts

Each reader takes the characters from the point where it starts and gives what it has read and the
characters that are left. A text that is kept is read more strictly than one that is skipped: the
escapes of a skipped string need not form characters, and a skipped number may have any size.
-/

namespace Nullness

namespace Lexical

/-- Drops blanks, tabs and line ends. -/
def skipBlank (cs : List Char) : List Char :=
  cs.dropWhile fun c => c = ' ' || c = '\n' || c = '\t' || c = '\r'

/-- Passes over a word. -/
def expectWord : List Char → List Char → Except JsonError (List Char)
  | [], cs => .ok cs
  | _ :: _, [] => .error .endInValue
  | w :: word, c :: cs => if w = c then expectWord word cs else .error .expectedWord

/-! ### Strings -/

/-- The value of a hexadecimal digit. -/
def hexValue? (c : Char) : Option Nat :=
  if '0' ≤ c ∧ c ≤ '9' then some (c.toNat - '0'.toNat)
  else if 'a' ≤ c ∧ c ≤ 'f' then some (c.toNat - 'a'.toNat + 10)
  else if 'A' ≤ c ∧ c ≤ 'F' then some (c.toNat - 'A'.toNat + 10)
  else none

/-- The number that the first four characters spell in hexadecimal digits. The text ends too early
when fewer than four bytes are left. -/
def hexFour (cs : List Char) : Except JsonError Nat :=
  match (cs.take 4).mapM hexValue? with
  | some [a, b, c, d] => .ok (((a * 16 + b) * 16 + c) * 16 + d)
  | _ =>
    if (cs.take 4).foldl (fun n c => n + c.utf8Size) 0 < 4 then .error .endInString
    else .error .invalidEscape

/-- The second half of a surrogate pair, as an escape of its own. -/
def lowSurrogate (cs : List Char) : Except JsonError Nat :=
  match cs with
  | [] | '\\' :: [] => .error .endInString
  | '\\' :: 'u' :: rest => do
    let n ← hexFour rest
    if n < 0xDC00 ∨ 0xDFFF < n then .error .loneSurrogate else .ok n
  | _ => .error .unfinishedSurrogate

/-- The character that the digits of a unicode escape stand for, and how many characters the escape
takes. A character beyond the sixteen bits of one escape is written as a surrogate pair. -/
def unicodeEscape (cs : List Char) : Except JsonError (Char × Nat) := do
  let n ← hexFour cs
  if 0xDC00 ≤ n ∧ n ≤ 0xDFFF then .error .loneSurrogate
  else if n < 0xD800 ∨ 0xDBFF < n then return (Char.ofNat n, 4)
  else
    let low ← lowSurrogate (cs.drop 4)
    return (Char.ofNat ((n - 0xD800) * 0x400 + (low - 0xDC00) + 0x10000), 10)

/-- The character that a short escape stands for. -/
def shortEscape? : Char → Option Char
  | '"' => some '"'
  | '\\' => some '\\'
  | '/' => some '/'
  | 'b' => some '\x08'
  | 'f' => some '\x0c'
  | 'n' => some '\n'
  | 'r' => some '\r'
  | 't' => some '\t'
  | _ => none

/-- The character that an escape stands for, and how many characters it takes after its
backslash. -/
def escape : List Char → Except JsonError (Char × Nat)
  | [] => .error .endInString
  | 'u' :: cs => (unicodeEscape cs).map fun (c, taken) => (c, taken + 1)
  | c :: _ =>
    match shortEscape? c with
    | some c => .ok (c, 1)
    | none => .error .invalidEscape

/-- How many characters an escape takes after its backslash; it need not stand for a character. -/
def escapeLength : List Char → Except JsonError Nat
  | [] => .error .endInString
  | 'u' :: cs => (hexFour cs).map fun _ => 5
  | c :: _ => if (shortEscape? c).isSome then .ok 1 else .error .invalidEscape

/-- Reads a string behind some characters that belong to an escape, given what was read of it, last
first. -/
def stringFrom : Nat → List Char → List Char → Except JsonError (String × List Char)
  | _, _, [] => .error .endInString
  | taken + 1, sofar, _ :: cs => stringFrom taken sofar cs
  | 0, sofar, c :: cs =>
    if c = '"' then .ok (String.ofList sofar.reverse, cs)
    else if c = '\\' then do
      let (c, taken) ← escape cs
      stringFrom taken (c :: sofar) cs
    else if c.toNat < 32 then .error .controlCharacter
    else stringFrom 0 (c :: sofar) cs

/-- Reads a string after its opening quote. -/
def string (cs : List Char) : Except JsonError (String × List Char) := stringFrom 0 [] cs

/-- Passes over a string behind some characters that belong to an escape. -/
def skipStringFrom : Nat → List Char → Except JsonError (List Char)
  | _, [] => .error .endInString
  | taken + 1, _ :: cs => skipStringFrom taken cs
  | 0, c :: cs =>
    if c = '"' then .ok cs
    else if c = '\\' then do skipStringFrom (← escapeLength cs) cs
    else if c.toNat < 32 then .error .controlCharacter
    else skipStringFrom 0 cs

/-- Passes over a string after its opening quote. -/
def skipString (cs : List Char) : Except JsonError (List Char) := skipStringFrom 0 cs

/-! ### Numbers -/

/-- The greatest natural number that is kept as such. -/
def maxNatural : Nat := 0xFFFFFFFFFFFFFFFF

/-- The leading decimal digits, as values, and what follows them. -/
def digits : List Char → List Nat × List Char
  | [] => ([], [])
  | c :: cs =>
    if '0' ≤ c ∧ c ≤ '9' then
      let (ds, rest) := digits cs
      ((c.toNat - '0'.toNat) :: ds, rest)
    else ([], c :: cs)

/-- Appends digits to a number as long as it does not become too great: the number and how many of
the digits it has not taken. -/
def appendDigits : Nat → List Nat → Nat × Nat
  | n, [] => (n, 0)
  | n, d :: ds =>
    if n * 10 + d ≤ maxNatural then appendDigits (n * 10 + d) ds else (n, ds.length + 1)

/-- Scales a significand by a power of ten, 308 powers at a time when it is very small. -/
def scale : Nat → Float → Int → Except JsonError Float
  | 0, x, _ => .ok x
  | bound + 1, x, exponent =>
    if exponent.natAbs ≤ 308 then
      let power := Float.ofScientific 1 false exponent.natAbs
      if 0 ≤ exponent then
        let y := x * power
        if y.isInf then .error .numberOutOfRange else .ok y
      else .ok (x / power)
    else if x == 0.0 then .ok x
    else if 0 ≤ exponent then .error .numberOutOfRange
    else scale bound (x / 1e308) (exponent + 308)

/-- The double of a sign, a significand and a power of ten. -/
def toFloat (negative : Bool) (significand : Nat) (exponent : Int) : Except JsonError Float := do
  let x ← scale 8 (UInt64.ofNat significand).toFloat exponent
  return if negative then -x else x

/-- Finishes a number that has a fraction or an exponent. -/
def floatNumber (negative : Bool) (significand : Nat) (exponent : Int) (rest : List Char) :
    Except JsonError (JsonNumber × List Char) := do
  return (.decimal (← toFloat negative significand exponent), rest)

/-- Reads an exponent after its mark. -/
def exponentPart (negative : Bool) (significand : Nat) (exponent : Int) (cs : List Char) :
    Except JsonError (JsonNumber × List Char) :=
  let (down, cs) := match cs with
    | '+' :: cs => (false, cs)
    | '-' :: cs => (true, cs)
    | cs => (false, cs)
  match digits cs with
  | ([], []) => .error .endInValue
  | ([], _) => .error .invalidNumber
  | (ds, rest) =>
    let size : Nat := ds.foldl (fun n d => n * 10 + d) 0
    floatNumber negative significand (if down then exponent - size else exponent + size) rest

/-- Reads what may follow the digits of a number with a fraction. -/
def afterFraction (negative : Bool) (significand : Nat) (exponent : Int) (cs : List Char) :
    Except JsonError (JsonNumber × List Char) :=
  match cs with
  | 'e' :: cs | 'E' :: cs => exponentPart negative significand exponent cs
  | cs => floatNumber negative significand exponent cs

/-- Reads a fraction after its point. -/
def fractionPart (negative : Bool) (significand : Nat) (exponent : Int) (cs : List Char) :
    Except JsonError (JsonNumber × List Char) :=
  match digits cs with
  | ([], []) => .error .endInValue
  | ([], _) => .error .invalidNumber
  | (ds, rest) =>
    let (significand, ignored) := appendDigits significand ds
    afterFraction negative significand (exponent - ((ds.length - ignored : Nat) : Int)) rest

/-- A whole number that is small enough to be kept as such. -/
def wholeNumber (negative : Bool) (n : Nat) : JsonNumber :=
  if !negative then .natural n
  else if n = 0 ∨ 0x8000000000000000 < n then .decimal (-(UInt64.ofNat n).toFloat)
  else .negative n

/-- Reads a number after its sign. -/
def number (negative : Bool) (cs : List Char) : Except JsonError (JsonNumber × List Char) :=
  match digits cs with
  | ([], []) => .error .endInValue
  | ([], _) => .error .invalidNumber
  | (0 :: _ :: _, _) => .error .invalidNumber
  | (ds, rest) =>
    let (significand, dropped) := appendDigits 0 ds
    match rest with
    | '.' :: rest => fractionPart negative significand dropped rest
    | 'e' :: rest | 'E' :: rest => exponentPart negative significand dropped rest
    | rest =>
      if dropped = 0 then .ok (wholeNumber negative significand, rest)
      else floatNumber negative significand dropped rest

/-- Passes over the exponent of a number, if it has one. -/
def skipExponent : List Char → Except JsonError (List Char)
  | 'e' :: cs | 'E' :: cs =>
    let cs := match cs with
      | '+' :: cs | '-' :: cs => cs
      | cs => cs
    match digits cs with
    | ([], _) => .error .invalidNumber
    | (_, rest) => .ok rest
  | cs => .ok cs

/-- Passes over a number after its sign. -/
def skipNumber (cs : List Char) : Except JsonError (List Char) :=
  match digits cs with
  | ([], _) | (0 :: _ :: _, _) => .error .invalidNumber
  | (_, '.' :: rest) =>
    match digits rest with
    | ([], _) => .error .invalidNumber
    | (_, rest) => skipExponent rest
  | (_, rest) => skipExponent rest

end Lexical

end Nullness
