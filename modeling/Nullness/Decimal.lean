/-!
# Shortest decimals

The decimal with the fewest digits that reads back as a given double, and its spelling. A double
stands for all reals that round to it, so any decimal between the halfway points to its neighbours
reads back; of the decimals with the fewest digits the nearest is taken.

Numbers of moderate size are written with a point, the others with an exponent and its sign.
-/

namespace Nullness

/-- A finite double that is not negative, as `mantissa · 2 ^ exponent`. -/
structure BinaryValue where
  mantissa : Nat
  exponent : Int
  /-- The gap to the value below is half the gap to the value above. -/
  narrowBelow : Bool

/-- A decimal, as `digits · 10 ^ exponent`. -/
structure Decimal where
  digits : Nat
  exponent : Int
deriving DecidableEq

/-- A power of two. -/
def twoPow (n : Nat) : Nat := Nat.pow 2 n

/-- A power of ten. -/
def tenPow (n : Nat) : Nat := Nat.pow 10 n

namespace BinaryValue

/-- The magnitude of a finite double. -/
def ofFloat (x : Float) : BinaryValue :=
  let bits := x.toBits.toNat
  let e : Nat := bits / 0x10000000000000 % 0x800
  let f : Nat := bits % 0x10000000000000
  if e = 0 then ⟨f, -1074, false⟩ else ⟨0x10000000000000 + f, (e : Int) - 1075, f = 0 && 1 < e⟩

/-- Compares `a · 2 ^ i` with `b · 10 ^ j`. -/
def compareScaled (a : Nat) (i : Int) (b : Nat) (j : Int) : Ordering :=
  compare (a * twoPow i.toNat * tenPow (-j).toNat) (b * tenPow j.toNat * twoPow (-i).toNat)

/-- Whether a decimal rounds to the value: it lies between the halfway points to the neighbours, or
on one of them when the mantissa is even. -/
def readsBack (x : BinaryValue) (d : Decimal) : Bool :=
  let below := if x.narrowBelow then 4 * x.mantissa - 1 else 4 * x.mantissa - 2
  let above := 4 * x.mantissa + 2
  let even := x.mantissa % 2 = 0
  let low := compareScaled below (x.exponent - 2) d.digits d.exponent
  let high := compareScaled above (x.exponent - 2) d.digits d.exponent
  (low = .lt || (even && low = .eq)) && (high = .gt || (even && high = .eq))

/-- The integer part of the value in units of a power of ten. -/
def floorIn (x : BinaryValue) (unit : Int) : Nat :=
  (x.mantissa * twoPow x.exponent.toNat * tenPow (-unit).toNat) /
    (twoPow (-x.exponent).toNat * tenPow unit.toNat)

/-- The least power of ten above the value, sought from a given one downwards. -/
def scaleFrom (x : BinaryValue) : Nat → Int → Int
  | 0, k => k
  | bound + 1, k => if x.floorIn (k - 1) = 0 then scaleFrom x bound (k - 1) else k

/-- The decimal with the given unit that is nearest to the value, if one reads back. -/
def onGrid? (x : BinaryValue) (unit : Int) : Option Decimal :=
  let low := x.floorIn unit
  let d : Decimal := ⟨low, unit⟩
  let u : Decimal := ⟨low + 1, unit⟩
  match x.readsBack d, x.readsBack u with
  | true, false => some d
  | false, true => some u
  | false, false => none
  | true, true =>
    match compareScaled (2 * x.mantissa) x.exponent (2 * low + 1) unit with
    | .lt => some d
    | .gt => some u
    | .eq => some (if low % 2 = 0 then d else u)

/-- The shortest decimal that reads back as the value. No double needs more than seventeen
digits. -/
def shortest (x : BinaryValue) : Decimal :=
  let k := x.scaleFrom 640 310
  ((List.range 17).findSome? fun n : Nat => x.onGrid? (k - n - 1)).getD
    ⟨x.mantissa * twoPow x.exponent.toNat * Nat.pow 5 (-x.exponent).toNat,
      -((-x.exponent).toNat : Int)⟩

end BinaryValue

namespace Decimal

/-- Zeros at the end of the digits belong to the exponent. -/
def strip : Nat → Decimal → Decimal
  | 0, d => d
  | bound + 1, d =>
    if d.digits ≠ 0 ∧ d.digits % 10 = 0 then strip bound ⟨d.digits / 10, d.exponent + 1⟩ else d

/-- The exponents of the leading digit between which a decimal is written with a point. -/
def pointedFrom : Int := -5
/-- The exponent of the leading digit from which a decimal is written with an exponent. -/
def pointedBelow : Int := 16

/-- The spelling of a decimal. -/
def spell (d : Decimal) : String :=
  let digits := Nat.toDigits 10 d.digits
  let lead := d.exponent + digits.length - 1
  let zeros (n : Nat) := List.replicate n '0'
  let chars :=
    if pointedFrom ≤ lead ∧ lead < pointedBelow then
      if 0 ≤ d.exponent then digits ++ zeros d.exponent.toNat ++ ['.', '0']
      else if 0 ≤ lead then
        digits.take (lead.toNat + 1) ++ '.' :: digits.drop (lead.toNat + 1)
      else '0' :: '.' :: zeros (-lead - 1).toNat ++ digits
    else
      let mantissa := match digits with
        | c :: [] => [c]
        | c :: rest => c :: '.' :: rest
        | [] => []
      let magnitude := Nat.toDigits 10 lead.natAbs
      let sign := if lead < 0 then '-' else '+'
      mantissa ++ 'e' :: sign :: magnitude
  String.ofList chars

end Decimal

/-- The shortest spelling of a finite double. -/
def spellFloat (x : Float) : String :=
  let v := BinaryValue.ofFloat x
  let magnitude :=
    if v.mantissa = 0 then "0.0" else ((v.shortest).strip 20).spell
  if x.toBits.toNat < 0x8000000000000000 then magnitude else "-" ++ magnitude

end Nullness
