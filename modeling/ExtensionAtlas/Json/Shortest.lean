import ExtensionAtlas.Json.Binary

/-! The shortest decimal that reads back as a given binary number. A decimal reads back as the
binary number that it is nearest to, so the ones to choose from lie between the midpoints to the two
neighbours, and a midpoint itself counts if the significand is even. Of all decimals with the fewest
digits the nearest is taken, and of two equally near ones the even one.

A grid of decimals with a given number of digits has a point between the midpoints only if one of
the two grid points around the number is, so those two are all that has to be tried. -/

namespace ExtensionAtlas.Json

/-- The number `digits * 10 ^ exponent`. -/
structure Decimal where
  digits : Nat
  exponent : Int
  deriving DecidableEq, Repr

/-- The number of digits in front of the point of a positive fraction; if there are none, the zeros
right behind the point count negatively. -/
def pointPlace (num den : Nat) : Int :=
  if den ≤ num then (Nat.toDigits 10 (num / den)).length
  else 1 - ((Nat.toDigits 10 ((den + num - 1) / num - 1)).length : Int)

/-- A positive binary number and the midpoints to its neighbours, over a common denominator. -/
structure Rounding where
  low : Nat
  value : Nat
  high : Nat
  den : Nat
  /-- Whether the midpoints themselves round to the number. -/
  closed : Bool

namespace Rounding

/-- The midpoints around a positive binary number. Below a power of two they lie closer. -/
def ofBinary (x : Binary) : Rounding :=
  let scale := Nat.pow 2 (x.exponent - 2).toNat
  let below := if x.significand == Nat.pow 2 52 && -1074 < x.exponent then 1 else 2
  { low := (4 * x.significand - below) * scale
    value := 4 * x.significand * scale
    high := (4 * x.significand + 2) * scale
    den := Nat.pow 2 (2 - x.exponent).toNat
    closed := x.significand % 2 == 0 }

/-- The same numbers in units of a power of ten. -/
def inUnits (r : Rounding) (exponent : Int) : Rounding :=
  let up := Nat.pow 10 (-exponent).toNat
  { r with
    low := r.low * up
    value := r.value * up
    high := r.high * up
    den := r.den * Nat.pow 10 exponent.toNat }

/-- Whether a whole number of units rounds to the number. -/
def holds (r : Rounding) (units : Nat) : Bool :=
  let point := units * r.den
  (r.low < point && point < r.high) || (r.closed && (point == r.low || point == r.high))

/-- The whole number of units that rounds to the number and is nearest to it, if there is one. -/
def nearest? (r : Rounding) : Option Nat :=
  let down := r.value / r.den
  match r.holds down, r.holds (down + 1) with
  | true, true => some (roundedQuotient r.value r.den)
  | true, false => some down
  | false, true => some (down + 1)
  | false, false => none

end Rounding

/-- The shortest decimal that reads back as a positive binary number: seventeen digits always do. -/
def Binary.shortest (x : Binary) : Decimal :=
  let rounding := Rounding.ofBinary x
  let place := pointPlace rounding.value rounding.den
  let attempt (length : Nat) : Option Decimal :=
    let exponent := place - (length + 1 : Nat)
    ((rounding.inUnits exponent).nearest?).map (⟨·, exponent⟩)
  ((List.range 17).findSome? attempt).getD ⟨0, 0⟩

end ExtensionAtlas.Json
