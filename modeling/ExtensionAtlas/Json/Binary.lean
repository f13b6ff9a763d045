/-! The binary number nearest to a decimal one. Numbers with a fraction are held with 53 significant
bits, so whether one is whole is decided after rounding; a tie goes to the even neighbour. Signs
play no part in this, so the numbers here have none. -/

namespace ExtensionAtlas.Json

/-- The number `significand * 2 ^ exponent`. -/
structure Binary where
  significand : Nat
  exponent : Int
  deriving DecidableEq, Repr

/-- The quotient of two naturals, rounded to the nearest whole number. -/
def roundedQuotient (num den : Nat) : Nat :=
  let down := num / den
  let twice := 2 * (num % den)
  if twice < den then down
  else if den < twice then down + 1
  else down + down % 2

/-- The binary number nearest to a positive fraction: the exponent is the one that gives 53
significant bits, also after rounding, and no less than that of the smallest numbers. -/
def nearestFraction (num den : Nat) : Nat × Int :=
  let guess : Int := num.log2 - den.log2 - 52
  let scaled (e : Int) : Nat × Nat := (num * Nat.pow 2 (-e).toNat, den * Nat.pow 2 e.toNat)
  let below := let (n, d) := scaled guess; n < d * Nat.pow 2 52
  let exponent := max (if below then guess - 1 else guess) (-1074)
  let (n, d) := scaled exponent
  let significand := roundedQuotient n d
  if significand == Nat.pow 2 53 then (Nat.pow 2 52, exponent + 1) else (significand, exponent)

/-- The binary number nearest to `digits * 10 ^ exponent`, unless that is beyond the largest. -/
def nearestBinary? (digits : Nat) (exponent : Int) : Option Binary :=
  let length : Int := (Nat.toDigits 10 digits).length
  if digits == 0 || length + exponent < -400 then some ⟨0, 0⟩
  else if length + exponent > 400 then none
  else
    let (significand, binaryExponent) :=
      nearestFraction (digits * Nat.pow 10 exponent.toNat) (Nat.pow 10 (-exponent).toNat)
    if binaryExponent > 971 then none
    else some ⟨significand, binaryExponent⟩

namespace Binary

/-- The whole number that a binary number is equal to, if there is one. -/
def toWhole? (x : Binary) : Option Nat :=
  if 0 ≤ x.exponent then some (x.significand * Nat.pow 2 x.exponent.toNat)
  else
    let unit := Nat.pow 2 (-x.exponent).toNat
    if x.significand % unit == 0 then some (x.significand / unit) else none

end Binary

end ExtensionAtlas.Json
