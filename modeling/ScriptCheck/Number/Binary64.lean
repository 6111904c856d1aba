import ScriptCheck.Number.Numeral

/-!
# Binary floating-point numbers of 64 bits

A number is kept as its bits, so equality tells the two zeros apart and holds of a NaN and itself.
`Binary64.read?` rounds the exact value of a numeral to the nearest number, with halves to the even
neighbour. Everything is computed in natural numbers.
-/

namespace ScriptCheck.Number

/-- A binary floating-point number of 64 bits, given by its interchange format. -/
structure Binary64 where
  bits : UInt64
  deriving DecidableEq, Repr, Inhabited

namespace Binary64

/-- The bits of positive infinity: all exponent bits and no other. -/
def infinityBits : Nat := 0x7FF0000000000000

/-- The bits of the positive quiet NaN without a payload. -/
def nanBits : Nat := 0x7FF8000000000000

/-- The least exponent of a unit in the last place. -/
def leastExponent : Int := -1074

/-- The number with the given sign and the bits of its magnitude. -/
def ofMagnitude (negative : Bool) (magnitude : Nat) : Binary64 :=
  { bits := UInt64.ofNat (if negative then twoPow 63 + magnitude else magnitude) }

/-- A fraction `numerator / denominator` divided by a power of two, as a fraction again. -/
def overPowerOfTwo (numerator denominator : Nat) (exponent : Int) : Nat × Nat :=
  if 0 ≤ exponent then (numerator, denominator * twoPow exponent.toNat)
  else (numerator * twoPow (-exponent).toNat, denominator)

/-- The natural number nearest to a fraction, the even one of two at the same distance. -/
def roundHalfEven (numerator denominator : Nat) : Nat :=
  let quotient := numerator / denominator
  let remainder := numerator % denominator
  if 2 * remainder < denominator then quotient
  else if denominator < 2 * remainder then quotient + 1
  else quotient + quotient % 2

/-- The exponent of the unit in the last place for a positive fraction. The two logarithms leave
two candidates, and the smaller one is right exactly when the other leaves fewer than 53 bits. -/
def unitExponent (numerator denominator : Nat) : Int :=
  let estimate : Int := numerator.log2 - denominator.log2 - 52
  let (scaled, unit) := overPowerOfTwo numerator denominator estimate
  max leastExponent (if scaled < twoPow 52 * unit then estimate - 1 else estimate)

/-- The bits of the magnitude nearest to a fraction. The significand is added to the exponent field
with its leading bit, so a carry out of the rounding moves to the next exponent by itself. -/
def nearestMagnitude (numerator denominator : Nat) : Nat :=
  if numerator = 0 then 0
  else
    let exponent := unitExponent numerator denominator
    let (scaled, unit) := overPowerOfTwo numerator denominator exponent
    min infinityBits ((exponent - leastExponent).toNat * twoPow 52 + roundHalfEven scaled unit)

/-- The bits of the magnitude nearest to a decimal value. Values far out of the range are answered
before their power of ten is computed. -/
def magnitudeOfDecimal (decimal : Decimal) : Nat :=
  if decimal.significand = 0 || decimal.exponent + decimal.significand.log2 < -400 then 0
  else if 400 < decimal.exponent then infinityBits
  else if 0 ≤ decimal.exponent then
    nearestMagnitude (decimal.significand * tenPow decimal.exponent.toNat) 1
  else nearestMagnitude decimal.significand (tenPow (-decimal.exponent).toNat)

/-- The bits of the magnitude that an unsigned numeral, or a word for infinity or NaN in letters of
either case, denotes. -/
def readMagnitude? (text : List Char) : Option Nat :=
  let word := String.ofList (text.map Char.toLower)
  if word == "inf" || word == "infinity" then some infinityBits
  else if word == "nan" then some nanBits
  else (Decimal.read? text).map magnitudeOfDecimal

def read? (text : String) : Option Binary64 :=
  let (negative, rest) := splitSign text.toList
  (readMagnitude? rest).map (ofMagnitude negative)

end Binary64

end ScriptCheck.Number
