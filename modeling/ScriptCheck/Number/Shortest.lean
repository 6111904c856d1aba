import ScriptCheck.Number.Binary64

/-!
# Shortest decimal text

The fewest decimal digits that read back as a given number, and of several such digit strings the
one nearest to it. The numbers that round to a given one form an interval around it. For a growing
count of digits the two neighbours of the number on the decimal grid of that count are tested, and
the first count with a neighbour in the interval wins.

`Binary64.display` sets the digits: positional from `0.0001` up to `10 ^ 16`, with at least one
digit behind the point, and with an exponent elsewhere.
-/

namespace ScriptCheck.Number.Binary64

/-- The interval of values that round to a positive finite number, over a common denominator. The
ends belong to it when the significand is even. -/
structure Interval where
  low : Nat
  value : Nat
  high : Nat
  denominator : Nat
  closed : Bool

/-- The interval around the number with the given bits, in quarters of its unit in the last place.
Below a power of two the numbers lie twice as close. -/
def interval (magnitude : Nat) : Interval :=
  let field := magnitude / twoPow 52
  let fraction := magnitude % twoPow 52
  let significand := if field = 0 then fraction else fraction + twoPow 52
  let exponent := leastExponent + (field - 1 : Nat) - 2
  let below := if fraction = 0 && 1 < field then 1 else 2
  let factor := twoPow exponent.toNat
  { low := (4 * significand - below) * factor
    value := 4 * significand * factor
    high := (4 * significand + 2) * factor
    denominator := twoPow (-exponent).toNat
    closed := significand % 2 = 0 }

/-- The interval with every value divided by a power of ten. -/
def Interval.overPowerOfTen (range : Interval) (exponent : Int) : Interval :=
  let factor := tenPow (-exponent).toNat
  { range with
    low := range.low * factor
    value := range.value * factor
    high := range.high * factor
    denominator := range.denominator * tenPow exponent.toNat }

def Interval.contains (range : Interval) (candidate : Nat) : Bool :=
  let scaled := candidate * range.denominator
  if range.closed then range.low ≤ scaled && scaled ≤ range.high
  else range.low < scaled && scaled < range.high

/-- The natural number in the interval that is nearest to its value, the larger one of two at the
same distance. -/
def Interval.nearest? (range : Interval) : Option Nat :=
  let floor := range.value / range.denominator
  let remainder := range.value % range.denominator
  match range.contains floor, range.contains (floor + 1) with
  | true, true => some (if 2 * remainder < range.denominator then floor else floor + 1)
  | true, false => some floor
  | false, true => some (floor + 1)
  | false, false => none

/-- Whether the value of the interval is at least the given power of ten. -/
def Interval.reaches (range : Interval) (exponent : Int) : Bool :=
  let scaled := range.overPowerOfTen exponent
  scaled.denominator ≤ scaled.value

/-- The exponent of the leading decimal digit. The binary logarithm leaves three candidates. -/
def Interval.leadingExponent (range : Interval) : Int :=
  let binary : Int := (range.value.log2 : Int) - range.denominator.log2
  let estimate := binary * 30103 / 100000
  if range.reaches (estimate + 1) then estimate + 1
  else if range.reaches estimate then estimate
  else estimate - 1

/-- The shortest decimal in the interval, among those with at least `17 - more` digits. -/
def Interval.shortestFrom (range : Interval) (leading : Int) : Nat → Decimal
  | 0 => { significand := 0, exponent := leading }
  | more + 1 =>
    let exponent := leading - (17 - (more + 1) : Nat)
    match (range.overPowerOfTen exponent).nearest? with
    | some significand => { significand, exponent }
    | none => range.shortestFrom leading more

/-- Digits without zeros at the end, and the place of the point counted from their start. -/
structure Digits where
  digits : List Char
  point : Int

def Digits.ofDecimal (decimal : Decimal) : Digits :=
  let digits := Nat.toDigits 10 decimal.significand
  { digits := (digits.reverse.dropWhile (· == '0')).reverse
    point := decimal.exponent + digits.length }

def shortest (magnitude : Nat) : Digits :=
  let range := interval magnitude
  Digits.ofDecimal (range.shortestFrom range.leadingExponent 17)

/-- The digits with the point in its place, and a zero where a side of the point has none. -/
def Digits.positional (number : Digits) : List Char :=
  if number.point ≤ 0 then
    ['0', '.'] ++ List.replicate (-number.point).toNat '0' ++ number.digits
  else
    let whole := number.digits.take number.point.toNat
    let fraction := number.digits.drop number.point.toNat
    whole ++ List.replicate (number.point.toNat - whole.length) '0' ++
      '.' :: (if fraction.isEmpty then ['0'] else fraction)

/-- The digits with the point behind the first of them, and an exponent. -/
def Digits.scientific (number : Digits) : List Char :=
  let fraction := number.digits.drop 1
  number.digits.take 1 ++ (if fraction.isEmpty then [] else '.' :: fraction) ++
    'e' :: (toString (number.point - 1)).toList

def displayMagnitude (magnitude : Nat) : List Char :=
  if magnitude = 0 then ['0', '.', '0']
  else if magnitude = infinityBits then ['i', 'n', 'f']
  else
    let number := shortest magnitude
    if -3 ≤ number.point && number.point ≤ 16 then number.positional else number.scientific

def display (number : Binary64) : String :=
  let magnitude := number.bits.toNat % twoPow 63
  if infinityBits < magnitude then "NaN"
  else
    let text := displayMagnitude magnitude
    String.ofList (if twoPow 63 ≤ number.bits.toNat then '-' :: text else text)

end ScriptCheck.Number.Binary64
