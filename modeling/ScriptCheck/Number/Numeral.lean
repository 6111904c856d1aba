/-!
# Numerals

Decimal numerals as they are read from text: a sign, digits, and for numbers with a fraction a
point and an exponent. `readInteger?` gives the integers of 64 bits. `Decimal.read?` gives the
exact decimal value of a numeral without its sign, which `ScriptCheck.Number.Binary64` rounds.
-/

namespace ScriptCheck.Number

def twoPow (exponent : Nat) : Nat :=
  Nat.pow 2 exponent

def tenPow (exponent : Nat) : Nat :=
  Nat.pow 10 exponent

/-- The value of decimal digits, the most significant first. -/
def digitsValue (digits : List Char) : Nat :=
  digits.foldl (fun value digit => 10 * value + (digit.toNat - '0'.toNat)) 0

/-- Whether a text is a non-empty run of decimal digits. -/
def isDigits (text : List Char) : Bool :=
  !text.isEmpty && text.all Char.isDigit

/-- Whether a text starts with a minus sign, and the text behind its sign. -/
def splitSign : List Char → Bool × List Char
  | '-' :: rest => (true, rest)
  | '+' :: rest => (false, rest)
  | text => (false, text)

def signed (negative : Bool) (magnitude : Nat) : Int :=
  if negative then -(magnitude : Int) else magnitude

/-- The least integer of 64 bits in two's complement. -/
def leastInteger : Int := -0x8000000000000000

/-- The greatest integer of 64 bits in two's complement. -/
def greatestInteger : Int := 0x7FFFFFFFFFFFFFFF

/-- The integer that a signed numeral denotes, if it fits 64 bits in two's complement. -/
def readInteger? (text : String) : Option Int :=
  let (negative, digits) := splitSign text.toList
  let value := signed negative (digitsValue digits)
  if isDigits digits && leastInteger ≤ value && value ≤ greatestInteger then some value else none

structure Decimal where
  significand : Nat
  exponent : Int
  deriving DecidableEq, Repr

/-- The exponent behind the digits of a numeral: nothing, or a mark and a signed run of digits. -/
def readExponent? : List Char → Option Int
  | [] => some 0
  | mark :: rest =>
    let (negative, digits) := splitSign rest
    if (mark == 'e' || mark == 'E') && isDigits digits then
      some (signed negative (digitsValue digits))
    else none

/-- The value of an unsigned numeral. Digits may be missing on one side of the point, but not on
both. -/
def Decimal.read? (text : List Char) : Option Decimal :=
  let whole := text.takeWhile Char.isDigit
  let (fraction, rest) :=
    match text.dropWhile Char.isDigit with
    | '.' :: tail => (tail.takeWhile Char.isDigit, tail.dropWhile Char.isDigit)
    | tail => ([], tail)
  if whole.isEmpty && fraction.isEmpty then none
  else
    (readExponent? rest).map fun exponent =>
      { significand := digitsValue (whole ++ fraction), exponent := exponent - fraction.length }

end ScriptCheck.Number
