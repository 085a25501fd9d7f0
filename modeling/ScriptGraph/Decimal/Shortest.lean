/-!
# Shortest decimals

A binary floating-point number stands for the interval of reals that round to it.  Its shortest
decimal is the one with the fewest digits in that interval, of those the nearest to the number, and
of two equally near the one whose last digit is even.

The interval is closed if the significand is even, because ties round to even, and open otherwise.
Below a power of two the next smaller number is only half as far away as the next larger one.  All
comparisons are between natural numbers: the number is scaled until both ends of its interval and
the decimal grid are whole.
-/

namespace ScriptGraph.Decimal

/-- A binary interchange format, by the widths of its fields. -/
structure BinaryFormat where
  fractionBits : Nat
  exponentBits : Nat

namespace BinaryFormat

/-- 32-bit numbers. -/
def single : BinaryFormat := ⟨23, 8⟩

/-- 64-bit numbers. -/
def double : BinaryFormat := ⟨52, 11⟩

end BinaryFormat

/-- The magnitude of a finite number: `significand * 2 ^ (exponent - bias)`, where the bias is fixed
by the format. -/
structure Magnitude where
  significand : Nat
  /-- the exponent of the last bit of the significand, above the least exponent of the format -/
  exponent : Nat
  /-- whether the next smaller number is only half as far away as the next larger one -/
  narrowBelow : Bool

/-- What the bits of a number say. -/
structure Decoded where
  negative : Bool
  /-- `none` for infinities and what is not a number -/
  magnitude : Option Magnitude

namespace BinaryFormat

/-- The least exponent of a last bit, negated. -/
def bias (format : BinaryFormat) : Nat :=
  Nat.pow 2 (format.exponentBits - 1) - 2 + format.fractionBits

/-- Read the fields of a number. -/
def decode (format : BinaryFormat) (bits : Nat) : Decoded :=
  let fraction := bits % Nat.pow 2 format.fractionBits
  let field := bits / Nat.pow 2 format.fractionBits % Nat.pow 2 format.exponentBits
  let negative := bits / Nat.pow 2 (format.fractionBits + format.exponentBits) % 2 = 1
  { negative
    magnitude :=
      if field = Nat.pow 2 format.exponentBits - 1 then none
      else if field = 0 then some ⟨fraction, 0, false⟩
      else some ⟨Nat.pow 2 format.fractionBits + fraction, field - 1, fraction = 0 && 1 < field⟩ }

end BinaryFormat

/-- The interval of a number over a common denominator. -/
structure Interval where
  low : Nat
  value : Nat
  high : Nat
  denominator : Nat
  /-- whether the ends belong to the interval -/
  closed : Bool

/-- The interval of reals that round to a magnitude.  A quarter of the last bit is the unit. -/
def Magnitude.interval (m : Magnitude) (bias : Nat) : Interval :=
  let scale := Nat.pow 2 m.exponent
  { low := (4 * m.significand - if m.narrowBelow then 1 else 2) * scale
    value := 4 * m.significand * scale
    high := (4 * m.significand + 2) * scale
    denominator := Nat.pow 2 (bias + 2)
    closed := m.significand % 2 = 0 }

namespace Interval

/-- Measure an interval in units of `10 ^ k`. -/
def inUnits (i : Interval) : (k : Int) → Interval
  | .ofNat k => { i with denominator := i.denominator * Nat.pow 10 k }
  | .negSucc k =>
    let scale := Nat.pow 10 (k + 1)
    { i with low := i.low * scale, value := i.value * scale, high := i.high * scale }

/-- Whether a whole number of units lies in the interval. -/
def contains (i : Interval) (n : Nat) : Bool :=
  let n := n * i.denominator
  if i.closed then i.low ≤ n && n ≤ i.high else i.low < n && n < i.high

/-- The best whole number of units in the interval: one of the two neighbours of the value. -/
def best? (i : Interval) : Option Nat :=
  let below := i.value / i.denominator
  let rest := 2 * (i.value % i.denominator)
  match i.contains below, i.contains (below + 1) with
  | false, false => none
  | true, false => some below
  | false, true => some (below + 1)
  | true, true =>
    if rest < i.denominator then some below
    else if i.denominator < rest then some (below + 1)
    else some (if below % 2 = 0 then below else below + 1)

/-- The exponent of the first decimal digit of the value. -/
def leadingExponent (i : Interval) : Int :=
  if i.denominator ≤ i.value then ((Nat.toDigits 10 (i.value / i.denominator)).length : Int) - 1
  else -((Nat.toDigits 10 ((i.denominator - 1) / i.value)).length : Int)

end Interval

/-- A decimal: its digits, the first of them not zero, and the exponent of the first. -/
structure Digits where
  digits : List Char
  exponent : Int
  deriving DecidableEq, Inhabited

/-- The decimal of a whole number of units of `10 ^ k`, without zeros at the end. -/
def Digits.ofUnits (n : Nat) (k : Int) : Digits :=
  let digits := Nat.toDigits 10 n
  { digits := (digits.reverse.dropWhile (· == '0')).reverse
    exponent := k + digits.length - 1 }

/-- The best decimal with a number of digits, or with more, up to a bound.  At the bound the digits
are cut off. -/
def shortestFrom (i : Interval) (leading : Int) : (bound count : Nat) → Digits
  | 0, count =>
    let units := i.inUnits (leading - count)
    Digits.ofUnits (units.value / units.denominator) (leading - count)
  | bound + 1, count =>
    let k := leading - count
    match (i.inUnits k).best? with
    | some n => Digits.ofUnits n k
    | none => shortestFrom i leading bound (count + 1)

/-- More digits than any number of the two formats needs. -/
def digitBound : Nat := 20

/-- The shortest decimal of a magnitude that is not zero. -/
def shortest (m : Magnitude) (bias : Nat) : Digits :=
  let i := m.interval bias
  shortestFrom i i.leadingExponent digitBound 0

end ScriptGraph.Decimal
