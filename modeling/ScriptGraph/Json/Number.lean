import ScriptGraph.Decimal.Shortest
import ScriptGraph.Json.Tree

/-!
# Numbers in JSON

A numeral without point and exponent is an integer if 64 bits hold it, unsigned or, behind a minus
sign, signed; `-0` is none, because it would lose its sign.  Every other numeral is a 64-bit
floating-point number.

A floating-point number is read in three steps: as many digits as 64 bits hold make an integer, the
integer is rounded, and the result is multiplied or divided by a power of ten.  The last two steps
round separately, so the last bit of the result may differ from the nearest one.  What lies beyond
the largest number is refused.

A floating-point number is written with its shortest digits, without exponent as long as the first
digit stands neither far in front of the point nor far behind it.
-/

namespace ScriptGraph.Json

/-! ### Reading -/

/-- The largest number that 64 bits hold. -/
def maxSignificand : Nat := UInt64.size - 1

/-- The integer that a numeral is, if it is one. -/
def Numeral.toInt? (n : Numeral) : Option Int :=
  if !n.fraction.isEmpty || n.exponent.isSome then none
  else
    let value := digitsValue n.whole
    if n.negative then
      if 0 < value ∧ value ≤ 0x8000000000000000 then some (-(value : Int)) else none
    else if value ≤ maxSignificand then some value else none

/-- Take in digits as long as 64 bits hold the number they spell, and return the number and the
digits that are left. -/
def absorb (value : Nat) : List Char → Nat × List Char
  | [] => (value, [])
  | c :: digits =>
    let next := value * 10 + (c.toNat - '0'.toNat)
    if next ≤ maxSignificand then absorb next digits else (value, c :: digits)

/-- The digits of a numeral as an integer and a power of ten. -/
def Numeral.significand (n : Numeral) : Nat × Int :=
  let (value, wholeLeft) := absorb 0 n.whole
  let (value, fractionLeft) := absorb value n.fraction
  (value, (wholeLeft.length : Int) - ((n.fraction.length : Int) - fractionLeft.length))

/-- The largest exponent that a numeral may write out. -/
def maxExponent : Nat := 0x7fffffff

/-- A power of ten up to `10 ^ 308`. -/
def powerOfTen (k : Nat) : Float :=
  Float.ofScientific 1 false k

/-- Divide by a power of ten, `10 ^ 308` at a time. -/
def divideByPower (f : Float) (k : Nat) : Float :=
  if k ≤ 308 then f / powerOfTen k
  else if f == 0 then f
  else divideByPower (f / powerOfTen 308) (k - 308)
termination_by k

/-- Multiply by a power of ten, unless the result is too large. -/
def multiplyByPower (f : Float) (k : Nat) : Option Float :=
  if k ≤ 308 then
    let product := f * powerOfTen k
    if product.isInf then none else some product
  else if f == 0 then some f
  else none

/-- An integer times a power of ten. -/
def scale (value : Nat) (k : Int) : Option Float :=
  let f := (UInt64.ofNat value).toFloat
  match k with
  | .ofNat k => multiplyByPower f k
  | .negSucc k => some (divideByPower f (k + 1))

/-- The magnitude of a numeral.  An exponent too large to be written out makes it zero, or is
refused if it is positive and the digits are not all zero. -/
def Numeral.magnitude? (n : Numeral) : Option Float :=
  let (value, k) := n.significand
  match n.exponent with
  | none => scale value k
  | some ⟨sign, digits⟩ =>
    let exponent := digitsValue digits
    if maxExponent < exponent then
      if sign = .minus ∨ value = 0 then some 0 else none
    else if sign = .minus then scale value (k - exponent)
    else scale value (k + exponent)

/-- The 64-bit floating-point number of a numeral. -/
def Numeral.toFloat? (n : Numeral) : Option Float :=
  n.magnitude?.map fun f => if n.negative then -f else f

open Float.Model in
/-- The 32-bit number nearest to a 64-bit one, and of two equally near the one with an even
significand.  What is too large becomes infinite. -/
def nearestSingle (f : Float) : Float32 :=
  let rounded :=
    match UnpackedFloat.unpack .binary64 f.toBits.toBitVec with
    | .finite sign mantissa exponent _ => UnpackedFloat.round .binary32 sign mantissa exponent
    | special => special
  .ofBits ⟨UnpackedFloat.pack .binary32 rounded⟩

/-- The 32-bit floating-point number of a numeral.  An integer is rounded once, every other number
by way of 64 bits; what is too large becomes infinite. -/
def Numeral.toSingle? (n : Numeral) : Option Float32 :=
  match n.toInt? with
  | some (.ofNat i) => some (UInt64.ofNat i).toFloat32
  | some (.negSucc i) => some (-(UInt64.ofNat (i + 1)).toFloat32)
  | none => n.toFloat?.map nearestSingle

/-! ### Writing -/

/-- Where numbers change from positional to exponent notation: the least and the greatest exponent
of the first digit that are written without exponent. -/
structure NumberLayout where
  least : Int
  greatest : Int

/-- 32-bit numbers are positional from a millionth up to thirteen digits. -/
def NumberLayout.single : NumberLayout := ⟨-6, 12⟩

/-- 64-bit numbers are positional from a hundred-thousandth up to sixteen digits. -/
def NumberLayout.double : NumberLayout := ⟨-5, 15⟩

/-- The numeral of a decimal in positional notation.  There is always a digit behind the point. -/
def positional (negative : Bool) (d : Decimal.Digits) : Numeral :=
  match d.exponent with
  | .ofNat e =>
    let fraction := d.digits.drop (e + 1)
    { negative
      whole := d.digits.take (e + 1) ++ List.replicate (e + 1 - d.digits.length) '0'
      fraction := if fraction.isEmpty then ['0'] else fraction }
  | .negSucc e => { negative, whole := ['0'], fraction := List.replicate e '0' ++ d.digits }

/-- The numeral of a decimal in exponent notation, with one digit in front of the point. -/
def scientific (negative : Bool) (d : Decimal.Digits) : Numeral :=
  { negative
    whole := d.digits.take 1
    fraction := d.digits.drop 1
    exponent := some
      ⟨if d.exponent < 0 then .minus else .plus, decimalDigits d.exponent.natAbs⟩ }

/-- Write a number from its bits.  What is not finite has no numeral and becomes null. -/
def floatTree (format : Decimal.BinaryFormat) (layout : NumberLayout) (bits : Nat) : Tree :=
  let decoded := format.decode bits
  match decoded.magnitude with
  | none => .null
  | some m =>
    if m.significand = 0 then
      .number { negative := decoded.negative, whole := ['0'], fraction := ['0'] }
    else
      let d := Decimal.shortest m format.bias
      if layout.least ≤ d.exponent ∧ d.exponent ≤ layout.greatest then
        .number (positional decoded.negative d)
      else .number (scientific decoded.negative d)

/-- Write a 32-bit number. -/
def Tree.ofSingle (f : Float32) : Tree :=
  floatTree .single .single f.toBits.toNat

/-- Write a 64-bit number. -/
def Tree.ofFloat (f : Float) : Tree :=
  floatTree .double .double f.toBits.toNat

/-- Write an integer. -/
def Tree.ofInt (i : Int) : Tree :=
  .number (.ofInt i)

/-- Write a natural number. -/
def Tree.ofNat (n : Nat) : Tree :=
  .number (.ofNat n)

end ScriptGraph.Json
