import Recast.Json.Basic
import Recast.Decimal.Shortest
/-!
Numbers as JSON Schema compares them.

Bounds (`minimum`, `maximum` and their exclusive forms) compare the exact values of an instance
and a limit, whatever their forms: an integer against a binary64 value is compared as the two
rational numbers they are, and so are two numbers tested for equality. An integer schema type
admits exact integers and, from draft 6 on, binary64 values with no fractional part.

`multipleOf` follows its own two rules. For a divisor with no fractional part, an instance is a
multiple when its binary64 value is whole and divides exactly. For any other divisor, the
instance's binary64 value is divided by the divisor in binary64 arithmetic, and it is a multiple
when the fractional part of that quotient, which keeps the quotient's sign, is below the binary64
epsilon. When that quotient is not finite, both values are written in decimal with fifteen
places after the point, each the exact binary64 value rounded half to even, and the instance is a
multiple when the divisor so written is zero or divides the instance so written.
-/

namespace Recast

namespace Number

/-- A number as an exact fraction `numerator / 2^shift`. -/
def toDyadic : Number → Int × Nat
  | .int value => (value, 0)
  | .float bits =>
    let binary := Decimal.Binary.ofBits bits
    let magnitude : Int :=
      if 0 ≤ binary.exponent then (binary.significand * Nat.pow 2 binary.exponent.toNat : Nat)
      else binary.significand
    ((if binary.negative then -magnitude else magnitude), (-binary.exponent).toNat)

/-- Compares the exact values of two numbers. -/
def compareExact (left right : Number) : Ordering :=
  let (a, k) := left.toDyadic
  let (b, l) := right.toDyadic
  compare (a * Int.pow 2 l) (b * Int.pow 2 k)

/-- Whether a number has no fractional part. -/
def isWhole (number : Number) : Bool :=
  let (a, k) := number.toDyadic
  a % (Nat.pow 2 k : Int) == 0

/-- The exact fraction of a binary64 value, as numerator and power-of-two shift. -/
def floatDyadic (value : Float) : Int × Nat :=
  (Number.float value.toBits).toDyadic

/-- The binary64 epsilon, `2^-52`. -/
def epsilonDyadic : Int × Nat := (1, 52)

/-- Whether an exact fraction is a whole number. -/
def dyadicWhole (value : Int × Nat) : Bool :=
  value.1 % (Nat.pow 2 value.2 : Int) == 0

/-- Whether `dividend` is an exact whole multiple of `divisor`, both exact fractions. -/
def dividesExactly (dividend divisor : Int × Nat) : Bool :=
  -- dividend / divisor = (a / 2^k) / (b / 2^l) = a * 2^l / (b * 2^k)
  let numerator := dividend.1 * Int.pow 2 divisor.2
  let denominator := divisor.1 * Int.pow 2 dividend.2
  denominator != 0 && numerator % denominator == 0

/-- The exact fraction `value` times `10^places`, rounded to the nearest integer, ties to even: the
digits of `value` written with `places` decimal places, as one integer. -/
def scaledDecimal (places : Nat) (value : Int × Nat) : Int :=
  let numerator := value.1 * (Nat.pow 10 places : Int)
  let denominator : Int := Nat.pow 2 value.2
  let floor := numerator.fdiv denominator
  let twice := 2 * (numerator - floor * denominator)
  if denominator < twice then floor + 1
  else if twice < denominator then floor
  else if floor % 2 == 0 then floor else floor + 1

/-- The places after the point with which `multipleOf` writes values whose quotient overflows. -/
def overflowPlaces : Nat := 15

/-- Whether a number is a multiple of a divisor under the rules of `multipleOf`. -/
def isMultipleOf (number divisor : Number) : Bool :=
  let item := number.toFloat
  let step := divisor.toFloat
  if Number.isWhole (.float step.toBits) then
    dyadicWhole (floatDyadic item) && dividesExactly (floatDyadic item) (floatDyadic step)
  else
    let quotient := item / step
    -- an infinite quotient has no fractional part to measure: the decimal forms decide
    if quotient.isNaN || quotient.isInf then
      let dividend := scaledDecimal overflowPlaces (floatDyadic item)
      let divisor := scaledDecimal overflowPlaces (floatDyadic step)
      divisor == 0 || dividend % divisor == 0
    else
      -- the fractional part keeps the quotient's sign, as a remainder by one does
      let (a, k) := floatDyadic quotient
      let fraction : Int := a.tmod (Nat.pow 2 k : Int)
      decide (fraction * Int.pow 2 52 < (Nat.pow 2 k : Int))

end Number

end Recast
