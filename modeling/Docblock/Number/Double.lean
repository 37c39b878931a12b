/-!
# Binary floating-point numbers

The numbers of the 64-bit binary format, held exactly: a finite one is a sign, a mantissa below 2^53
and a power of two, never below 2^-1074. Nothing here rounds but `Double.ofRatio`, which goes to the
nearest number and from the middle of two to the one with the even mantissa.

There is no arithmetic beside it. Values are compared, divided with a remainder, and written, and
for each of these the exact value is enough.
-/

namespace Docblock

/-- A number of the 64-bit binary format. -/
inductive Double where
  | nan
  | infinity (negative : Bool)
  | finite (negative : Bool) (mantissa : Nat) (exponent : Int)
  deriving DecidableEq, Repr

namespace Double

/-- The smallest power of two in the format. -/
def minExponent : Int := -1074

/-- The largest power of two beside a mantissa of 53 bits. -/
def maxExponent : Int := 971

/-- The smallest mantissa of 53 bits. -/
def leastMantissa : Nat := 4503599627370496

/-- Zero with a plus sign. -/
def zero : Double := .finite false 0 minExponent

/-- The quotient of two whole numbers, the greater part of the second being a power of two. -/
def divideScaled (numerator denominator : Nat) (exponent : Int) : Nat × Nat × Nat :=
  let top := numerator * Nat.pow 2 (-exponent).toNat
  let bottom := denominator * Nat.pow 2 exponent.toNat
  (top / bottom, top % bottom, bottom)

/-- The mantissa nearest to a quotient with a remainder; a half goes to the even one. -/
def nearestEven (quotient remainder divisor : Nat) : Nat :=
  if 2 * remainder > divisor then quotient + 1
  else if 2 * remainder = divisor then quotient + quotient % 2
  else quotient

/-- The number nearest to a fraction, or an infinity when it lies beyond all finite ones. -/
def ofRatio (negative : Bool) (numerator denominator : Nat) : Double :=
  if numerator = 0 then .finite negative 0 minExponent
  else
    let guess : Int := max minExponent ((numerator.log2 : Int) - (denominator.log2 : Int) - 53)
    let exponent :=
      if (divideScaled numerator denominator guess).1 < 2 * leastMantissa then guess else guess + 1
    let (quotient, remainder, divisor) := divideScaled numerator denominator exponent
    let mantissa := nearestEven quotient remainder divisor
    -- Rounding up can fill the last mantissa of a power of two.
    let (mantissa, exponent) :=
      if mantissa = 2 * leastMantissa then (leastMantissa, exponent + 1) else (mantissa, exponent)
    if exponent > maxExponent then .infinity negative else .finite negative mantissa exponent

/-- The number nearest to a decimal: digits times a power of ten. A decimal far outside the
format is decided by its size, so that no huge power is computed. -/
def ofDecimal (negative : Bool) (digits : Nat) (power : Int) : Double :=
  let size : Int := (Nat.toDigits 10 digits).length + power
  if digits = 0 || size < -400 then .finite negative 0 minExponent
  else if size > 400 then .infinity negative
  else ofRatio negative (digits * Nat.pow 10 power.toNat) (Nat.pow 10 (-power).toNat)

/-- The number nearest to a whole number; none when that is beyond all finite numbers. -/
def ofInt? (n : Int) : Option Double :=
  match ofRatio (n < 0) n.natAbs 1 with
  | .finite negative mantissa exponent => some (.finite (negative && n ≠ 0) mantissa exponent)
  | _ => none

/-- A number that is neither an infinity nor the absent number. -/
def isFinite : Double → Bool
  | .finite .. => true
  | _ => false

/-- The value of a finite number as a whole number times a power of two. -/
def scaled? : Double → Option (Int × Int)
  | .finite negative mantissa exponent =>
    some (if negative then -(mantissa : Int) else mantissa, exponent)
  | _ => none

/-- The value of a number without a fractional part. -/
def toInt? : Double → Option Int
  | .finite negative mantissa exponent =>
    let (quotient, remainder, _) := divideScaled mantissa 1 (-exponent)
    if remainder = 0 then some (if negative then -(quotient : Int) else quotient) else none
  | _ => none

end Double

end Docblock
