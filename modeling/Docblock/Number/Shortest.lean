import Docblock.Number.Double

/-!
# Shortest decimal text

The text of a floating-point number has the fewest digits that still read back as that number;
of several such, the nearest to it. A number from 10^-4 to below 10^16 is written positionally
and keeps one digit after the point; any other has an exponent of at least two digits.
-/

namespace Docblock.Double

/-- A positive fraction, compared without dividing. -/
structure Fraction where
  numerator : Nat
  denominator : Nat

/-- The fraction of a whole number and a power of a base. -/
def Fraction.scaled (n base : Nat) (power : Int) : Fraction :=
  ⟨n * Nat.pow base power.toNat, Nat.pow base (-power).toNat⟩

/-- At most. -/
def Fraction.le (a b : Fraction) : Bool :=
  a.numerator * b.denominator ≤ b.numerator * a.denominator

/-- Less. -/
def Fraction.lt (a b : Fraction) : Bool := !b.le a

/-- The whole part of a quotient. -/
def Fraction.divide (a b : Fraction) : Nat :=
  (a.numerator * b.denominator) / (b.numerator * a.denominator)

/-- The fractions that read back as one number: those between the middles to its neighbours,
with the middles themselves when the mantissa is even. -/
structure Interval where
  lower : Fraction
  upper : Fraction
  closed : Bool

/-- Membership. -/
def Interval.contains (interval : Interval) (x : Fraction) : Bool :=
  if interval.closed then interval.lower.le x && x.le interval.upper
  else interval.lower.lt x && x.lt interval.upper

/-- The interval of the finite number with this mantissa and exponent. Below a power of two the
neighbours lie twice as close. -/
def interval (mantissa : Nat) (exponent : Int) : Interval :=
  let below := if mantissa = leastMantissa && exponent > minExponent then 1 else 2
  { lower := .scaled (4 * mantissa - below) 2 (exponent - 2)
    upper := .scaled (4 * mantissa + 2) 2 (exponent - 2)
    closed := mantissa % 2 = 0 }

/-- The power of ten that is at most the number: its logarithm rounded down. -/
def magnitude (value : Fraction) (binary : Int) : Int :=
  let guess := binary * 30103 / 100000
  ([guess + 1, guess].find? fun power => (Fraction.scaled 1 10 power).le value).getD (guess - 1)

/-- The best of a value's two neighbours on the grid of a power of ten that lies in the
interval. -/
def onGrid? (value : Fraction) (interval : Interval) (power : Int) : Option Nat :=
  let low := value.divide (.scaled 1 10 power)
  let lowIn := interval.contains (.scaled low 10 power)
  let highIn := interval.contains (.scaled (low + 1) 10 power)
  let double : Fraction := ⟨2 * value.numerator, value.denominator⟩
  let middle := Fraction.scaled (2 * low + 1) 10 power
  if lowIn && highIn then
    some (if double.lt middle then low else if middle.lt double then low + 1 else low + low % 2)
  else if lowIn then some low
  else if highIn then some (low + 1)
  else none

/-- The shortest digits of a positive finite number, and the power of ten of the last one. -/
def shortestDigits (mantissa : Nat) (exponent : Int) : List Char × Int :=
  let value := Fraction.scaled mantissa 2 exponent
  let top := magnitude value (mantissa.log2 + exponent)
  -- Seventeen digits always read back.
  let found := (List.range 17).findSome? fun (count : Nat) =>
    let power : Int := top - count
    (onGrid? value (interval mantissa exponent) power).map (·, power)
  let (n, power) := found.getD (0, 0)
  let digits := Nat.toDigits 10 n
  let kept := (digits.reverse.dropWhile (· == '0')).reverse
  (kept, power + ((digits.length - kept.length : Nat) : Int))

/-- Digits with their decimal point: `point` digits stand before it. -/
def positional (digits : List Char) (point : Int) : List Char :=
  if point ≤ 0 then '0' :: '.' :: List.replicate (-point).toNat '0' ++ digits
  else if digits.length ≤ point.toNat then
    digits ++ List.replicate (point.toNat - digits.length) '0' ++ ['.', '0']
  else digits.take point.toNat ++ '.' :: digits.drop point.toNat

/-- Digits with an exponent. -/
def scientific (digits : List Char) (power : Int) : List Char :=
  let fraction := digits.drop 1
  let shown := Nat.toDigits 10 power.natAbs
  digits.take 1 ++ (if fraction.isEmpty then [] else '.' :: fraction) ++
    'e' :: (if power < 0 then '-' else '+') :: List.replicate (2 - shown.length) '0' ++ shown

/-- The text of a number. -/
def text : Double → String
  | .nan => "nan"
  | .infinity negative => if negative then "-inf" else "inf"
  | .finite negative mantissa exponent =>
    let sign := if negative then "-" else ""
    if mantissa = 0 then sign ++ "0.0"
    else
      let (digits, power) := shortestDigits mantissa exponent
      let point := power + digits.length
      sign ++ String.ofList
        (if -4 < point && point ≤ 16 then positional digits point
         else scientific digits (point - 1))

end Docblock.Double
