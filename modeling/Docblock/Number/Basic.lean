import Docblock.Number.Shortest

/-!
# Numbers

A number is a whole number of any size or a floating-point number. The two compare by their exact
values; no whole number is rounded for a comparison. Remainders are another matter: when either side
is a floating-point number, both are.

The number that is none compares with nothing, itself included, so that a comparison can be missing
and a bound is not the same as the denial of the opposite one.
-/

namespace Docblock

/-- A whole number or a floating-point number. -/
inductive Number where
  | int (n : Int)
  | double (x : Double)
  deriving DecidableEq, Repr

namespace Number

/-- The exact value of a finite number as a whole number times a power of two. -/
def scaled? : Number → Option (Int × Int)
  | .int n => some (n, 0)
  | .double x => x.scaled?

/-- The order of two whole numbers, each times its power of two. -/
def compareScaled (a b : Int × Int) : Ordering :=
  let exponent := min a.2 b.2
  compare (a.1 * Nat.pow 2 (a.2 - exponent).toNat) (b.1 * Nat.pow 2 (b.2 - exponent).toNat)

/-- The order of two numbers; nothing compares with the absent number. -/
def compare? : Number → Number → Option Ordering
  | .double .nan, _ => none
  | _, .double .nan => none
  | .double (.infinity a), .double (.infinity b) => some (compare (!a) (!b))
  | .double (.infinity a), _ => some (if a then .lt else .gt)
  | _, .double (.infinity b) => some (if b then .gt else .lt)
  | a, b => do return compareScaled (← a.scaled?) (← b.scaled?)

/-- Equality by value. -/
def eqv (a b : Number) : Bool := compare? a b == some .eq

/-- Less by value. -/
def lt (a b : Number) : Bool := compare? a b == some .lt

/-- At most by value. -/
def le (a b : Number) : Bool := lt a b || eqv a b

/-- A number that is neither an infinity nor the absent number. -/
def isFinite : Number → Bool
  | .int _ => true
  | .double x => x.isFinite

/-- The value of a number without a fractional part. -/
def toInt? : Number → Option Int
  | .int n => some n
  | .double x => x.toInt?

/-- A number as a floating-point number; none when it is beyond all finite ones. -/
def toDouble? : Number → Option Double
  | .int n => Double.ofInt? n
  | .double x => some x

/-- Whether one floating-point number is a multiple of another. Infinities and the absent number
are multiples of nothing; of an infinity only zero is one. -/
def doubleMultiple (x step : Double) : Bool :=
  match x.scaled?, step with
  | some (m, _), .infinity _ => m == 0
  | some (m, e), .finite _ n f =>
    let exponent := min e f
    (m * Nat.pow 2 (e - exponent).toNat) % ((n : Int) * Nat.pow 2 (f - exponent).toNat) == 0
  | _, _ => false

/-- Whether a number is a multiple of another; none when a whole number is too large to meet a
floating-point number. -/
def multiple? (x step : Number) : Option Bool :=
  match x, step with
  | .int n, .int m => some (n % m == 0)
  | _, _ => do return doubleMultiple (← x.toDouble?) (← step.toDouble?)

end Number

end Docblock
