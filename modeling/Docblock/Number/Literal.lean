import Docblock.Number.Basic
import Docblock.Text.Digit

/-!
# Number literals

A number as written in an annotation: digits with an optional point and exponent, or `Infinity`,
each after an optional minus. Digits of every script count.

A literal is kept in its parts, and what number it means is asked apart from reading it, for a type
and a filter do not take the same literal for the same number.
-/

namespace Docblock

/-- The parts of a number literal. -/
inductive NumberLiteral where
  | infinity (negative : Bool)
  | decimal (negative : Bool) (whole : List Char) (fraction : Option (List Char))
      (exponent : Option (Bool × List Char))
  deriving DecidableEq, Repr

namespace NumberLiteral

open Text

/-- The longest run of digits and what follows it. -/
def spanDigits (cs : List Char) : List Char × List Char := cs.span isDigit

/-- The number that a run of digits denotes. -/
def valueOf (digits : List Char) : Nat :=
  digits.foldl (fun n c => 10 * n + (digitValue? c).getD 0) 0

/-- The sign and digits of an exponent and what follows them; nothing when no digit is there. -/
def readExponent (cs : List Char) : Option (Bool × List Char) × List Char :=
  let signed (negative : Bool) (rest : List Char) :=
    match spanDigits rest with
    | ([], _) => (none, cs)
    | (digits, after) => (some (negative, digits), after)
  match cs with
  | 'e' :: '-' :: rest | 'E' :: '-' :: rest => signed true rest
  | 'e' :: '+' :: rest | 'E' :: '+' :: rest => signed false rest
  | 'e' :: rest | 'E' :: rest => signed false rest
  | _ => (none, cs)

/-- The literal without its sign at the start of a text, and what follows it. -/
def readUnsigned (negative : Bool) (cs : List Char) : Option (NumberLiteral × List Char) :=
  match spanDigits cs with
  | ([], '.' :: rest) =>
    match spanDigits rest with
    | ([], _) => none
    | (fraction, rest) =>
      let (exponent, rest) := readExponent rest
      some (.decimal negative [] (some fraction) exponent, rest)
  | ([], 'I' :: 'n' :: 'f' :: 'i' :: 'n' :: 'i' :: 't' :: 'y' :: rest) =>
    some (.infinity negative, rest)
  | ([], _) => none
  | (whole, '.' :: rest) =>
    let (fraction, rest) := spanDigits rest
    let (exponent, rest) := readExponent rest
    some (.decimal negative whole (some fraction) exponent, rest)
  | (whole, rest) =>
    let (exponent, rest) := readExponent rest
    some (.decimal negative whole none exponent, rest)

/-- The longest literal at the start of a text, and what follows it. -/
def read? : List Char → Option (NumberLiteral × List Char)
  | '-' :: rest => readUnsigned true rest
  | cs => readUnsigned false cs

/-- A text that is one literal. -/
def ofText? (cs : List Char) : Option NumberLiteral :=
  match read? cs with
  | some (literal, []) => some literal
  | _ => none

/-- The literal as a floating-point number. -/
def toDouble : NumberLiteral → Double
  | .infinity negative => .infinity negative
  | .decimal negative whole fraction exponent =>
    let fraction := fraction.getD []
    let power : Int := match exponent with
      | none => 0
      | some (true, digits) => -(valueOf digits : Int)
      | some (false, digits) => valueOf digits
    .ofDecimal negative (valueOf (whole ++ fraction)) (power - fraction.length)

/-- The literal as a number: a whole number unless it has a point or an exponent. -/
def toNumber : NumberLiteral → Number
  | .decimal negative whole none none =>
    .int (if negative then -(valueOf whole : Int) else valueOf whole)
  | literal => .double literal.toDouble

/-- The count of digits of a whole number. -/
def wholeDigits? : NumberLiteral → Option Nat
  | .decimal _ whole none none => some whole.length
  | _ => none

end NumberLiteral

end Docblock
