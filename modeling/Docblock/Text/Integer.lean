import Docblock.Text.Blank
import Docblock.Text.Digit
import Docblock.Text.Numeral

/-!
# Whole numbers in a text

A whole number may have blanks around it, a sign in front, and single underscores between its
digits. The digits and the blanks of all scripts count, except for the four separators that ASCII
has beside its blanks. A number with too many digits is none.
-/

namespace Docblock.Text

/-- The ASCII form of a digit or a blank outside ASCII. -/
def plainForm (c : Char) : Char :=
  if c.toNat < 128 then c
  else if isBlank c then ' '
  else match digitValue? c with
    | some value => Char.ofNat (48 + value)
    | none => c

/-- The digits of a text without the underscores between them. -/
def joinedDigits? : List Char → Option (List Char)
  | [] => none
  | [c] => if c.isDigit then some [c] else none
  | c :: '_' :: rest => if c.isDigit then (joinedDigits? rest).map (c :: ·) else none
  | c :: rest => if c.isDigit then (joinedDigits? rest).map (c :: ·) else none

/-- The number that digits write, unless there are too many of them. -/
def natural? (cs : List Char) : Option Nat := do
  let digits ← joinedDigits? cs
  if digits.length ≤ digitLimit then return valueIn 10 digits else none

/-- The whole number that a text writes. -/
def integer? (cs : List Char) : Option Int :=
  let isEdge (c : Char) := (9 ≤ c.toNat && c.toNat ≤ 13) || c == ' '
  match (((cs.map plainForm).dropWhile isEdge).reverse.dropWhile isEdge).reverse with
  | '-' :: digits => (natural? digits).map fun n => -(n : Int)
  | '+' :: digits => (natural? digits).map Int.ofNat
  | digits => (natural? digits).map Int.ofNat

end Docblock.Text
