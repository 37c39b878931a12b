/-!
# Numerals

Digits of ASCII in bases up to sixteen, and the numbers that runs of them write.
-/

namespace Docblock.Text

/-- A hexadecimal digit. -/
def isHexDigit (c : Char) : Bool :=
  c.isDigit || ('a' ≤ c && c ≤ 'f') || ('A' ≤ c && c ≤ 'F')

/-- An octal digit. -/
def isOctalDigit (c : Char) : Bool := '0' ≤ c && c ≤ '7'

/-- The value of a hexadecimal digit. -/
def hexValue (c : Char) : Nat :=
  if c.isDigit then c.toNat - 48 else if 'a' ≤ c then c.toNat - 87 else c.toNat - 55

/-- The number written by digits of a base up to sixteen. -/
def valueIn (base : Nat) (digits : List Char) : Nat :=
  digits.foldl (fun n c => base * n + hexValue c) 0

/-- The most decimal digits with which a whole number is read or written. -/
def digitLimit : Nat := 4300

/-- What is said about a whole number with more digits. How many there are is told when they were
to be read, and not when they were to be written. -/
def tooManyDigits (digits : Option Nat) : String :=
  let count := match digits with
    | some digits => ": value has " ++ toString digits ++ " digits"
    | none => ""
  "Exceeds the limit (4300 digits) for integer string conversion" ++ count ++
    "; use sys.set_int_max_str_digits() to increase the limit"

end Docblock.Text
