/-!
# Sets of many characters

Sets of characters with numbers of two bytes. Some are in rows of ninety-four cells; others are
told as runs of characters with numbers in a row. A blank stands where there is no character.
-/

namespace Docblock.Text

/-- The character of a cell of a line, counted from zero. -/
def cell? (line : String) (place : Nat) : Option Char :=
  match line.toList[place]? with
  | some c => if c = ' ' then none else some c
  | none => none

/-- A set in rows, from the row `first` on. The cells of a row begin at 33. -/
structure CharGrid where
  first : Nat
  rows : List String
  deriving DecidableEq, Repr

/-- The character of a row and a cell. -/
def CharGrid.char? (grid : CharGrid) (row cell : Nat) : Option Char :=
  if grid.first ≤ row ∧ 0x21 ≤ cell then
    (grid.rows[row - grid.first]?).bind fun line => cell? line (cell - 0x21)
  else none

/-- The character of a row and a cell that are told by bytes from 128 on. -/
def CharGrid.high? (grid : CharGrid) (row cell : Nat) : Option Char :=
  if 0x80 ≤ row ∧ 0x80 ≤ cell then grid.char? (row - 0x80) (cell - 0x80) else none

/-- No run is longer. -/
def runLimit : Nat := 128

/-- The character of a number in runs. -/
def runChar? (runs : List (Nat × String)) (code : Nat) : Option Char :=
  runs.findSome? fun (first, line) =>
    if first ≤ code ∧ code < first + runLimit then cell? line (code - first) else none

end Docblock.Text
