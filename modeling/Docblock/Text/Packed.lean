import Docblock.Text.Numeral

/-!
# Packed tables

A table from code points to rows of code points, written down in lines. Groups of entries stand
between semicolons; a group begins with the code of its first entry and a colon, and its entries
stand between commas, each for the next code. An entry is a row of hexadecimal codes between
blanks, or empty when it is the one code after the first of the entry before.
-/

namespace Docblock.Text

/-- The entries of a group from a code on. `next` is what an empty entry stands for. -/
def unpackEntries : Nat → Nat → List String → List (Nat × List Nat)
  | _, _, [] => []
  | code, next, entry :: entries =>
    let row := if entry.isEmpty then [next] else (entry.splitOn " ").map (valueIn 16 ·.toList)
    (code, row) :: unpackEntries (code + 1) (row.headD 0 + 1) entries

/-- The entries of a group. -/
def unpackGroup (group : String) : List (Nat × List Nat) :=
  match group.splitOn ":" with
  | [code, entries] => unpackEntries (valueIn 16 code.toList) 0 (entries.splitOn ",")
  | _ => []

/-- The table that lines write down. -/
def unpack (lines : List String) : List (Nat × List Nat) :=
  (lines.flatMap (·.splitOn ";")).flatMap unpackGroup

end Docblock.Text
