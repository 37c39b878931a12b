import Docblock.Pattern.Matcher

/-!
# Named formats of strings

The shapes of mail addresses and of several kinds of identifiers, as patterns that have to match
the whole string.
-/

namespace Docblock.Pattern.Format

/-- A set of characters: ranges and single ones. -/
def oneOf (ranges : List (Char × Char)) (singles : List Char) : Node :=
  .set false (ranges.map (fun range => .range range.1.toNat range.2.toNat) ++
    singles.map fun c => .code c.toNat)

/-- Zero or more times. -/
def many (node : Node) : Node := .repeated 0 none .greedy node

/-- So many times or more. -/
def atLeast (count : Nat) (node : Node) : Node := .repeated count none .greedy node

/-- So many times. -/
def exactly (count : Nat) (node : Node) : Node := .repeated count (some count) .greedy node

/-- A pattern made of nodes one after the other. -/
def ofNodes (ignoreCase : Bool) (nodes : List Node) : Pattern :=
  ⟨"", { Flags.none with ignoreCase }, .seq nodes, []⟩

/-- A capital or a digit. -/
def alphanumeric : List (Char × Char) := [('A', 'Z'), ('0', '9')]

/-- A mail address. The local part has no dot at an end and no two dots in a row, and takes the
characters from the plus to the point; labels of the domain end in dots, and it ends in at least
two letters. -/
def email : Pattern := ofNodes true [
  .look true true (.code 46),
  .look true true (.cat (many .any) (Node.text ['.', '.'])),
  many (oneOf (alphanumeric ++ [('+', '.')]) ['_']),
  oneOf alphanumeric ['_', '+', '-'],
  .code 64,
  atLeast 1 (.seq [oneOf alphanumeric [], many (oneOf alphanumeric ['-']), .code 46]),
  atLeast 2 (oneOf [('A', 'Z')] [])]

/-- A letter c and eight or more characters that are neither blank nor a hyphen. -/
def cuid : Pattern := ofNodes true [
  .code 99,
  atLeast 8 (.set true [.category .space false, .code 45])]

/-- A small letter and then small letters and digits. -/
def cuid2 : Pattern := ofNodes false [
  oneOf [('a', 'z')] [],
  many (oneOf [('a', 'z'), ('0', '9')] [])]

/-- Twenty-six digits and capitals without I, L, O and U. -/
def ulid : Pattern := ofNodes false [
  exactly 26 (oneOf [('0', '9'), ('A', 'H'), ('J', 'K'), ('M', 'N'), ('P', 'T'), ('V', 'Z')] [])]

/-- Hexadecimal digits in groups of eight, four, four, four and twelve. -/
def uuid : Pattern :=
  let digits (count : Nat) := exactly count (oneOf [('0', '9'), ('a', 'f')] [])
  ofNodes true [digits 8, .code 45, digits 4, .code 45, digits 4, .code 45, digits 4, .code 45,
    digits 12]

end Docblock.Pattern.Format
