import Docblock.Text.Mark
import Docblock.Text.Ranges

/-!
# Text direction in host names

A name with a letter that is written from right to left has to be read in one way only. So every
label begins with a letter, whose direction is that of the label, and holds only characters that
keep to it. The ranges run over characters that no mapped name holds.
-/

namespace Docblock.Net

open Text

/-- How a character takes part in the direction of a text. -/
inductive Direction where
  | left
  | right
  | number
  | arabicNumber
  | neutral
  | mark
  deriving DecidableEq, Repr

/-- Letters that are written from right to left. -/
def rightLetters : List (Nat × Nat) := [
  (1470, 1470), (1472, 1472), (1475, 1475), (1478, 1478), (1488, 1524), (1544, 1544), (1547, 1547),
  (1549, 1549), (1563, 1610), (1645, 1647), (1649, 1749), (1765, 1766), (1774, 1775), (1786, 1808),
  (1810, 1839), (1869, 1957), (1969, 2026), (2036, 2037), (2042, 2042), (2046, 2069), (2074, 2074),
  (2084, 2084), (2088, 2088), (2096, 2136), (2142, 2190), (2208, 2249), (64434, 64450),
  (65139, 65139), (67584, 67867), (67872, 68096), (68112, 68149), (68160, 68324), (68331, 68405),
  (68416, 68899), (69248, 69289), (69293, 69297), (69376, 69445), (69457, 69505), (69510, 69622),
  (124928, 125135), (125218, 125251), (125259, 126269)]

/-- Digits that go with either direction. -/
def numbers : List (Nat × Nat) := [
  (48, 57), (1776, 1785), (66273, 66299)]

/-- Digits that go with letters from right to left only. -/
def arabicNumbers : List (Nat × Nat) := [
  (1632, 1641), (1643, 1644), (68912, 69246)]

/-- Signs and punctuation. -/
def neutrals : List (Nat × Nat) := [
  (33, 47), (58, 96), (123, 215), (247, 247), (697, 698), (706, 719), (722, 749), (751, 767),
  (885, 885), (1014, 1014), (1418, 1423), (1542, 1543), (1545, 1546), (1548, 1548), (1550, 1551),
  (1642, 1642), (1758, 1758), (1769, 1769), (2038, 2041), (2546, 2547), (2555, 2555), (2801, 2801),
  (3059, 3066), (3192, 3198), (3647, 3647), (3898, 3901), (5008, 5017), (5120, 5120), (5787, 5788),
  (6107, 6107), (6128, 6154), (6464, 6469), (6622, 6655), (8204, 8384), (8452, 8525), (8586, 9013),
  (9083, 9108), (9110, 9899), (9901, 10239), (10496, 11263), (11493, 11498), (11513, 11519),
  (11776, 12292), (12296, 12320), (12336, 12336), (12343, 12343), (12349, 12351), (12448, 12448),
  (12539, 12539), (12736, 12771), (19904, 19967), (42128, 42182), (42509, 42511), (42611, 42611),
  (42622, 42623), (42752, 42785), (42888, 42888), (43048, 43051), (43064, 43065), (43124, 43127),
  (43882, 43883), (64830, 65023), (65093, 65094), (65793, 65793), (65856, 65932), (65936, 65952),
  (67871, 67871), (68409, 68415), (69714, 69733), (71264, 71276), (73685, 73713), (94178, 94178),
  (119273, 119361), (119365, 119365), (119552, 119638), (123647, 123647), (126704, 127279),
  (127341, 127343), (127405, 127405), (127584, 129994)]

/-- The direction of a character. -/
def Direction.of (c : Char) : Direction :=
  let code := c.toNat
  if inRanges rightLetters code then .right
  else if inRanges numbers code then .number
  else if inRanges arabicNumbers code then .arabicNumber
  else if inRanges neutrals code then .neutral
  else if isNonspacingMark c then .mark
  else .left

/-- Whether the directions after the first of a label from left to right keep to it. Marks at
the end do not count, and the last before them is a letter or a number. -/
def keepsLeft (tail : List Direction) : Bool :=
  match tail.reverse.dropWhile (· == .mark) with
  | [] => true
  | last :: middle =>
    [Direction.left, .number].contains last &&
      middle.all [Direction.left, .number, .neutral, .mark].contains

/-- Whether the directions after the first of a label from right to left keep to it. It does not
hold both kinds of numbers. -/
def keepsRight (tail : List Direction) : Bool :=
  match tail.reverse.dropWhile (· == .mark) with
  | [] => true
  | last :: middle =>
    [Direction.right, .number, .arabicNumber].contains last &&
      middle.all [Direction.right, .arabicNumber, .number, .neutral, .mark].contains &&
      !((last :: middle).contains .number && (last :: middle).contains .arabicNumber)

/-- Whether a label can be read in one way only. An empty one can. -/
def isDirected (label : List Char) : Bool :=
  match label.map Direction.of with
  | [] => true
  | .left :: tail => keepsLeft tail
  | .right :: tail => keepsRight tail
  | _ => false

/-- A character that makes the direction of a name matter. -/
def isDirective (c : Char) : Bool :=
  [Direction.right, .arabicNumber].contains (Direction.of c)

end Docblock.Net
