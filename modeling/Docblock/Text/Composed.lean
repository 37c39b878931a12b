import Docblock.Text.CombiningClass
import Docblock.Text.Decomposition

/-!
# Composed form

Texts that look the same and mean the same have one composed form. Every character is taken apart
as far as it goes, the marks after a letter are put in the order of their classes, and then letters
and marks are put together again where one character stands for both.
-/

namespace Docblock.Text

/-! ## Hangul syllables -/

/-- The letters of a Hangul syllable: the first, the vowel, and the last if there is one. -/
def syllableLetters (code : Nat) : List Nat :=
  let place := code - 0xac00
  let start := [0x1100 + place / 588, 0x1161 + place % 588 / 28]
  if place % 28 = 0 then start else start ++ [0x11a7 + place % 28]

/-- A Hangul syllable. -/
def isSyllable (code : Nat) : Bool := 0xac00 ≤ code && code ≤ 0xd7a3

/-- The syllable of a first letter and a vowel, or of these two together and a last letter. -/
def joinLetters? (first second : Nat) : Option Nat :=
  if 0x1100 ≤ first && first ≤ 0x1112 && 0x1161 ≤ second && second ≤ 0x1175 then
    some (0xac00 + ((first - 0x1100) * 21 + (second - 0x1161)) * 28)
  else if isSyllable first && (first - 0xac00) % 28 = 0 && 0x11a8 ≤ second && second ≤ 0x11c2 then
    some (first + (second - 0x11a7))
  else none

/-! ## Taking apart and putting together -/

/-- No decomposition goes deeper than this. -/
def decompositionDepth : Nat := 4

/-- The characters that a character is made of, taken apart so many times. -/
def decomposeCode : Nat → Nat → List Nat
  | 0, code => [code]
  | depth + 1, code =>
    if isSyllable code then syllableLetters code
    else match decompositions.lookup code with
      | some parts => parts.flatMap (decomposeCode depth)
      | none => [code]

/-- Put a code in front of codes in order: a mark goes behind the marks of smaller classes. -/
def placeMark (code : Nat) : List Nat → List Nat
  | [] => [code]
  | next :: rest =>
    if 0 < combiningClass next && combiningClass next < combiningClass code then
      next :: placeMark code rest
    else code :: next :: rest

/-- The one character that stands for two in a row. -/
def pair? (first second : Nat) : Option Nat :=
  (joinLetters? first second).or (compositions.lookup (first, second))

/-- Put a letter together with what follows it. `skipped` holds the marks that were left alone
since the letter, last one first: a mark does not get past one of its own class or a greater. -/
def composeFrom (letter : Nat) (skipped : List Nat) : List Nat → List Nat
  | [] => letter :: skipped.reverse
  | code :: rest =>
    let next := combiningClass code
    let isFree := skipped.head?.all fun mark => combiningClass mark < next
    match if isFree then pair? letter code else none with
    | some both => composeFrom both skipped rest
    | none =>
      if next = 0 then letter :: skipped.reverse ++ composeFrom code [] rest
      else composeFrom letter (code :: skipped) rest

/-- The composed form of a text. -/
def compose (codes : List Nat) : List Nat :=
  match (codes.flatMap (decomposeCode decompositionDepth)).foldr placeMark [] with
  | [] => []
  | code :: rest => composeFrom code [] rest

end Docblock.Text
