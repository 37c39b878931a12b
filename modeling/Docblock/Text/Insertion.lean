import Docblock.Text.Bytes
import Docblock.Text.Case
import Docblock.Text.Split

/-!
# Insertions

A text is spelled in ASCII as its characters of ASCII, a hyphen, and digits. The digits write
numbers, and each number tells the next character and where it is inserted. A bias makes the digits
few as long as the characters come from one script.
-/

namespace Docblock.Text

/-- Scale down the distance between two insertions; the quotient counts the steps. -/
def scaleDown : Nat → Nat → Nat → Nat × Nat
  | 0, delta, steps => (delta, steps)
  | fuel + 1, delta, steps =>
    if delta > 455 then scaleDown fuel (delta / 35) (steps + 36) else (delta, steps)

/-- The bias after an insertion into a text that has `count` characters with it. -/
def adaptBias (delta count : Nat) (first : Bool) : Nat :=
  let delta := if first then delta / 700 else delta / 2
  let (delta, steps) := scaleDown 32 (delta + delta / count) 0
  steps + 36 * delta / (delta + 38)

/-- The digits below this one end a number, at a place that goes up by thirty-six. -/
def digitThreshold (place bias : Nat) : Nat :=
  if place ≤ bias then 1 else min 26 (place - bias)

/-! ## Spelled texts -/

/-- The value of a digit: a letter, or one of the ten digits. -/
def insertionDigit? (c : Char) : Option Nat :=
  if c.isUpper then some (c.toNat - 65)
  else if c.isDigit then some (c.toNat - 22)
  else none

/-- One number, added to a value, and the digits after it. -/
def insertionNumber (bias : Nat) : Nat → Nat → Nat → List Char →
    Except DecodeFault (Nat × List Char)
  | _, _, _, [] => .error .cutNumber
  | value, weight, place, c :: rest =>
    match insertionDigit? c with
    | none => .error (.digit c)
    | some digit =>
      let value := value + digit * weight
      let threshold := digitThreshold place bias
      if digit < threshold then .ok (value, rest)
      else insertionNumber bias value (weight * (36 - threshold)) (place + 36) rest

/-- Insert the characters that digits tell. `place` is the place after the last insertion. -/
def insertAll : Nat → Nat → Nat → Nat → Bool → List Char → List Char →
    Except DecodeFault (List Char)
  | _, _, _, _, _, text, [] => .ok text
  | 0, _, _, _, _, text, _ => .ok text
  | fuel + 1, code, place, bias, first, text, digits => do
    let (value, rest) ← insertionNumber bias place 1 36 digits
    let count := text.length + 1
    let code := code + value / count
    let target := value % count
    if 0x10ffff < code then throw (.beyondCodes code)
    else
      insertAll fuel code (target + 1) (adaptBias (value - place) count first) false
        (text.take target ++ charOf code :: text.drop target) rest

/-- The text that ASCII spells. What stands before the last hyphen is taken as it is. -/
def decodeSpelled (bytes : List Nat) : Except DecodeFault (List Char) := do
  let digits := (bytes.reverse.takeWhile (· != 45)).reverse
  let plain := (bytes.take (bytes.length - digits.length)).dropLast
  let text ← decodeFrom "ascii" readAscii () 0 0 plain
  let digits ← decodeFrom "ascii" readAscii () 0 0 digits
  insertAll digits.length 128 0 72 true text (digits.map Char.toUpper)

/-! ## Names -/

/-- The letters in front of a label that is spelled. -/
def spelledMark : List Char := ['x', 'n', '-', '-']

/-- The most characters of a label and one more. -/
def labelLimit : Nat := 64

/-- The text of a label of ASCII. What it spells has to need the spelling. -/
def decodeLabel (label : List Char) : Except DecodeFault (List Char) := do
  if !spelledMark.isPrefixOf label then return label
  else
    let bytes := label.map Char.toNat
    let text ←
      match decodeSpelled (bytes.drop spelledMark.length) with
      | .ok text => pure text
      | .error fault => throw (.within "punycode" fault)
    if text.any fun c => 128 ≤ c.toNat then return text
    else if text.isEmpty || labelLimit ≤ text.length then throw .labelLength
    else throw (.notCanonical bytes (text.map Char.toNat))

/-- The text of labels of ASCII with points between them. -/
def decodeLabels (bytes : List Nat) : Except DecodeFault (List Char) := do
  let text ← decodeFrom "ascii" readAscii () 0 0 bytes
  return join ['.'] (← (splitOn '.' text).mapM decodeLabel)

end Docblock.Text
