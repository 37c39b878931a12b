import Docblock.Net.Direction
import Docblock.Net.Joining
import Docblock.Net.Mapping
import Docblock.Text.Insertion
import Docblock.Text.Split

/-!
# Host names

A host name of a web address is brought into its mapped form and is then labels between points. A
label that begins with four certain letters is encoded: it writes other characters with those of
ASCII, and what it writes has to be in mapped form already. The characters of every label have to
stand at places where they may.

Names are not looked up, so whether there is such a host is left open.
-/

namespace Docblock.Net

open Text

/-- The ASCII characters that no name has. -/
def isForbidden (c : Char) : Bool :=
  c.toNat ≤ 32 || c.toNat == 127 ||
    ['%', '#', '/', ':', '<', '>', '?', '@', '[', '\\', ']', '^', '|'].contains c

/-- The value of a digit in an encoded label: a to z, then 0 to 9. -/
def labelDigit? (c : Char) : Option Nat :=
  if c.isLower then some (c.toNat - 97)
  else if c.isDigit then some (c.toNat - 22)
  else none

/-- The numbers of an encoded label stay below this one. -/
def labelNumberLimit : Nat := 4294967296

/-- One number of an encoded label, added to a value, and the digits after it. -/
def labelNumber? (bias : Nat) : Nat → Nat → Nat → List Char → Option (Nat × List Char)
  | _, _, _, [] => none
  | value, weight, place, c :: rest => do
    let digit ← labelDigit? c
    let value := value + digit * weight
    let threshold := digitThreshold place bias
    let heavier := weight * (36 - threshold)
    if labelNumberLimit ≤ value then none
    else if digit < threshold then return (value, rest)
    else if labelNumberLimit ≤ heavier then none
    else labelNumber? bias value heavier (place + 36) rest

/-- Insert the characters that the digits of an encoded label tell. -/
def insertDecoded : Nat → Nat → Nat → Nat → List Char → List Char → Option (List Char)
  | _, _, _, _, text, [] => some text
  | 0, _, _, _, _, _ => none
  | fuel + 1, code, place, bias, text, digits => do
    let (value, rest) ← labelNumber? bias place 1 36 digits
    let count := text.length + 1
    let code := code + value / count
    let target := value % count
    if code.isValidChar then
      insertDecoded fuel code (target + 1) (adaptBias (value - place) count (place == 0))
        (text.take target ++ Char.ofNat code :: text.drop target) rest
    else none

/-- The text that an encoded label writes, without the letters in front. What stands before the
last hyphen is taken as it is, and the rest tells which characters to insert. -/
def decodeLabel? (cs : List Char) : Option (List Char) :=
  let digits := (cs.reverse.takeWhile (· != '-')).reverse
  let plain := (cs.take (cs.length - digits.length)).dropLast
  let digits := if plain.isEmpty then cs else digits
  insertDecoded (digits.length + 1) 128 0 72 plain digits

/-- The most characters that the coded part of an encoded label may have. -/
def encodedLimit : Nat := 2000

/-- The letters in front of an encoded label. -/
def encodedMark : List Char := ['x', 'n', '-', '-']

/-- A character of ASCII. -/
def isAscii (c : Char) : Bool := c.toNat < 128

/-- The text of a label of a mapped name. -/
def labelText? (label : List Char) : Option (List Char) :=
  if encodedMark.isPrefixOf label then
    let encoded := label.drop encodedMark.length
    if !label.all isAscii || label.getLast? == some '-' || encoded.length > encodedLimit then none
    else do
      let text ← decodeLabel? encoded
      if mapName? text == some text then return text else none
  else some label

/-- The most characters that a label may have unless all are of ASCII. -/
def plainLimit : Nat := 1000

/-- Whether the characters of a label's text are at places where they may stand. -/
def isLabelText (text : List Char) : Bool :=
  !text.head?.any isMark && hasJoinersInPlace text &&
    (text.all isAscii || text.length ≤ plainLimit)

/-- The mapped form of a host name; none when it is no name. -/
def hostName? (cs : List Char) : Option (List Char) := do
  let name ← mapName? cs
  if name.any isForbidden then none
  else
    let texts ← (splitOn '.' name).mapM labelText?
    let oneWay := !texts.any (·.any isDirective) || texts.all isDirected
    if texts.all isLabelText && oneWay then return name else none

end Docblock.Net
