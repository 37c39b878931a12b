import Docblock.Text.Bytes
import Docblock.Text.Name

/-!
# Escaped text

Encodings with one character a byte in which a backslash begins the code or the name of a
character.
-/

namespace Docblock.Text

/-- Digits in base 16, `left` more of them, of a code; `count` bytes of the escape were read. A
code may be too large, which gives `excess`. -/
def readHexCode (letter : Char) (digits : Nat) (excess : ByteFault) :
    Nat → Nat → Nat → List Nat → ByteStep Unit
  | 0, code, count, _ => if 0x10ffff < code then .error (count, excess) else readCode code count
  | _ + 1, _, count, [] => .error (count, .escapeDigits letter digits)
  | left + 1, code, count, byte :: rest =>
    if isHexDigit (Char.ofNat byte) then
      readHexCode letter digits excess left (16 * code + hexValue (Char.ofNat byte)) (count + 1) rest
    else .error (count, .escapeDigits letter digits)

/-- A name in braces, of which the first is to come. -/
def readNamed : List Nat → ByteStep Unit
  | 0x7b :: rest =>
    let name := rest.takeWhile (· != 0x7d)
    if name.length = rest.length then .error (3 + name.length, .nameForm)
    else if name.isEmpty then .error (3, .nameForm)
    else
      match characterNamed? (name.map Char.ofNat) with
      | some code => readCode code (4 + name.length)
      | none => .error (4 + name.length, .unknownName)
  | _ => .error (2, .nameForm)

/-- The escapes of a single character after the backslash. -/
def singleEscapes : List (Char × Nat) := [
  ('\\', 92), ('\'', 39), ('"', 34), ('a', 7), ('b', 8), ('f', 12), ('n', 10), ('r', 13), ('t', 9),
  ('v', 11)]

/-- A character or an escape, by code, by name or by letter. A backslash at the end of a line joins
it with the next one. -/
def readEscaped : ByteReader Unit
  | _, 92 :: byte :: rest =>
    let c := Char.ofNat byte
    if c = '\n' then .ok ([], 2, ())
    else if isOctalDigit c then
      let digits := c :: ((rest.map Char.ofNat).take 2).takeWhile isOctalDigit
      readCode (valueIn 8 digits) (1 + digits.length)
    else if c = 'x' then readHexCode c 2 .escapeCode 2 0 2 rest
    else if c = 'u' then readHexCode c 4 .escapeCode 4 0 2 rest
    else if c = 'U' then readHexCode c 8 .escapeCode 8 0 2 rest
    else if c = 'N' then readNamed rest
    else
      match singleEscapes.lookup c with
      | some code => readCode code 2
      | none => .ok (['\\', c], 2, ())
  | _, [92] => .error (1, .escapeEnd)
  | _, byte :: _ => readCode byte 1
  | _, [] => .error (1, .ending)

/-- A character or an escape by code. -/
def readRawEscaped : ByteReader Unit
  | _, 92 :: byte :: rest =>
    let c := Char.ofNat byte
    if c = 'u' then readHexCode c 4 .escapeRange 4 0 2 rest
    else if c = 'U' then readHexCode c 8 .escapeRange 8 0 2 rest
    else .ok (['\\', c], 2, ())
  | _, byte :: _ => readCode byte 1
  | _, [] => .error (1, .ending)

end Docblock.Text
