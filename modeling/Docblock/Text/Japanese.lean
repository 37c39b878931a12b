import Docblock.Text.DoubleByte
import Docblock.Text.Sets.Cp932
import Docblock.Text.Sets.Jisx0208
import Docblock.Text.Sets.Jisx0212
import Docblock.Text.Sets.Jisx0213

/-!
# Japanese encodings

Characters come from rows of ninety-four cells. Two bytes tell row and cell directly, or they are
shifted: then a first byte tells two rows, and bytes are left free for narrow letters.
-/

namespace Docblock.Text

open CharSet

/-! ## Sets -/

/-- The narrow letter of a byte. -/
def narrow? (byte : Nat) : Option Char :=
  if 0xa1 ≤ byte ∧ byte ≤ 0xdf then some (Char.ofNat (0xfec0 + byte)) else none

/-- The characters of JIS X 0213 that are told by a character and a mark, by row and cell. -/
def markedSigns : List (Nat × List Char) := [
  (0x2477, ['\u304b', '\u309a']), (0x2478, ['\u304d', '\u309a']), (0x2479, ['\u304f', '\u309a']),
  (0x247a, ['\u3051', '\u309a']), (0x247b, ['\u3053', '\u309a']), (0x2577, ['\u30ab', '\u309a']),
  (0x2578, ['\u30ad', '\u309a']), (0x2579, ['\u30af', '\u309a']), (0x257a, ['\u30b1', '\u309a']),
  (0x257b, ['\u30b3', '\u309a']), (0x257c, ['\u30bb', '\u309a']), (0x257d, ['\u30c4', '\u309a']),
  (0x257e, ['\u30c8', '\u309a']), (0x2678, ['\u31f7', '\u309a']), (0x2b44, ['\u00e6', '\u0300']),
  (0x2b48, ['\u0254', '\u0300']), (0x2b49, ['\u0254', '\u0301']), (0x2b4a, ['\u028c', '\u0300']),
  (0x2b4b, ['\u028c', '\u0301']), (0x2b4c, ['\u0259', '\u0300']), (0x2b4d, ['\u0259', '\u0301']),
  (0x2b4e, ['\u025a', '\u0300']), (0x2b4f, ['\u025a', '\u0301']), (0x2b65, ['\u02e9', '\u02e5']),
  (0x2b66, ['\u02e5', '\u02e9'])]

/-- The cells of the first plane of JIS X 0213 that its first edition left empty. -/
def laterCells : List Nat := [
  0x2e21, 0x2f7e, 0x4f54, 0x4f7e, 0x7427, 0x7e7a, 0x7e7b, 0x7e7c, 0x7e7d, 0x7e7e]

/-- What stands in a cell of the first plane of JIS X 0213. Two signs are wide or those of ASCII:
`narrow` are those in their place. -/
def firstPlane? (narrow : List (Nat × Char)) (row cell : Nat) : Option (List Char) :=
  let code := 256 * row + cell
  let single := (jisx0208.char? row cell).or (runChar? jisx0213 code)
  (((narrow.lookup code).or single).map fun c => [c]).or (markedSigns.lookup code)

/-- What stands in a cell of the second plane of JIS X 0213, in its first edition or the second
one. -/
def secondPlane? (firstEdition : Bool) (row cell : Nat) : Option Char :=
  let code := 256 * row + cell
  if firstEdition && code == 0x7d3b then some '\u9b1d' else runChar? jisx0213Second code

/-- Whether a cell of the first plane of JIS X 0213 is empty in an edition. -/
def isLaterCell (firstEdition : Bool) (row cell : Nat) : Bool :=
  firstEdition && laterCells.contains (256 * row + cell)

/-- The step of characters that stand for so many bytes, or the fault of the first of these. -/
def readSigns (count : Nat) : Option (List Char) → ByteStep Unit
  | some cs => .ok (cs, count, ())
  | none => .error (1, .sequence)

/-- The step of a cell of the first plane of JIS X 0213. A cell that its first edition left empty
is a fault of both bytes. -/
def readFirstPlane (firstEdition : Bool) (narrow : List (Nat × Char)) (row cell : Nat) :
    ByteStep Unit :=
  if isLaterCell firstEdition row cell then .error (2, .sequence)
  else readSigns 2 (firstPlane? narrow row cell)

/-! ## Direct bytes -/

/-- Characters of one byte below 128, narrow letters after the byte 0x8e, characters of a second
set after the byte 0x8f, and characters of two bytes. The bytes of rows and cells are told with
their highest bit turned over. -/
def readEucWith (main second : Nat → Nat → ByteStep Unit) : ByteReader Unit
  | _, first :: rest =>
    let turned (byte : Nat) := if byte < 0x80 then byte + 0x80 else byte - 0x80
    if first < 0x80 then readCode first 1
    else if first = 0x8e then
      match rest with
      | b :: _ => readSign 2 (narrow? b)
      | [] => .error (1, .sequenceEnd)
    else if first = 0x8f then
      match rest with
      | b :: c :: _ => second (turned b) (turned c)
      | _ => .error (1 + rest.length, .sequenceEnd)
    else
      match rest with
      | b :: _ => main (turned first) (turned b)
      | [] => .error (1, .sequenceEnd)
  | _, [] => .error (1, .sequenceEnd)

/-- Characters of JIS X 0208 and JIS X 0212. -/
def readEucJp : ByteReader Unit :=
  readEucWith (fun row cell => readSign 2 (jisx0208.char? row cell))
    fun row cell => readSign 3 (jisx0212.char? row cell)

/-- Characters of JIS X 0213, and those of JIS X 0212 that it has not. -/
def readEucJis (firstEdition : Bool) : ByteReader Unit :=
  readEucWith (readFirstPlane firstEdition []) fun row cell =>
    readSign 3 ((secondPlane? firstEdition row cell).or (jisx0212.char? row cell))

/-! ## Shifted bytes -/

/-- Whether a byte begins a shifted character. -/
def beginsShifted (byte : Nat) : Bool :=
  (0x81 ≤ byte && byte ≤ 0x9f) || (0xe0 ≤ byte && byte ≤ 0xfc)

/-- The row, counted from zero, and the cell of a shifted character. -/
def unshift? (first second : Nat) : Option (Nat × Nat) :=
  if beginsShifted first ∧ 0x40 ≤ second ∧ second ≤ 0xfc ∧ second ≠ 0x7f then
    let block := if first < 0xe0 then first - 0x81 else first - 0xc1
    let place := if second < 0x80 then second - 0x40 else second - 0x41
    some (2 * block + place / 94, place % 94 + 0x21)
  else none

/-- Characters of one byte, narrow letters, and shifted characters. -/
def readShifted (single? : Nat → Option Char) (pair : Nat → Nat → ByteStep Unit) :
    ByteReader Unit
  | _, first :: rest =>
    match single? first with
    | some c => .ok ([c], 1, ())
    | none =>
      if !beginsShifted first then .error (1, .sequence)
      else
        match rest with
        | second :: _ => pair first second
        | [] => .error (1, .sequenceEnd)
  | _, [] => .error (1, .sequenceEnd)

/-- A shifted character of JIS X 0208. -/
def shifted0208? (first second : Nat) : Option Char := do
  let (row, cell) ← unshift? first second
  jisx0208.char? (row + 0x21) cell

/-- The last byte that begins a shifted character of JIS X 0208. -/
def lastShifted : Nat := 0xea

/-- Shifted characters of JIS X 0208. -/
def readShiftJis : ByteReader Unit := fun _ bytes =>
  if lastShifted < bytes.headD 0 then .error (1, .sequence)
  else
    readShifted (fun byte => if byte < 0x80 then some (Char.ofNat byte) else narrow? byte)
      (fun first second => readSign 2 (shifted0208? first second)) () bytes

/-- The signs that a code page has for single bytes. -/
def vendorSingles : List (Nat × Nat) := [
  (0x80, 0x80), (0xa0, 0xf8f0), (0xfd, 0xf8f1), (0xfe, 0xf8f2), (0xff, 0xf8f3)]

/-- A private character of the code page. -/
def vendorPrivate? (first second : Nat) : Option Char :=
  if 0xf0 ≤ first ∧ first ≤ 0xf9 ∧ 0x40 ≤ second ∧ second ≤ 0xfc ∧ second ≠ 0x7f then
    let place := if second < 0x80 then second - 0x40 else second - 0x41
    some (Char.ofNat (0xe000 + 188 * (first - 0xf0) + place))
  else none

/-- Shifted characters of JIS X 0208, of vendors and private ones. -/
def readCp932 : ByteReader Unit :=
  readShifted
    (fun byte =>
      if byte < 0x80 then some (Char.ofNat byte)
      else (narrow? byte).or ((vendorSingles.lookup byte).map Char.ofNat))
    fun first second =>
      let standard := if first ≤ lastShifted then shifted0208? first second else none
      readSign 2 (((runChar? vendor (256 * first + second)).or standard).or
        (vendorPrivate? first second))

/-- The row of the second plane that a shifted row stands for. The plane has few rows at its
beginning and many at its end. -/
def secondPlaneRow (row : Nat) : Nat :=
  if 0x67 ≤ row then row + 0x07
  else if 0x63 ≤ row ∨ row = 0x5f then row - 0x37
  else row - 0x3d

/-- Shifted characters of JIS X 0213, with a sign of money and a stroke in two places of ASCII. -/
def readShiftJis2004 (firstEdition : Bool) : ByteReader Unit :=
  readShifted
    (fun byte =>
      if byte = 0x5c then some '\u00a5'
      else if byte = 0x7e then some '\u203e'
      else if byte < 0x80 then some (Char.ofNat byte)
      else narrow? byte)
    fun first second =>
      match unshift? first second with
      | none => .error (1, .sequence)
      | some (row, cell) =>
        if row < 0x5e then
          readFirstPlane firstEdition [(0x2140, '\\'), (0x2232, '~')] (row + 0x21) cell
        else readSign 2 (secondPlane? firstEdition (secondPlaneRow row) cell)

end Docblock.Text
