import Docblock.Text.Bytes

/-!
# Encodings of all characters

A character is written with one to four bytes, with one or two units of two bytes, or with one
unit of four bytes. The bytes of a unit come in either order.
-/

namespace Docblock.Text

/-! ## Bytes -/

/-- The rest of a character: so many bytes, of which the next lies between two bounds. `taken`
bytes made up `code` so far. -/
def continuation (low high taken code : Nat) : Nat → List Nat → ByteStep Unit
  | 0, _ => readCode code taken
  | _ + 1, [] => .error (taken, .ending)
  | count + 1, byte :: rest =>
    if low ≤ byte ∧ byte < high then
      continuation 0x80 0xc0 (taken + 1) (64 * code + (byte - 0x80)) count rest
    else .error (taken, .continuation)

/-- Characters of one to four bytes, each in its shortest form. -/
def readUtf8 : ByteReader Unit
  | _, [] => .error (1, .ending)
  | _, byte :: rest =>
    if byte < 0x80 then readCode byte 1
    else if byte < 0xc2 then .error (1, .start)
    else if byte < 0xe0 then continuation 0x80 0xc0 1 (byte - 0xc0) 1 rest
    else if byte < 0xf0 then
      -- The second byte rules out longer forms than needed, and surrogates.
      continuation (if byte = 0xe0 then 0xa0 else 0x80) (if byte = 0xed then 0xa0 else 0xc0) 1
        (byte - 0xe0) 2 rest
    else if byte < 0xf5 then
      continuation (if byte = 0xf0 then 0x90 else 0x80) (if byte = 0xf4 then 0x90 else 0xc0) 1
        (byte - 0xf0) 3 rest
    else .error (1, .start)

/-! ## Units -/

/-- Bytes as one number. -/
def unit (bigEndian : Bool) (bytes : List Nat) : Nat :=
  (if bigEndian then bytes else bytes.reverse).foldl (fun value byte => 256 * value + byte) 0

/-- The first half of a surrogate pair. -/
def isHighSurrogate (code : Nat) : Bool := 0xd800 ≤ code && code < 0xdc00

/-- The second half of a surrogate pair. -/
def isLowSurrogate (code : Nat) : Bool := 0xdc00 ≤ code && code < 0xe000

/-- The code that a surrogate pair stands for. -/
def joinSurrogates (high low : Nat) : Nat := 0x10000 + 1024 * (high - 0xd800) + (low - 0xdc00)

/-- Characters of one unit of two bytes or of a pair of surrogates. -/
def readUtf16 (bigEndian : Bool) : ByteReader Unit
  | _, a :: b :: rest =>
    let high := unit bigEndian [a, b]
    if isLowSurrogate high then .error (2, .loneSurrogate)
    else if !isHighSurrogate high then readCode high 2
    else
      match rest with
      | c :: d :: _ =>
        let low := unit bigEndian [c, d]
        if isLowSurrogate low then readCode (joinSurrogates high low) 4
        else .error (2, .surrogatePair)
      | _ => .error (2 + rest.length, .ending)
  | _, _ => .error (1, .truncated)

/-- Characters of one unit of four bytes. -/
def readUtf32 (bigEndian : Bool) : ByteReader Unit
  | _, a :: b :: c :: d :: _ =>
    let code := unit bigEndian [a, b, c, d]
    if isHighSurrogate code || isLowSurrogate code then .error (4, .surrogateCode)
    else if 0x110000 ≤ code then .error (4, .beyondCodes)
    else readCode code 4
  | _, bytes => .error (bytes.length, .truncated)

/-- The text of units of so many bytes, which are two or four. The first `skip` bytes are left
out. -/
def decodeUnits (wide bigEndian : Bool) (skip : Nat) (bytes : List Nat) :
    Except DecodeFault (List Char) :=
  decodeFrom ((if wide then "utf-32-" else "utf-16-") ++ (if bigEndian then "be" else "le"))
    (if wide then readUtf32 bigEndian else readUtf16 bigEndian) () skip 0 bytes

/-- The text of units after a mark, which is a character that tells their order. Bytes that are
too few for a mark are units with the small end first. -/
def decodeMarked (wide : Bool) (bytes : List Nat) : Except DecodeFault (List Char) :=
  let width := if wide then 4 else 2
  let start := bytes.take width
  if start.length = width ∧ unit false start = 0xfeff then decodeUnits wide false width bytes
  else if start.length = width ∧ unit true start = 0xfeff then decodeUnits wide true width bytes
  else do
    let cs ← decodeUnits wide false 0 bytes
    if bytes.length < width then return cs
    else throw (.noMark (8 * width))

end Docblock.Text
