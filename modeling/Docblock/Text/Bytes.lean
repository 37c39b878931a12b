import Docblock.Text.Quoted

/-!
# Bytes that stand for text

An encoding reads characters from the bytes that are left, one step at a time, and tells what is
wrong with these when it cannot.
-/

namespace Docblock.Text

/-! ## Faults -/

/-- What is wrong with bytes. -/
inductive ByteFault where
  | start
  | continuation
  | ending
  | notAscii
  | undefined
  | truncated
  | loneSurrogate
  | surrogatePair
  | surrogateCode
  | beyondCodes
  | shiftedPart
  | shiftedPadding
  | shiftedStart
  | shiftedEnd
  | notShifted
  | escapeEnd
  | escapeDigits (letter : Char) (digits : Nat)
  | escapeCode
  | escapeRange
  | nameForm
  | unknownName
  | sequence
  | sequenceEnd
  deriving DecidableEq, Repr

/-- The wording of a fault. -/
def ByteFault.message : ByteFault → String
  | start => "invalid start byte"
  | continuation => "invalid continuation byte"
  | ending => "unexpected end of data"
  | notAscii => "ordinal not in range(128)"
  | undefined => "character maps to <undefined>"
  | truncated => "truncated data"
  | loneSurrogate => "illegal encoding"
  | surrogatePair => "illegal UTF-16 surrogate"
  | surrogateCode => "code point in surrogate code point range(0xd800, 0xe000)"
  | beyondCodes => "code point not in range(0x110000)"
  | shiftedPart => "partial character in shift sequence"
  | shiftedPadding => "non-zero padding bits in shift sequence"
  | shiftedStart => "ill-formed sequence"
  | shiftedEnd => "unterminated shift sequence"
  | notShifted => "unexpected special character"
  | escapeEnd => "\\ at end of string"
  | escapeDigits letter digits =>
    "truncated \\" ++ String.ofList (letter :: List.replicate digits 'X') ++ " escape"
  | escapeCode => "illegal Unicode character"
  | escapeRange => "\\Uxxxxxxxx out of range"
  | nameForm => "malformed \\N character escape"
  | unknownName => "unknown Unicode character name"
  | sequence => "illegal multibyte sequence"
  | sequenceEnd => "incomplete multibyte sequence"

/-- Why bytes are not read. Bytes that an encoding cannot read are told by the first of them, where
they stand, and how many they are; the other faults are of the text as a whole. -/
inductive DecodeFault where
  | bytes (encoding : String) (first position count : Nat) (fault : ByteFault)
  | noMark (width : Nat)
  | noEncoding
  | cutNumber
  | digit (c : Char)
  | beyondCodes (code : Nat)
  | labelLength
  | notCanonical (label canonical : List Nat)
  | within (encoding : String) (fault : DecodeFault)
  deriving DecidableEq, Repr

/-- The wording of a fault. -/
def DecodeFault.message : DecodeFault → String
  | bytes encoding first position count fault =>
    let place :=
      if count = 1 then
        "byte 0x" ++ String.ofList (hex 2 first) ++ " in position " ++ toString position
      else
        "bytes in position " ++ toString position ++ "-" ++ toString (position + count - 1)
    "'" ++ encoding ++ "' codec can't decode " ++ place ++ ": " ++ fault.message
  | noMark width => "UTF-" ++ toString width ++ " stream does not start with BOM"
  | noEncoding => "undefined encoding"
  | cutNumber => "incomplete punicode string"
  | digit c => "Invalid extended code point '" ++ String.singleton c ++ "'"
  | beyondCodes code => "Invalid character U+" ++ String.ofList (Nat.toDigits 16 code)
  | labelLength => "label empty or too long"
  | notCanonical label canonical =>
    "('IDNA does not round-trip', " ++ String.ofList (quotedBytes label) ++ ", " ++
      String.ofList (quotedBytes canonical) ++ ")"
  | within encoding fault =>
    "decoding with '" ++ encoding ++ "' codec failed (UnicodeError: " ++ fault.message ++ ")"

/-- Whether a fault is of bytes that an encoding cannot read. -/
def DecodeFault.isOfBytes : DecodeFault → Bool
  | bytes .. => true
  | _ => false

/-! ## Reading -/

/-- What one step reads: characters, the number of bytes they take and the state after them; or
the fault of so many bytes. -/
abbrev ByteStep (σ : Type) := Except (Nat × ByteFault) (List Char × Nat × σ)

/-- A step of an encoding from a state. There are bytes left. -/
abbrev ByteReader (σ : Type) := σ → List Nat → ByteStep σ

/-- Read all bytes from a position on. The first `skip` bytes were read already. -/
def decodeFrom {σ : Type} (name : String) (read : ByteReader σ) : σ → Nat → Nat → List Nat →
    Except DecodeFault (List Char)
  | _, _, _, [] => .ok []
  | state, skip + 1, position, _ :: rest => decodeFrom name read state skip (position + 1) rest
  | state, 0, position, byte :: rest =>
    match read state (byte :: rest) with
    | .error (count, fault) => .error (.bytes name byte position count fault)
    | .ok (cs, count, state) => do
      return cs ++ (← decodeFrom name read state (count - 1) (position + 1) rest)

/-- The character of a code. A half of a surrogate pair is no character, so its code gives the
replacement character. -/
def charOf (code : Nat) : Char := if code.isValidChar then Char.ofNat code else '\uFFFD'

/-- A step that reads the character of a code. -/
def readCode (code count : Nat) : ByteStep Unit := .ok ([charOf code], count, ())

/-! ## Characters of one byte -/

/-- Characters of one byte below 128. -/
def readAscii : ByteReader Unit
  | _, byte :: _ => if byte < 128 then readCode byte 1 else .error (1, .notAscii)
  | _, [] => .error (1, .ending)

/-- Characters of one byte. -/
def readLatin1 : ByteReader Unit
  | _, byte :: _ => readCode byte 1
  | _, [] => .error (1, .ending)

end Docblock.Text
