import Docblock.Text.Transfer

/-!
# Shifted sections

An encoding in ASCII. Characters of ASCII stand for themselves, but a plus sign begins a section of
digits in base 64. These write units of two bytes, and a section ends at the first character that
is no such digit; a hyphen there is left out. A plus sign with a hyphen stands for itself.
-/

namespace Docblock.Text

/-- The value of a digit in base 64. -/
def digit64? (byte : Nat) : Option Nat :=
  if 65 ≤ byte ∧ byte ≤ 90 then some (byte - 65)
  else if 97 ≤ byte ∧ byte ≤ 122 then some (byte - 71)
  else if 48 ≤ byte ∧ byte ≤ 57 then some (byte + 4)
  else if byte = 43 then some 62
  else if byte = 47 then some 63
  else none

/-- What is known within a section: the bits that are not yet a unit, how many they are, and the
first half of a surrogate pair when it was the last unit. -/
structure Section where
  value : Nat
  bits : Nat
  surrogate : Option Nat

/-- Nothing is known. -/
def Section.start : Section := ⟨0, 0, none⟩

/-- Read a digit; the characters that are complete with it. -/
def Section.digit (part : Section) (digit : Nat) : List Char × Section :=
  let value := 64 * part.value + digit
  let bits := part.bits + 6
  if bits < 16 then ([], ⟨value, bits, part.surrogate⟩)
  else
    let scale := Nat.pow 2 (bits - 16)
    let unit := value / scale
    let next (surrogate : Option Nat) : Section := ⟨value % scale, bits - 16, surrogate⟩
    let single : List Char × Section :=
      if isHighSurrogate unit then ([], next (some unit)) else ([charOf unit], next none)
    match part.surrogate with
    | none => single
    | some high =>
      if isLowSurrogate unit then ([charOf (joinSurrogates high unit)], next none)
      else (charOf high :: single.1, single.2)

/-- What is wrong with the end of a section: it has to come before a new unit has begun, with
nothing but zeros left. -/
def Section.fault? (part : Section) : Option ByteFault :=
  if 6 ≤ part.bits then some .shiftedPart
  else if part.value ≠ 0 then some .shiftedPadding
  else none

/-- The rest of a section; `count` bytes of it were read. -/
def readSection (part : Section) (count : Nat) : List Nat → ByteStep Unit
  | [] =>
    if part.surrogate.isSome || part.fault?.isSome then .error (count, .shiftedEnd)
    else .ok ([], count, ())
  | byte :: rest =>
    match digit64? byte with
    | some digit =>
      let (cs, part) := part.digit digit
      (readSection part (count + 1) rest).map fun (others, step) => (cs ++ others, step)
    | none =>
      match part.fault? with
      | some fault => .error (count + 1, fault)
      | none =>
        let cs := match part.surrogate with
          | some high => if byte < 128 ∧ byte ≠ 43 then [charOf high] else []
          | none => []
        .ok (cs, if byte = 45 then count + 1 else count, ())

/-- A character of ASCII, or a section. -/
def readUtf7 : ByteReader Unit
  | _, 43 :: rest =>
    match rest with
    | [] => .ok ([], 1, ())
    | 45 :: _ => .ok (['+'], 2, ())
    | byte :: _ =>
      if (digit64? byte).isNone then .error (2, .shiftedStart) else readSection .start 1 rest
  | _, byte :: _ => if byte < 128 then readCode byte 1 else .error (1, .notShifted)
  | _, [] => .error (1, .ending)

end Docblock.Text
