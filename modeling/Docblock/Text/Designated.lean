import Docblock.Text.Japanese
import Docblock.Text.Page
import Docblock.Text.Pages.Standard

/-!
# Designated sets

Encodings in seven bits. Escape sequences tell which set of characters the bytes after them are
taken from. There are three places for sets: bytes are taken from the first one, from the second
one after a shift, and a single byte from the third one after an escape of its own.
-/

namespace Docblock.Text

open CharSet

/-! ## Sets -/

/-- A set that a place can be given. -/
inductive Repertory where
  | ascii
  | latin
  | greek
  | roman
  | narrow
  | jisx0208 (old : Bool)
  | jisx0212
  | jisx0213 (firstEdition : Bool)
  | jisx0213Second
  | ksx1001
  | gb2312
  deriving DecidableEq, Repr

namespace Repertory

/-- The letter that escape sequences have for a set. -/
def mark : Repertory → Char
  | ascii => 'B'
  | latin => 'A'
  | greek => 'F'
  | roman => 'J'
  | narrow => 'I'
  | jisx0208 old => if old then '@' else 'B'
  | jisx0212 => 'D'
  | jisx0213 firstEdition => if firstEdition then 'O' else 'Q'
  | jisx0213Second => 'P'
  | ksx1001 => 'C'
  | gb2312 => 'A'

/-- Whether the characters of a set take two bytes. -/
def isDouble : Repertory → Bool
  | ascii | latin | greek | roman | narrow => false
  | _ => true

/-- The characters of one byte; the set of Latin letters and that of Greek ones have theirs in the
third place only. -/
def single? (byte : Nat) : Repertory → Option Char
  | ascii => some (Char.ofNat byte)
  | roman =>
    if byte = 0x5c then some '\u00a5'
    else if byte = 0x7e then some '\u203e'
    else some (Char.ofNat byte)
  | narrow => narrow? (byte + 0x80)
  | _ => none

/-- What two bytes stand for. -/
def pair? (first second : Nat) : Repertory → Option (List Char)
  | jisx0208 _ => (CharSet.jisx0208.char? first second).map fun c => [c]
  | jisx0212 => (CharSet.jisx0212.char? first second).map fun c => [c]
  | jisx0213 firstEdition =>
    if isLaterCell firstEdition first second then none
    else firstPlane? [(0x2232, '~')] first second
  | jisx0213Second => (secondPlane? false first second).map fun c => [c]
  | ksx1001 => (CharSet.ksx1001.char? first second).map fun c => [c]
  | gb2312 => (CharSet.gb2312.char? first second).map fun c => [c]
  | _ => none

/-- The Greek letters and signs that the set lacks in the third place. -/
def laterGreek : List Nat := [0xa4, 0xa5, 0xaa]

/-- The character of a byte in the third place. The byte stands for the one with its highest bit
turned over. -/
def third? (byte : Nat) : Repertory → Option Char
  | ascii => if byte < 0x80 then some (Char.ofNat byte) else none
  | latin => if byte < 0x80 then some (Char.ofNat (byte + 0x80)) else none
  | greek =>
    let byte := if byte < 0x80 then byte + 0x80 else byte - 0x80
    if laterGreek.contains byte then none else Page.iso8859_7.char? byte
  | _ => none

end Repertory

/-! ## Texts -/

/-- What an encoding with designated sets has: its sets beside ASCII, whether it shifts to the
second place, whether it has a third one, and whether it knows the sequence that announces a
revision of a set. -/
structure Designation where
  sets : List Repertory
  shifts : Bool
  hasThird : Bool
  revises : Bool

/-- The state of a text: the sets in the three places, whether bytes are taken from the second one,
and whether an unknown escape sequence goes on. -/
structure Designated where
  first : Repertory
  second : Repertory
  third : Repertory
  shifted : Bool
  escaping : Bool

/-- All places have ASCII. -/
def Designated.start : Designated := ⟨.ascii, .ascii, .ascii, false, false⟩

/-- Whether a byte ends an escape sequence. -/
def endsEscape (byte : Nat) : Bool := (65 ≤ byte && byte ≤ 90) || byte == 64

/-- No escape sequence is longer. -/
def escapeLimit : Nat := 16

/-- The length of the escape sequence that bytes begin with, of which `place` bytes are passed; none
when it does not end in time. It fails when the bytes end first. -/
def escapeLength (revises : Bool) (bytes : List Nat) : Nat → Nat → Except Unit (Option Nat)
  | 0, _ => .ok none
  | fuel + 1, place =>
    if escapeLimit ≤ place then .ok none
    else
      match bytes[place]? with
      | none => .error ()
      | some byte =>
        if endsEscape byte then .ok (some (place + 1))
        else if revises ∧ byte = 0x26 ∧ bytes[place + 1]? = some 0x40 then
          -- The announced sequence follows.
          escapeLength revises bytes fuel (place + 3)
        else escapeLength revises bytes fuel (place + 1)

/-- A place for a set. -/
inductive SetPlace where
  | first
  | second
  | third

/-- The place that an escape sequence of so many bytes gives a set, the letter of the set and
whether its characters take two bytes. -/
def designates? (designation : Designation) : Nat → List Nat → Option (SetPlace × Nat × Bool)
  | 3, [_, 0x24, mark] => some (.first, mark, true)
  | 3, [_, 0x28, mark] => some (.first, mark, false)
  | 3, [_, 0x29, mark] => some (.second, mark, false)
  | 3, [_, 0x2e, mark] => if designation.hasThird then some (.third, mark, false) else none
  | 4, [_, 0x24, 0x28, mark] => some (.first, mark, true)
  | 4, [_, 0x24, 0x29, mark] => some (.second, mark, true)
  | 6, [_, _, _, 0x1b, 0x24, 0x42] =>
    if designation.revises then some (.first, 0x42, true) else none
  | _, _ => none

/-- The set of an encoding that has a letter. -/
def Designation.set? (designation : Designation) (mark : Nat) (isDouble : Bool) :
    Option Repertory :=
  (.ascii :: designation.sets).find? fun set =>
    set.mark.toNat = mark ∧ set.isDouble = isDouble

/-- Give a place a set. -/
def Designated.give (set : Repertory) (state : Designated) : SetPlace → Designated
  | .first => { state with first := set }
  | .second => { state with second := set }
  | .third => { state with third := set }

/-- Read an escape sequence that gives a place a set. -/
def readDesignation (designation : Designation) : ByteReader Designated := fun state bytes =>
  match escapeLength designation.revises bytes escapeLimit 1 with
  | .error _ => .error (bytes.length, .sequenceEnd)
  | .ok none => .error (1, .sequence)
  | .ok (some length) =>
    match designates? designation length (bytes.take length) with
    | none => .error (length, .sequence)
    | some (place, mark, isDouble) =>
      match designation.set? mark isDouble with
      | none => .error (length, .sequence)
      | some set => .ok ([], length, state.give set place)

/-- Whether a byte after an escape begins a sequence that gives a place a set. -/
def isDesignating (byte : Nat) : Bool := [0x24, 0x26, 0x28, 0x29, 0x2e].contains byte

/-- Read a character of the set that bytes are taken from. -/
def readFromSet (state : Designated) (byte : Nat) (rest : List Nat) : ByteStep Designated :=
  let set := if state.shifted then state.second else state.first
  if set.isDouble then
    match rest with
    | [] => .error (1, .sequenceEnd)
    | second :: _ =>
      match set.pair? byte second with
      | some cs => .ok (cs, 2, state)
      | none => .error (2, .sequence)
  else
    match set.single? byte with
    | some c => .ok ([c], 1, state)
    | none => .error (1, .sequence)

/-- Read an escape and what it is for. An unknown escape sequence is taken as it stands. -/
def readEscape (designation : Designation) (state : Designated) (rest : List Nat) :
    ByteStep Designated :=
  match rest with
  | [] => .error (1, .sequenceEnd)
  | second :: others =>
    if isDesignating second then readDesignation designation state (0x1b :: rest)
    else if designation.hasThird ∧ second = 0x4e then
      match others with
      | [] => .error (2, .sequenceEnd)
      | byte :: _ =>
        match state.third.third? byte with
        | some c => .ok ([c], 3, state)
        | none => .error (3, .sequence)
    else .ok (['\x1b'], 1, { state with escaping := true })

/-- Read one step. A line end takes a shift back. -/
def readDesignated (designation : Designation) : ByteReader Designated
  | _, [] => .error (1, .sequenceEnd)
  | state, byte :: rest =>
    if state.escaping then .ok ([Char.ofNat byte], 1, { state with escaping := !endsEscape byte })
    else if byte = 0x1b then readEscape designation state rest
    else if designation.shifts ∧ byte = 0x0f then .ok ([], 1, { state with shifted := false })
    else if designation.shifts ∧ byte = 0x0e then .ok ([], 1, { state with shifted := true })
    else if byte = 0x0a then .ok (['\n'], 1, { state with shifted := false })
    else if byte < 0x20 then .ok ([Char.ofNat byte], 1, state)
    else if 0x80 ≤ byte then .error (1, .sequence)
    else readFromSet state byte rest

end Docblock.Text
