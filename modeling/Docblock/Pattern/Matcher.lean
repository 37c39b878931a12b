import Docblock.Pattern.Basic
import Docblock.Text.Blank
import Docblock.Text.Case
import Docblock.Text.Digit

/-!
# Matching a pattern

A node is matched at a place of the text and hands each place where it can end to what comes
after it, in order of preference, until that succeeds. A repeat does not begin a round at the
place where its last round began, so a round that takes nothing ends it.
-/

namespace Docblock.Pattern

/-! ## Characters that an item takes -/

/-- Membership in a class of characters. -/
def Category.holds (ascii : Bool) (c : Char) : Category → Bool
  | digit => if ascii then c.isDigit else Text.isDigit c
  | space => if ascii then (9 ≤ c.toNat && c.toNat ≤ 13) || c == ' ' else Text.isBlank c
  | word => if ascii then c.isAlphanum || c == '_' else Text.isWord c

/-- The small letter of a character, of ASCII or of all scripts. -/
def smallCode (ascii : Bool) (c : Char) : Nat :=
  if ascii then c.toLower.toNat else Text.lowerCode c.toNat

/-- The code points that a character stands for: with case ignored, all its variants. -/
def variants (flags : Flags) (c : Char) : List Nat :=
  if !flags.ignoreCase then [c.toNat]
  else if flags.ascii then
    if c.isUpper then [c.toNat, c.toNat + 32]
    else if c.isLower then [c.toNat, c.toNat - 32]
    else [c.toNat]
  else Text.caseVariants c.toNat

/-- The last code point of the basic plane. -/
def basicPlaneEnd : Nat := 0xffff

/-- Membership in one item of a set. With case ignored, a character beyond the basic plane is in
the set only when its small letter is, and a range that goes beyond that plane takes in every
character of which the small letter or its capital lies in it. -/
def SetItem.holds (flags : Flags) (c : Char) : SetItem → Bool
  | code n =>
    if flags.ignoreCase && n > basicPlaneEnd then smallCode flags.ascii c == n
    else (variants flags c).contains n
  | range first last =>
    let inside (n : Nat) := first ≤ n && n ≤ last
    let small := smallCode flags.ascii c
    (variants flags c).any (fun n => inside n && !(flags.ignoreCase && n > basicPlaneEnd)) ||
      (flags.ignoreCase && last > basicPlaneEnd && (inside small || inside (Text.upperCode small)))
  | category kind negated => kind.holds flags.ascii c != negated

/-! ## Places in a text -/

/-- What a group has taken last, and the offset where it ended. -/
structure Taken where
  text : List Char
  stop : Nat

/-- A place in a text: what is before it, last character first, what is after it, its offset,
and what the groups have taken, the last first. -/
structure Cursor where
  before : List Char
  after : List Char
  offset : Nat
  groups : List (Nat × Option Taken)

/-- The start of a text. -/
def Cursor.start (cs : List Char) : Cursor := ⟨[], cs, 0, []⟩

/-- The place after the next character. -/
def Cursor.next (c : Char) (rest : List Char) (cursor : Cursor) : Cursor :=
  { cursor with before := c :: cursor.before, after := rest, offset := cursor.offset + 1 }

/-- The place so many characters further, if the text goes that far. -/
def Cursor.forward (count : Nat) (cursor : Cursor) : Cursor :=
  { cursor with
    before := (cursor.after.take count).reverse ++ cursor.before
    after := cursor.after.drop count
    offset := cursor.offset + count }

/-- The place so many characters back, if the text goes that far. -/
def Cursor.back? (count : Nat) (cursor : Cursor) : Option Cursor :=
  if cursor.offset < count then none
  else some { cursor with
    before := cursor.before.drop count
    after := (cursor.before.take count).reverse ++ cursor.after
    offset := cursor.offset - count }

/-- What a group has taken. -/
def Cursor.taken? (index : Nat) (cursor : Cursor) : Option Taken :=
  (cursor.groups.lookup index).bind id

/-- Begin a group. If it has ended before this place, it has taken nothing until it ends again. -/
def Cursor.openGroup (index : Nat) (cursor : Cursor) : Cursor :=
  match cursor.taken? index with
  | some taken =>
    if taken.stop < cursor.offset then { cursor with groups := (index, none) :: cursor.groups }
    else cursor
  | none => cursor

/-- End a group that began at the place `start`. -/
def Cursor.closeGroup (index : Nat) (cursor start : Cursor) : Cursor :=
  let taken := ⟨start.after.take (cursor.offset - start.offset), cursor.offset⟩
  { cursor with groups := (index, some taken) :: cursor.groups }

/-- What comes after a node. -/
abbrev Continuation := Cursor → Option Cursor

/-- A way of matching. -/
abbrev Match := Cursor → Continuation → Option Cursor

/-- Whether a place is between a word character and something else. -/
def atBoundary (ascii : Bool) (cursor : Cursor) : Bool :=
  let isWord (c : Option Char) := c.any (Category.word.holds ascii)
  isWord cursor.before.head? != isWord cursor.after.head?

/-- Whether a condition on a place holds. An empty text has no boundary and no other place
either. -/
def Anchor.holds (flags : Flags) (cursor : Cursor) : Anchor → Bool
  | lineStart =>
    cursor.before.isEmpty || (flags.multiLine && cursor.before.head? == some '\n')
  | lineEnd =>
    cursor.after.isEmpty || cursor.after == ['\n'] ||
      (flags.multiLine && cursor.after.head? == some '\n')
  | textStart => cursor.before.isEmpty
  | textEnd => cursor.after.isEmpty
  | boundary =>
    !(cursor.before.isEmpty && cursor.after.isEmpty) && atBoundary flags.ascii cursor
  | notBoundary =>
    !(cursor.before.isEmpty && cursor.after.isEmpty) && !atBoundary flags.ascii cursor

/-- Take one character that has a property. -/
def one (holds : Char → Bool) : Match := fun cursor continue_ =>
  match cursor.after with
  | c :: rest => if holds c then continue_ (cursor.next c rest) else none
  | [] => none

/-- Match so many times. -/
def times (body : Match) : Nat → Match
  | 0, cursor, continue_ => continue_ cursor
  | count + 1, cursor, continue_ => body cursor fun cursor => times body count cursor continue_

/-- Match again as long as that works, up to a bound; give rounds back one by one. -/
def greedily (body : Match) : Nat → Option Nat → Option Nat → Match
  | 0, _, _, cursor, continue_ => continue_ cursor
  | fuel + 1, left, last, cursor, continue_ =>
    -- A round that took nothing ends the repeat.
    if left == some 0 || last == some cursor.offset then continue_ cursor
    else
      match body cursor fun next =>
          greedily body fuel (left.map (· - 1)) (some cursor.offset) next continue_ with
      | some found => some found
      | none => continue_ cursor

/-- Match again only when what follows does not match. -/
def reluctantly (body : Match) : Nat → Option Nat → Option Nat → Match
  | 0, _, _, cursor, continue_ => continue_ cursor
  | fuel + 1, left, last, cursor, continue_ =>
    match continue_ cursor with
    | some found => some found
    | none =>
      if left == some 0 || last == some cursor.offset then none
      else
        body cursor fun next =>
          reluctantly body fuel (left.map (· - 1)) (some cursor.offset) next continue_

/-- Match again as long as that works, each round in its first way only. -/
def possessively (body : Match) : Nat → Option Nat → Option Nat → Cursor → Cursor
  | 0, _, _, cursor => cursor
  | fuel + 1, left, last, cursor =>
    if left == some 0 || last == some cursor.offset then cursor
    else
      match body cursor some with
      | some next => possessively body fuel (left.map (· - 1)) (some cursor.offset) next
      | none => cursor

/-- Match in the first way only, so many times. -/
def timesOnce (body : Match) : Nat → Cursor → Option Cursor
  | 0, cursor => some cursor
  | count + 1, cursor => (body cursor some).bind (timesOnce body count)

/-- A repeat. -/
def repeatWith (body : Match) (low : Nat) (high : Option Nat) (greed : Greed) : Match :=
  fun cursor continue_ =>
    let left := high.map (· - low)
    match greed with
    | .greedy => times body low cursor fun cursor =>
      greedily body (cursor.after.length + 2) left none cursor continue_
    | .reluctant => times body low cursor fun cursor =>
      reluctantly body (cursor.after.length + 2) left none cursor continue_
    | .possessive => (timesOnce body low cursor).bind fun cursor =>
      continue_ (possessively body (cursor.after.length + 2) left none cursor)

/-- Take again what a group has taken. -/
def again (flags : Flags) (index : Nat) : Match := fun cursor continue_ =>
  match cursor.taken? index with
  | none => none
  | some ⟨text, _⟩ =>
    let next := cursor.after.take text.length
    let same :=
      if !flags.ignoreCase then next == text
      else next.map (smallCode flags.ascii) == text.map (smallCode flags.ascii)
    if same then continue_ (cursor.forward text.length) else none

/-- How a node matches. The widths of groups serve the looks behind. -/
def Node.run (groups : Nat → Nat × Nat) : Node → Flags → Match
  | .empty, _ => fun cursor continue_ => continue_ cursor
  | .code n, flags => one fun c => (variants flags c).contains n
  | .otherThan n, flags => one fun c => !(variants flags c).contains n
  | .any, flags => one fun c => flags.dotAll || c != '\n'
  | .set negated items, flags =>
    one fun c => items.any (·.holds flags c) != negated
  | .anchor place, flags => fun cursor continue_ =>
    if place.holds flags cursor then continue_ cursor else none
  | .group none on off body, flags => body.run groups (flags.within on off)
  | .group (some index) on off body, flags => fun cursor continue_ =>
    body.run groups (flags.within on off) (cursor.openGroup index) fun next =>
      continue_ (next.closeGroup index cursor)
  | .atomic body, flags => fun cursor continue_ =>
    (body.run groups flags cursor some).bind continue_
  | .look ahead negated body, flags => fun cursor continue_ =>
    -- The body of a look behind has one width, which tells where it begins.
    let place := if ahead then some cursor else cursor.back? (body.width groups).1
    match place.bind fun place => body.run groups flags place some with
    | some found =>
      if negated then none else continue_ { cursor with groups := found.groups }
    | none => if negated then continue_ cursor else none
  | .reference index, flags => again flags index
  | .conditional index present absent, flags => fun cursor continue_ =>
    if (cursor.taken? index).isSome then present.run groups flags cursor continue_
    else absent.run groups flags cursor continue_
  | .repeated low high greed body, flags => repeatWith (body.run groups flags) low high greed
  | .cat first second, flags => fun cursor continue_ =>
    first.run groups flags cursor fun next => second.run groups flags next continue_
  | .alt first second, flags => fun cursor continue_ =>
    match first.run groups flags cursor continue_ with
    | some found => some found
    | none => second.run groups flags cursor continue_

end Pattern

namespace Pattern

/-- How the whole pattern matches. -/
def run (pattern : Pattern) : Match :=
  pattern.root.run (fun group => pattern.groupWidths.getD group (0, 0)) pattern.flags

/-- Whether the pattern matches somewhere in what is after a place. -/
def searchFrom (pattern : Pattern) (before : List Char) (offset : Nat) (cs : List Char) : Bool :=
  (pattern.run ⟨before, cs, offset, []⟩ some).isSome ||
    match cs with
    | [] => false
    | c :: rest => searchFrom pattern (c :: before) (offset + 1) rest

/-- Whether the pattern matches somewhere in a text. -/
def search (pattern : Pattern) (cs : List Char) : Bool := pattern.searchFrom [] 0 cs

/-- Whether the pattern matches the whole of a text. -/
def matchesAll (pattern : Pattern) (cs : List Char) : Bool :=
  (pattern.run (.start cs) fun cursor => if cursor.after.isEmpty then some cursor else none).isSome

end Pattern

end Docblock
