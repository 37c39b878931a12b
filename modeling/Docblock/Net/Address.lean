import Docblock.Text.Numeral
import Docblock.Text.Split

/-!
# Network addresses

The written forms of addresses of both versions of the internet protocol. Four decimal octets
without leading zeros make one of version 4. Eight groups of hexadecimal digits make one of
version 6; one run of empty groups stands for zeros, the last two groups may be written as an
address of version 4, and a zone may follow a percent sign.

Whether a text is a web address is another matter. That is told by a test which the program is built
with (`AddressTest`). Which texts it takes is its own affair: what is proved of checks holds for
every test, and a result that needs one which never breaks off says so (`AddressTest.Answers`).
-/

namespace Docblock.Net

open Text

/-- A version of the internet protocol. -/
inductive Version where
  | v4
  | v6
  deriving DecidableEq, Repr

/-- One to three decimal digits, at most 255 and without a leading zero. -/
def isOctet (cs : List Char) : Bool :=
  !cs.isEmpty && cs.all Char.isDigit && cs.length ≤ 3 && (cs == ['0'] || cs.head? != some '0') &&
    valueIn 10 cs ≤ 255

/-- An address of version 4. -/
def isV4 (cs : List Char) : Bool :=
  let octets := splitOn '.' cs
  octets.length == 4 && octets.all isOctet

/-- One to four hexadecimal digits. -/
def isGroup (cs : List Char) : Bool := !cs.isEmpty && cs.all isHexDigit && cs.length ≤ 4

/-- The groups of an address of version 6, an address of version 4 at the end counted as two. -/
def groups? (cs : List Char) : Option (List (List Char)) :=
  let parts := splitOn ':' cs
  let last := parts.getLast?.getD []
  if parts.length < 3 then none
  else if last.contains '.' then
    if isV4 last then some (parts.dropLast ++ [['0'], ['0']]) else none
  else some parts

/-- The places of the empty groups that are neither first nor last. -/
def innerGaps (groups : List (List Char)) : List Nat :=
  (List.range groups.length).filter fun i =>
    0 < i && i + 1 < groups.length && (groups[i]?.getD []).isEmpty

/-- Groups that make an address: eight of them, or fewer around one gap. An empty group at an
end belongs to a gap right beside it. -/
def formAddress (groups : List (List Char)) : Bool :=
  match innerGaps groups with
  | [] => groups.length == 8 && groups.all isGroup
  | [gap] =>
    let high := groups.take gap
    let low := groups.drop (gap + 1)
    let high := if high == [[]] then [] else high
    let low := if low == [[]] then [] else low
    groups.length ≤ 9 && high.length + low.length < 8 && high.all isGroup && low.all isGroup
  | _ => false

/-- An address of version 6. -/
def isV6 (cs : List Char) : Bool :=
  let address := cs.takeWhile (· != '%')
  let zone := (cs.drop address.length).drop 1
  (address.length == cs.length || (!zone.isEmpty && !zone.contains '%')) &&
    match groups? address with
    | some groups => formAddress groups
    | none => false

/-- The version of a written address. -/
def version? (cs : List Char) : Option Version :=
  if cs.contains '/' then none
  else if isV4 cs then some .v4
  else if isV6 cs then some .v6
  else none

end Docblock.Net

namespace Docblock

/-- The test for web addresses that a checker is built with. It tells nothing of a text at which it
breaks off. -/
class AddressTest where
  isUrl? : List Char → Option Bool

/-- The test never breaks off: of a text that is no address it tells so. -/
def AddressTest.Answers [AddressTest] : Prop := ∀ cs, (isUrl? cs).isSome = true

end Docblock
