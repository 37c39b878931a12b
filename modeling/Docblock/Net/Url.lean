import Docblock.Net.Address
import Docblock.Net.Label

/-!
# Web addresses

Which texts a web browser reads as an absolute address. Controls and spaces around a text and
tabs and line ends inside it do not count. A few schemes are special: they need a host, which
is a name or an address, and take a backslash for a slash. The path, the query and the fragment
take anything, so only the scheme, the user, the host and the port can be wrong.

This is the test that the program runs with (`browser`). Nothing is proved of which texts it takes,
and whatever is proved of checks holds with any other test as well.
-/

namespace Docblock.Net

open Text

/-- The part of a text that is read. -/
def readable (cs : List Char) : List Char :=
  let isEdge (c : Char) := c.toNat ≤ 32
  let trimmed := ((cs.dropWhile isEdge).reverse.dropWhile isEdge).reverse
  trimmed.filter fun c => c != '\t' && c != '\n' && c != '\r'

/-- What kind of scheme an address has. -/
inductive Scheme where
  | file
  | special
  | other
  deriving DecidableEq, Repr

/-- The kind of a scheme in small letters. -/
def Scheme.ofName (name : List Char) : Scheme :=
  if name = "file".toList then .file
  else if ["http".toList, "https".toList, "ws".toList, "wss".toList, "ftp".toList].contains name
  then .special
  else .other

/-- A character of a scheme after its first letter. -/
def isSchemeChar (c : Char) : Bool := c.isAlphanum || c == '+' || c == '-' || c == '.'

/-- The scheme and what follows its colon. -/
def scheme? (cs : List Char) : Option (Scheme × List Char) :=
  let name := cs.takeWhile isSchemeChar
  match name, cs.drop name.length with
  | c :: _, ':' :: rest => if c.isAlpha then some (.ofName (asciiLower name), rest) else none
  | _, _ => none

/-- A slash, or a backslash that counts as one. -/
def isSlash (special : Bool) (c : Char) : Bool := c == '/' || (special && c == '\\')

/-- A character that ends the part of an address with user, host and port. -/
def endsAuthority (special : Bool) (c : Char) : Bool := isSlash special c || c == '?' || c == '#'

/-- A number in an address of version 4: decimal, octal after a zero, or hexadecimal after a
zero and an x. -/
def partValue? (cs : List Char) : Option Nat :=
  let value (base : Nat) (holds : Char → Bool) (digits : List Char) :=
    if digits.all holds then some (valueIn base digits) else none
  match cs with
  | [] => none
  | '0' :: 'x' :: digits | '0' :: 'X' :: digits => value 16 isHexDigit digits
  | '0' :: d :: digits => value 8 isOctalDigit (d :: digits)
  | digits => value 10 Char.isDigit digits

/-- The parts of a host between points, without an empty one at the end. -/
def hostParts (host : List Char) : List (List Char) :=
  let parts := splitOn '.' host
  if parts.length > 1 && parts.getLast? == some [] then parts.dropLast else parts

/-- A host whose last part is a number is meant as an address of version 4. -/
def endsInNumber (host : List Char) : Bool :=
  match (hostParts host).getLast? with
  | some last => !last.isEmpty && (last.all Char.isDigit || (partValue? last).isSome)
  | none => false

/-- Numbers that make an address of version 4: the last fills up what the others leave. -/
def isPartsAddress (parts : List (List Char)) : Bool :=
  match parts.mapM partValue? with
  | none => false
  | some values =>
    let last := values.getLast?.getD 0
    values.length ≤ 4 && values.dropLast.all (· ≤ 255) && last < Nat.pow 256 (5 - values.length)

/-- What has been read of an address of version 6 in brackets: the count of groups, and whether
there was a gap. -/
structure Groups where
  count : Nat
  gap : Bool

/-- The groups of an address of version 6 up to its end. -/
def bracketGroups : Nat → Groups → List Char → Bool
  | _, groups, [] => groups.count = 8 || groups.gap
  | 0, _, _ => false
  | fuel + 1, groups, cs =>
    if groups.count ≥ 8 then false
    else
      match cs with
      | ':' :: rest =>
        !groups.gap && bracketGroups fuel ⟨groups.count + 1, true⟩ rest
      | _ =>
        let digits := (cs.take 4).takeWhile isHexDigit
        match cs.drop digits.length with
        | [] => bracketGroups fuel { groups with count := groups.count + 1 } []
        | '.' :: _ =>
          !digits.isEmpty && groups.count ≤ 6 && isV4 cs &&
            (groups.count = 6 || groups.gap)
        | ':' :: rest =>
          !digits.isEmpty && !rest.isEmpty &&
            bracketGroups fuel { groups with count := groups.count + 1 } rest
        | _ => false

/-- An address of version 6 as it stands in brackets. -/
def isBracketAddress (cs : List Char) : Bool :=
  match cs with
  | ':' :: ':' :: rest => bracketGroups (cs.length + 1) ⟨1, true⟩ rest
  | ':' :: _ => false
  | [] | [_] => false
  | _ => bracketGroups (cs.length + 1) ⟨0, false⟩ cs

/-- The bytes of a text after its percent escapes are resolved. -/
def percentDecoded : List Char → List UInt8
  | [] => []
  | '%' :: high :: low :: rest =>
    if isHexDigit high && isHexDigit low then
      (valueIn 16 [high, low]).toUInt8 :: percentDecoded rest
    else '%'.toNat.toUInt8 :: percentDecoded (high :: low :: rest)
  | c :: rest => c.toString.toUTF8.toList ++ percentDecoded rest
termination_by cs => cs.length

/-- A host of a special scheme. -/
def isSpecialHost (host : List Char) : Bool :=
  if host.head? = some '[' then
    host.getLast? = some ']' && isBracketAddress (host.drop 1).dropLast
  else
    match String.fromUTF8? ⟨(percentDecoded host).toArray⟩ with
    | none => false
    | some decoded =>
      match hostName? decoded.toList with
      | none | some [] => false
      | some name => !endsInNumber name || isPartsAddress (hostParts name)

/-- The characters that no host holds. -/
def forbiddenInHost : List Char :=
  [Char.ofNat 0, ' ', '#', '/', ':', '<', '>', '?', '@', '[', '\\', ']', '^', '|']

/-- A host of any other scheme, which may be empty. -/
def isOpaqueHost (host : List Char) : Bool :=
  if host.head? = some '[' then
    host.getLast? = some ']' && isBracketAddress (host.drop 1).dropLast
  else
    host.all fun c => !forbiddenInHost.contains c

/-- The host at the start of a text and what follows it: up to a colon outside brackets. -/
def spanHost (special : Bool) : Bool → List Char → List Char × List Char
  | _, [] => ([], [])
  | bracketed, c :: rest =>
    if (c = ':' && !bracketed) || endsAuthority special c then ([], c :: rest)
    else
      let bracketed := if c = '[' then true else if c = ']' then false else bracketed
      let (host, after) := spanHost special bracketed rest
      (c :: host, after)

/-- A port: digits up to the end of the authority, at most 65535. -/
def isPort (cs : List Char) : Bool :=
  let digits := cs.takeWhile Char.isDigit
  valueIn 10 digits ≤ 65535 && (cs.drop digits.length).head?.all (endsAuthority true)

/-- The user at the start of an authority, and what follows the last sign that ends it. -/
def user? (authority : List Char) : Option (List Char × List Char) :=
  if authority.contains '@' then
    let after := (authority.reverse.takeWhile (· != '@')).reverse
    some (authority.take (authority.length - after.length - 1), after)
  else none

/-- What follows the two slashes: user, host and port. A user or a port needs a host, and so
does a special scheme. A user who has neither a name nor a password is none. -/
def isAuthority (special : Bool) (cs : List Char) : Bool :=
  -- The last sign in the authority ends the user, so the host is looked for after it.
  let authority := cs.takeWhile (!endsAuthority special ·)
  let tail := cs.drop authority.length
  let (hasUser, bare, rest) := match user? authority with
    | some (user, after) => (user != [] && user != [':'], user.isEmpty && after.isEmpty &&
        !tail.isEmpty, after ++ tail)
    | none => (false, false, cs)
  let (host, after) := spanHost special false rest
  !bare &&
    (if special then isSpecialHost host else isOpaqueHost host) &&
    !(host.isEmpty && (hasUser || special || after.head? == some ':')) &&
    match after with
    | ':' :: port => isPort port
    | _ => true

/-- A drive letter and a colon, which are no host. -/
def isDrive (cs : List Char) : Bool :=
  match cs with
  | [letter, mark] => letter.isAlpha && (mark == ':' || mark == '|')
  | _ => false

/-- What follows the scheme of a file. -/
def isFile (cs : List Char) : Bool :=
  match cs with
  | a :: b :: rest =>
    if isSlash true a && isSlash true b then
      let host := rest.takeWhile (!endsAuthority true ·)
      host.isEmpty || isDrive host || isSpecialHost host
    else true
  | _ => true

/-- A text that is an absolute web address. -/
def isUrl (cs : List Char) : Bool :=
  match scheme? (readable cs) with
  | none => false
  | some (.file, rest) => isFile rest
  | some (.special, rest) => isAuthority true (rest.dropWhile (isSlash true))
  | some (.other, '/' :: '/' :: rest) => isAuthority false rest
  | some (.other, _) => true

/-- The test of a web browser. It tells something of every text. -/
scoped instance browser : AddressTest := ⟨fun cs => some (isUrl cs)⟩

theorem answers_browser : AddressTest.Answers := fun _ => rfl

end Docblock.Net
