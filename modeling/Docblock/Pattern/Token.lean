import Docblock.Pattern.Basic
import Docblock.Pattern.Fault
import Docblock.Text.Digit
import Docblock.Text.Name
import Docblock.Text.Numeral

/-!
# Tokens of a pattern

A pattern is read token by token: a character, or a backslash with the character after it. The
place of a token is the offset of its first character. One token is looked at ahead, which matters
only for a backslash at the very end: it is found out before anything is said about the token in
front of it.
-/

namespace Docblock.Pattern

open Text (isHexDigit isOctalDigit valueIn)

/-- A character of a pattern, with its backslash if it has one. -/
structure Token where
  char : Char
  escaped : Bool
  position : Nat
  deriving DecidableEq, Repr

/-- The token as it is written. -/
def Token.text (token : Token) : List Char :=
  if token.escaped then ['\\', token.char] else [token.char]

/-- The token is this character without a backslash. -/
def Token.is (token : Token) (c : Char) : Bool := !token.escaped && token.char == c

/-- The tokens of a source, of which the first stands at `position`, and whether a backslash with
nothing after it follows them. -/
def tokens : Nat → List Char → List Token × Bool
  | _, [] => ([], false)
  | _, ['\\'] => ([], true)
  | position, '\\' :: c :: rest =>
    let (after, dangling) := tokens (position + 2) rest
    (⟨c, true, position⟩ :: after, dangling)
  | position, c :: rest =>
    let (after, dangling) := tokens (position + 1) rest
    (⟨c, false, position⟩ :: after, dangling)

/-- What has been read so far: the tokens left and whether a lone backslash follows them, the
length of the source, the flags set for the whole pattern, the width of each group (none while it
is open), the names of groups, the count of groups at the start of the outermost look behind, and
the groups that conditions name before it is known whether they exist. -/
structure Progress where
  rest : List Token
  dangling : Bool
  length : Nat
  flags : Flags
  widths : List (Option (Nat × Nat))
  names : List (String × Nat)
  lookBehind : Option Nat
  conditions : List (Nat × Nat)

/-- A step of reading a pattern. -/
abbrev Reader := StateT Progress (Except Fault)

namespace Reader

/-- The offset of the next token. -/
def position : Reader Nat := do
  let progress ← get
  return match progress.rest with
    | token :: _ => token.position
    | [] => progress.length

/-- Give up with a cause at a place. -/
def failAt {α : Type} (place : Nat) (cause : Cause) : Reader α := throw (.wrong cause (some place))

/-- Give up with a cause, `back` characters before the next token. -/
def fail {α : Type} (cause : Cause) (back : Nat) : Reader α := do
  failAt ((← position) - back) cause

/-- Go on with these tokens. One token is always looked at ahead, so a lone backslash is found
out when it comes next. -/
def goOn (rest : List Token) : Reader Unit := do
  modify fun progress => { progress with rest }
  let progress ← get
  if rest.isEmpty && progress.dangling then failAt (progress.length - 1) .danglingBackslash

/-- The next token, left in place. -/
def peek : Reader (Option Token) := do return (← get).rest.head?

/-- The next token, taken. -/
def take : Reader (Option Token) := do
  match (← get).rest with
  | [] => return none
  | token :: rest =>
    goOn rest
    return some token

/-- Take the next token when it is this character. -/
def accept (c : Char) : Reader Bool := do
  match (← get).rest with
  | token :: rest =>
    if token.is c then
      goOn rest
      return true
    else return false
  | [] => return false

/-- Take up to `count` tokens of a class of characters. -/
def takeWhile (class_ : Char → Bool) (count : Nat) : Reader (List Char) := do
  let rest := (← get).rest
  let taken := (rest.take count).takeWhile fun token => !token.escaped && class_ token.char
  if taken.isEmpty then return []
  goOn (rest.drop taken.length)
  return taken.map (·.char)

/-- Take the tokens up to a character, and that one too. None when the character does not
come. -/
def takePast (c : Char) : Reader (Option (List Token)) := do
  let rest := (← get).rest
  let before := rest.takeWhile (!·.is c)
  let after := rest.drop before.length
  goOn (after.drop 1)
  return if after.isEmpty then none else some before

/-- Take the text up to a terminator, which is taken too. -/
def takeName (terminator : Char) (what : String) : Reader (List Char) := do
  let left := (← get).rest.flatMap Token.text
  match ← takePast terminator with
  | none =>
    if left.isEmpty then fail (.missing what) 0
    else fail (.unterminatedName terminator) left.length
  | some before =>
    let name := before.flatMap Token.text
    if name.isEmpty then fail (.missing what) 1 else return name

/-- The count of groups, the whole pattern among them. -/
def groupCount : Reader Nat := do return (← get).widths.length

/-- Whether a group has been closed. -/
def isClosed (group : Nat) : Reader Bool := do
  return ((← get).widths[group]?.bind id).isSome

/-- Refuse a group that is open, or that was begun in the look behind being read. -/
def checkLookBehind (group : Nat) : Reader Unit := do
  match (← get).lookBehind with
  | none => return
  | some count =>
    if !(← isClosed group) then fail .openGroup 0
    else if group ≥ count then fail .groupOfSameLook 0

end Reader

/-- What an escape stands for: a character, or a class of characters. -/
inductive Escape where
  | code (code : Nat)
  | category (category : Category) (negated : Bool)

namespace Reader

/-- The escapes for control characters, which mean the same inside and outside a set. -/
def controlCode? (c : Char) : Option Nat :=
  if c = 'a' then some 7
  else if c = 'f' then some 12
  else if c = 'n' then some 10
  else if c = 'r' then some 13
  else if c = 't' then some 9
  else if c = 'v' then some 11
  else if c = '\\' then some 92
  else none

/-- The escapes for classes of characters. -/
def category? (c : Char) : Option (Category × Bool) :=
  if c = 'd' then some (.digit, false)
  else if c = 'D' then some (.digit, true)
  else if c = 's' then some (.space, false)
  else if c = 'S' then some (.space, true)
  else if c = 'w' then some (.word, false)
  else if c = 'W' then some (.word, true)
  else none

/-- The escape as written, with a backslash in front. -/
def escapeText (c : Char) (digits : List Char) : String := String.ofList ('\\' :: c :: digits)

/-- The greatest code that can be asked for. -/
def codeLimit : Nat := 0x7fffffff

/-- Exactly `count` hexadecimal digits of an escape. -/
def hexEscape (c : Char) (count : Nat) : Reader Nat := do
  let digits ← takeWhile isHexDigit count
  if digits.length ≠ count then
    fail (.incompleteEscape (escapeText c digits)) (digits.length + 2)
  else
    let code := valueIn 16 digits
    if code > codeLimit then throw (.beyond .characterCode)
    else if code > 0x10ffff then fail (.badEscape (escapeText c digits)) (digits.length + 2)
    else return code

/-- The character with a name in braces. -/
def namedEscape : Reader Nat := do
  if !(← accept '{') then fail (.missing "\x7b") 0
  let name ← takeName '}' "character name"
  match Text.characterNamed? name with
  | some code => return code
  | none => fail (.unknownCharacterName (String.ofList name)) (name.length + 4)

/-- An escape with digits or a name, or of a character that needs none; the same inside and
outside a set. -/
def commonEscape (c : Char) : Reader Nat := do
  if c = 'x' then hexEscape c 2
  else if c = 'u' then hexEscape c 4
  else if c = 'U' then hexEscape c 8
  else if c = 'N' then namedEscape
  else if c.isAlphanum then fail (.badEscape (escapeText c [])) 2
  else return c.toNat

/-- An octal escape whose first digits are given. -/
def octalEscape (digits : List Char) : Reader Nat := do
  let code := valueIn 8 digits
  if code > 255 then fail (.octalTooLarge (String.ofList ('\\' :: digits))) (digits.length + 1)
  else return code

/-- An escape inside a bracketed set. -/
def setEscape (c : Char) : Reader Escape := do
  if c = 'b' then return .code 8
  match controlCode? c, category? c with
  | some code, _ => return .code code
  | none, some (category, negated) => return .category category negated
  | none, none =>
    if isOctalDigit c then
      let digits ← takeWhile isOctalDigit 2
      return .code (← octalEscape (c :: digits))
    else return .code (← commonEscape c)

/-- A number after a backslash: an octal code of three digits, else a reference to a group. -/
def referenceEscape (c : Char) : Reader Node := do
  let second ← takeWhile Char.isDigit 1
  let third ←
    if isOctalDigit c && !second.isEmpty && second.all isOctalDigit then
      takeWhile isOctalDigit 1
    else pure []
  if third.length = 1 then return .code (← octalEscape (c :: (second ++ third)))
  else
    let group := valueIn 10 (c :: second)
    let length := second.length + 2
    if group < (← groupCount) then
      if !(← isClosed group) then fail .openGroup length
      checkLookBehind group
      return .reference group
    else fail (.invalidReference group) (length - 1)

/-- An escape outside a set. -/
def escape (c : Char) : Reader Node := do
  match category? c, controlCode? c with
  | some (category, negated), _ => return .set false [.category category negated]
  | none, some code => return .code code
  | none, none =>
    if c = 'A' then return .anchor .textStart
    else if c = 'Z' then return .anchor .textEnd
    else if c = 'b' then return .anchor .boundary
    else if c = 'B' then return .anchor .notBoundary
    else if c = '0' then return .code (valueIn 8 (← takeWhile isOctalDigit 2))
    else if c.isDigit then referenceEscape c
    else return .code (← commonEscape c)

end Reader

end Docblock.Pattern
