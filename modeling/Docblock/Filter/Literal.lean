import Docblock.Fault
import Docblock.Number.Literal
import Docblock.Pattern.Reader
import Docblock.Text.Bracket

/-!
# Filter literals

Filters are written as entries in braces: a name, a colon and a value. A value is a number, a quoted
string, a truth value or a regular expression, alone or with a message in square brackets. Reading
stops at the first fault and tells its place in the trimmed text.

Any name is read, with a value of any kind. Which filters there are, and what they take, is asked
afterwards, because it depends on the types that the literal stands beside.
-/

namespace Docblock.Filter

open Text

/-- Break off at the place where `rest` is what is left of the literal. -/
def stop {α : Type} (literal : List Char) (fault : LiteralFault) (rest : List Char) :
    Except Fault α :=
  refuse (.literal (String.ofList literal) fault (literal.length - rest.length))

/-- The next character that is not blank has to be this one. -/
def expect (literal : List Char) (c : Char) (cs : List Char) : Except Fault (List Char) :=
  match trimStart cs with
  | d :: rest => if d = c then .ok rest else stop literal (.expected c) (d :: rest)
  | [] => stop literal (.expected c) []

/-- The next character that is not blank is this one. -/
def next (c : Char) (cs : List Char) : Bool := (trimStart cs).head? == some c

/-- The next character that is not blank is a quote. -/
def nextQuote (cs : List Char) : Bool := (trimStart cs).head?.any isQuote

/-- What a character stands for after a backslash. -/
def unescape (c : Char) : Char :=
  if c = 'n' then '\n'
  else if c = 'r' then '\r'
  else if c = 't' then '\t'
  else if c = '0' then Char.ofNat 0
  else c

/-- The contents of a string up to the quote that ends it, and what follows that. -/
def stringBody? (quote : Char) : List Char → Option (List Char × List Char)
  | [] => none
  | [c] => if c = quote then some ([], []) else none
  | c :: d :: rest =>
    if c = '\\' then do
      let (body, after) ← stringBody? quote rest
      return (unescape d :: body, after)
    else if c = quote then some ([], d :: rest)
    else do
      let (body, after) ← stringBody? quote (d :: rest)
      return (c :: body, after)

/-- A quoted string. -/
def readString (literal : List Char) (cs : List Char) : Except Fault (String × List Char) :=
  match trimStart cs with
  | quote :: rest =>
    match stringBody? quote rest with
    | some (body, after) => .ok (String.ofList body, after)
    | none => stop literal .openString []
  | [] => stop literal .openString []

/-- A character that may begin a name. -/
def startsName (c : Char) : Bool := c.isAlpha || c == '_' || c == '$'

/-- A name: quoted, or made of word characters and dollar signs. -/
def readName (literal : List Char) (cs : List Char) : Except Fault (String × List Char) :=
  if nextQuote cs then readString literal cs
  else
    match trimStart cs with
    | c :: rest =>
      if startsName c then
        let tail := rest.takeWhile fun d => isWord d || d == '$'
        .ok (String.ofList (c :: tail), rest.drop tail.length)
      else stop literal .nameExpected (c :: rest)
    | [] => stop literal .nameExpected []

/-- The source of a regular expression up to the slash that ends it, and what follows that. A
slash inside a bracketed set ends nothing. -/
def patternBody? : Bool → List Char → Option (List Char × List Char)
  | _, [] => none
  | inSet, [c] => if c = '/' && !inSet then some ([], []) else none
  | inSet, c :: d :: rest =>
    if c = '\\' then do
      let (body, after) ← patternBody? inSet rest
      return (c :: d :: body, after)
    else if c = '/' && !inSet then some ([], d :: rest)
    else do
      let inSet := if c = '[' then true else if c = ']' then false else inSet
      let (body, after) ← patternBody? inSet (d :: rest)
      return (c :: body, after)

/-- Whether the last character of a text is a backslash that escapes nothing. -/
def danglingEscape : List Char → Bool
  | [] => false
  | [c] => c == '\\'
  | c :: d :: rest => if c = '\\' then danglingEscape rest else danglingEscape (d :: rest)

/-- Spell the beginning of a named group the way patterns are read. -/
def nameGroups : List Char → List Char
  | '(' :: '?' :: '<' :: c :: rest =>
    if c.isAlpha || c == '_' then '(' :: '?' :: 'P' :: '<' :: nameGroups (c :: rest)
    else '(' :: '?' :: '<' :: nameGroups (c :: rest)
  | c :: rest => c :: nameGroups rest
  | [] => []
termination_by cs => cs.length

/-- The flags that letters after a regular expression set. Four more letters are known and set
none. -/
def patternFlags (source letters : String) : List Char → Except Fault Pattern.Flags
  | [] => .ok .none
  | c :: rest => do
    if c = 'i' then return { (← patternFlags source letters rest) with ignoreCase := true }
    else if c = 'm' then return { (← patternFlags source letters rest) with multiLine := true }
    else if c = 's' then return { (← patternFlags source letters rest) with dotAll := true }
    else if c = 'g' || c = 'u' || c = 'y' || c = 'd' then patternFlags source letters rest
    else refuse (.unknownFlag c source letters)

/-- The pattern of a regular expression with its flags. -/
def readPatternSource (source letters : List Char) : Except Fault Pattern := do
  let shown := String.ofList letters
  let flags ← patternFlags (String.ofList source) shown letters
  let named := String.ofList (nameGroups source)
  match Pattern.read named flags with
  | .ok pattern => return pattern
  | .error (.wrong cause place) => refuse (.pattern named shown cause place)
  | .error (.beyond excess) => throw (.pattern excess)

/-- A regular expression after its first slash. -/
def readPattern (literal : List Char) (cs : List Char) : Except Fault (Value × List Char) := do
  match patternBody? false cs with
  | none =>
    -- A backslash takes the next character with it, even past the end.
    let overrun := if danglingEscape cs then 1 else 0
    refuse (.literal (String.ofList literal) .openPattern (literal.length + overrun))
  | some (source, after) =>
    let letters := after.takeWhile isLetter
    return (.pattern (← readPatternSource source letters), after.drop letters.length)

/-- A number. -/
def readNumber (literal : List Char) (cs : List Char) : Except Fault (Value × List Char) :=
  match NumberLiteral.read? cs with
  | none => stop literal .valueExpected cs
  | some (number, rest) =>
    let digits := number.wholeDigits?.getD 0
    if digits > digitLimit then .error (.integerTooLong (some digits))
    else
      match number.toNumber with
      | .int n => .ok (.int n, rest)
      | .double x => .ok (.double x, rest)

/-- A value without a message. -/
def readPlain (literal : List Char) (cs : List Char) : Except Fault (Value × List Char) :=
  if nextQuote cs then do
    let (s, rest) ← readString literal cs
    return (.string s, rest)
  else
    match trimStart cs with
    | '/' :: rest => readPattern literal rest
    | 't' :: 'r' :: 'u' :: 'e' :: rest => .ok (.bool true, rest)
    | 'f' :: 'a' :: 'l' :: 's' :: 'e' :: rest => .ok (.bool false, rest)
    | cs => readNumber literal cs

/-- A value and a message after the opening square bracket. The message may be missing, and a
comma may follow each of the two. -/
def readPair (literal : List Char) (cs : List Char) : Except Fault (Value × List Char) := do
  let (value, cs) ← readPlain literal cs
  let finish (message : String) (cs : List Char) :
      Except Fault (Value × List Char) := do
    return (.tuple [value, .string message], ← expect literal ']' cs)
  if !next ',' cs then finish "" cs
  else
    let cs := (trimStart cs).drop 1
    if (trimStart cs).isEmpty || next ']' cs then finish "" cs
    else if !nextQuote cs then stop literal .messageExpected (trimStart cs)
    else
      let (message, cs) ← readString literal cs
      finish message (if next ',' cs then (trimStart cs).drop 1 else cs)

/-- A value, alone or with a message. -/
def readValue (literal : List Char) (cs : List Char) : Except Fault (Value × List Char) :=
  if next '[' cs then readPair literal ((trimStart cs).drop 1) else readPlain literal cs

/-- Put a named value among others: a repeated name keeps its place. -/
def insertNamed (name : String) (value : Value) :
    List (String × Value) → List (String × Value)
  | [] => [(name, value)]
  | (n, v) :: rest =>
    if n = name then (n, value) :: rest else (n, v) :: insertNamed name value rest

/-- The entries up to the closing brace, added to those before them. Each takes a character at
least, so the count of characters bounds that of the rounds. -/
def readEntries (literal : List Char) : Nat → List (String × Value) → List Char →
    Except Fault (List (String × Value) × List Char)
  | 0, _, cs => stop literal .nameExpected cs
  | fuel + 1, done, cs => do
    if next '}' cs then return (done, (trimStart cs).drop 1)
    let (name, cs) ← readName literal cs
    let cs ← expect literal ':' cs
    let (value, cs) ← readValue literal cs
    let done := insertNamed name value done
    if next ',' cs then readEntries literal fuel done ((trimStart cs).drop 1)
    else if next '}' cs then readEntries literal fuel done cs
    else stop literal .separatorExpected (trimStart cs)

/-- The entries of a filter literal. A value with a message is a pair of the two. -/
def readLiteral (text : List Char) : Except Fault (List (String × Value)) := do
  let literal := trim text
  let cs ← expect literal '{' literal
  let (entries, rest) ← readEntries literal (literal.length + 1) [] cs
  if (trimStart rest).isEmpty then return entries
  else stop literal .textAfterBrace (trimStart rest)

/-- The filter of an entry. -/
def ofEntry : String × Value → Filter
  | (name, .tuple [value, .string message]) => ⟨name, value, message⟩
  | (name, value) => ⟨name, value, ""⟩

end Docblock.Filter
