import Docblock.Text.Blank

/-!
# Brackets and quotes

Where a bracket or a quote at the start of a text is closed. Only brackets of the same kind count
for nesting, whatever stands between them; a quote is closed by the next one of its kind that has no
backslash right before it.

One kind is looked for at a time, and no stack is kept. A bracket in a quoted string counts like one
outside of it, two backslashes in front of a quote are not told from one, and a bracket or a quote
that is never closed is a character like any other.
-/

namespace Docblock.Text

/-- The bracket that closes an opening one. -/
def closerOf? (c : Char) : Option Char :=
  if c = '(' then some ')'
  else if c = '[' then some ']'
  else if c = '<' then some '>'
  else if c = '{' then some '}'
  else none

/-- A quotation mark. -/
def isQuote (c : Char) : Bool := c == '\'' || c == '"' || c == '\x60'

/-- The distance to the bracket that closes the last of `depth` open ones. -/
def closingFrom (opener closer : Char) : Nat → List Char → Option Nat
  | _, [] => none
  | depth, c :: rest =>
    if c = opener then (closingFrom opener closer (depth + 1) rest).map (· + 1)
    else if c = closer then
      if depth ≤ 1 then some 0 else (closingFrom opener closer (depth - 1) rest).map (· + 1)
    else (closingFrom opener closer depth rest).map (· + 1)

/-- The distance from the bracket at the start of a text to the one that closes it. -/
def closingBracket? : List Char → Option Nat
  | [] => none
  | c :: rest => do
    let closer ← closerOf? c
    return (← closingFrom c closer 1 rest) + 1

/-- The distance to the next quote that does not follow a backslash. -/
def closingQuoteFrom (quote : Char) : Char → List Char → Option Nat
  | _, [] => none
  | previous, c :: rest =>
    if c = quote ∧ previous ≠ '\\' then some 0
    else (closingQuoteFrom quote c rest).map (· + 1)

/-- The distance from the quote at the start of a text to the one that closes it. -/
def closingQuote? : List Char → Option Nat
  | [] => none
  | c :: rest => if isQuote c then (closingQuoteFrom c c rest).map (· + 1) else none

/-- The distance from a place in a text to the end of its line: to the next line feed, else to the
last character, which may lie before that place. -/
def lineEnd (cs : List Char) (start : Nat) : Int :=
  match (cs.drop start).idxOf? '\n' with
  | some distance => distance
  | none => ((cs.length - 1 : Nat) : Int) - start

/-- How many further characters belong to the bracketed or quoted span that starts here. An
opener that is never closed stands alone. -/
def spanOffset : List Char → Nat
  | [] => 0
  | c :: rest =>
    if (closerOf? c).isSome then (closingBracket? (c :: rest)).getD 0
    else if isQuote c then (closingQuote? (c :: rest)).getD 0
    else 0

/-- A trimmed text without one pair of parentheses around the whole of it. -/
def unwrap (cs : List Char) : List Char :=
  let text := trim cs
  if text.head? = some '(' ∧ (closingBracket? text).getD 0 = text.length - 1 then
    trim (text.drop 1).dropLast
  else text

/-- A trimmed text without one pair of equal quotes around it. -/
def unquote (cs : List Char) : List Char :=
  match trim cs with
  | c :: d :: rest =>
    if isQuote c ∧ (d :: rest).getLast? = some c then (d :: rest).dropLast else c :: d :: rest
  | text => text

theorem length_unwrap_le (cs : List Char) : (unwrap cs).length ≤ cs.length := by
  have h := length_trim_le cs
  dsimp only [unwrap]
  split
  · refine Nat.le_trans (length_trim_le _) ?_
    simp only [List.length_dropLast, List.length_drop]
    omega
  · exact h

end Docblock.Text
