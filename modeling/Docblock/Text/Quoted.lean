import Docblock.Text.Printable

/-!
# Quoting a text for a message

A text in a message stands between single quotes, or between double quotes when it holds a
single quote and no double one. Backslashes, the quote itself, line ends and tabs are escaped,
and a character that is not printable is shown by its code in as few of two, four or eight
hexadecimal digits as hold it.
-/

namespace Docblock.Text

/-- A number in hexadecimal, filled up with zeros to a width. -/
def hex (width : Nat) (code : Nat) : List Char :=
  let digits := Nat.toDigits 16 code
  List.replicate (width - digits.length) '0' ++ digits

/-- One character inside a quoted text. -/
def quoteChar (quote : Char) (c : Char) : List Char :=
  if c = quote || c = '\\' then ['\\', c]
  else if c = '\n' then ['\\', 'n']
  else if c = '\r' then ['\\', 'r']
  else if c = '\t' then ['\\', 't']
  else if isPrintable c then [c]
  else if c.toNat < 0x100 then '\\' :: 'x' :: hex 2 c.toNat
  else if c.toNat < 0x10000 then '\\' :: 'u' :: hex 4 c.toNat
  else '\\' :: 'U' :: hex 8 c.toNat

/-- A text between quotes. -/
def quoted (cs : List Char) : List Char :=
  let quote := if cs.contains '\'' && !cs.contains '"' then '"' else '\''
  quote :: cs.flatMap (quoteChar quote) ++ [quote]

/-- One byte inside a quoted run of bytes. -/
def quoteByte (quote : Char) (byte : Nat) : List Char :=
  if byte < 128 then quoteChar quote (Char.ofNat byte) else '\\' :: 'x' :: hex 2 byte

/-- A run of bytes between quotes, marked by a `b` in front. -/
def quotedBytes (bytes : List Nat) : List Char :=
  let quote := if bytes.contains 39 && !bytes.contains 34 then '"' else '\''
  'b' :: quote :: bytes.flatMap (quoteByte quote) ++ [quote]

/-- The quoted form of a string. -/
def quote (s : String) : String := String.ofList (quoted s.toList)

/-- Texts with a separator between each two. -/
def join (separator : List Char) : List (List Char) → List Char
  | [] => []
  | [text] => text
  | text :: rest => text ++ separator ++ join separator rest

end Docblock.Text
