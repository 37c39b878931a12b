/-!
# Code pages

A code page gives each byte one character, or none. The first bytes stand for the characters of
the same number, and the rest are listed.
-/

namespace Docblock.Text

/-- A code page: the first byte that does not stand for the character of its number, and what the
bytes from there on stand for, line by line. The replacement character stands where a byte has no
character. -/
structure Page where
  listed : Nat
  signs : List String
  deriving DecidableEq, Repr

/-- The sign that a table has in place of a character where there is none. -/
def noSign : Char := '\uFFFD'

/-- The character of a byte. -/
def Page.char? (page : Page) (byte : Nat) : Option Char :=
  if byte < page.listed then some (Char.ofNat byte)
  else
    ((page.signs.flatMap String.toList)[byte - page.listed]?).bind fun c =>
      if c = noSign then none else some c

end Docblock.Text
