import Docblock.Text.Names.Abugidas
import Docblock.Text.Names.Aliases
import Docblock.Text.Names.Alphabets
import Docblock.Text.Names.Ancient
import Docblock.Text.Names.Brahmic
import Docblock.Text.Names.EastAsia
import Docblock.Text.Names.Glyphs
import Docblock.Text.Names.Notations
import Docblock.Text.Names.Pictographs
import Docblock.Text.Names.SignWriting
import Docblock.Text.Names.Syllables
import Docblock.Text.Names.Symbols
import Docblock.Text.Numeral
import Docblock.Text.Ranges

/-!
# Names of characters

The character that a name stands for. Most names are stored, packed: the entries of a table stand
between commas, and each tells how many characters its name has in common with the name before it,
in small letters of base twenty-six, and then the rest of its name. Its character is the next one,
unless a code in hexadecimal stands in front. The names of Hangul syllables are spelled by their
letters, and several kinds of characters are named by their code.

Capitals and small letters are the same in a name, except in the names of syllables and of unified
ideographs, which are written in capitals only.
-/

namespace Docblock.Text

/-! ## Packed names -/

/-- All tables of packed names. -/
def packedNames : List (List String) := [Names.alphabets, Names.abugidas, Names.syllables, Names.symbols,
  Names.eastAsia, Names.ancient, Names.brahmic, Names.glyphs, Names.notations, Names.signWriting,
  Names.pictographs, Names.aliases]

/-- The number that small letters write in base twenty-six. -/
def letterValue (letters : List Char) : Nat :=
  letters.foldl (fun n c => 26 * n + (c.toNat - 97)) 0

/-- The character with a name among packed entries, of which the first follows the entry with the
name `previous` and stands for `code` when it tells no code. -/
def findPacked (name : List Char) : Nat → List Char → List String → Option Nat
  | _, _, [] => none
  | code, previous, entry :: entries =>
    let cs := entry.toList
    let digits := cs.takeWhile (!·.isLower)
    let count := (cs.drop digits.length).takeWhile Char.isLower
    let code := if digits.isEmpty then code else valueIn 16 digits
    let current := previous.take (letterValue count) ++ cs.drop (digits.length + count.length)
    if current == name then some code else findPacked name (code + 1) current entries

/-! ## Syllables -/

/-- The letters that begin a syllable, in their order. -/
def leadingJamo : List String :=
  ["G", "GG", "N", "D", "DD", "R", "M", "B", "BB", "S", "SS", "", "J", "JJ", "C", "K", "T", "P", "H"]

/-- The vowels of syllables, in their order. -/
def vowelJamo : List String :=
  ["A", "AE", "YA", "YAE", "EO", "E", "YEO", "YE", "O", "WA", "WAE", "OE", "YO", "U", "WEO", "WE",
    "WI", "YU", "EU", "YI", "I"]

/-- The letters that end a syllable, in their order. -/
def trailingJamo : List String :=
  ["", "G", "GG", "GS", "N", "NJ", "NH", "D", "L", "LG", "LM", "LB", "LS", "LT", "LP", "LH", "M",
    "B", "BS", "S", "SS", "NG", "J", "C", "K", "T", "P", "H"]

/-- The place of the longest letter that a text begins with, and what follows that letter. -/
def takeJamo (letters : List String) (cs : List Char) : Option (Nat × List Char) :=
  let begins (letter : String) := letter.toList.isPrefixOf cs
  let longest := (letters.filter begins).foldl (fun n letter => max n letter.length) 0
  (letters.findIdx? fun letter => begins letter && letter.length == longest).map fun place =>
    (place, cs.drop longest)

/-- The syllable that letters spell. -/
def syllable? (cs : List Char) : Option Nat := do
  let (leading, cs) ← takeJamo leadingJamo cs
  let (vowel, cs) ← takeJamo vowelJamo cs
  let (trailing, cs) ← takeJamo trailingJamo cs
  if cs.isEmpty then return 0xac00 + (leading * 21 + vowel) * 28 + trailing else none

/-! ## Names with a code -/

/-- The unified ideographs. -/
def unifiedIdeographs : List (Nat × Nat) := [
  (0x3400, 0x4dbf), (0x4e00, 0x9fff), (0x20000, 0x2a6df), (0x2a700, 0x2b738), (0x2b740, 0x2b81d),
  (0x2b820, 0x2cea1), (0x2ceb0, 0x2ebe0), (0x30000, 0x3134a)]

/-- A unified ideograph told by four or five capital hexadecimal digits. -/
def ideograph? (digits : List Char) : Option Nat :=
  let code := valueIn 16 digits
  if (digits.length == 4 || digits.length == 5) &&
    digits.all (fun c => isHexDigit c && !c.isLower) && inRanges unifiedIdeographs code
  then some code else none

/-- The names that end in the code of their character, and the characters that have them. -/
def codedNames : List (String × List (Nat × Nat)) := [
  ("CJK COMPATIBILITY IDEOGRAPH-", [(0xf900, 0xfa6d), (0xfa70, 0xfad9), (0x2f800, 0x2fa1d)]),
  ("KHITAN SMALL SCRIPT CHARACTER-", [(0x18b00, 0x18cd5)]),
  ("NUSHU CHARACTER-", [(0x1b170, 0x1b2fb)])]

/-- What follows a text at the start of another. -/
def afterPrefix? (start : String) (cs : List Char) : Option (List Char) :=
  if start.toList.isPrefixOf cs then some (cs.drop start.length) else none

/-- The character of a name that ends in its code, which has no zero in front. -/
def coded? (name : List Char) : Option Nat :=
  codedNames.findSome? fun (start, ranges) => do
    let digits ← afterPrefix? start name
    let code := valueIn 16 digits
    if digits.all isHexDigit && digits.head? != some '0' && inRanges ranges code then some code
    else none

/-! ## All names -/

/-- The character with a name. -/
def characterNamed? (name : List Char) : Option Nat :=
  match afterPrefix? "HANGUL SYLLABLE " name, afterPrefix? "CJK UNIFIED IDEOGRAPH-" name with
  | some spelling, _ => syllable? spelling
  | none, some digits => ideograph? digits
  | none, none =>
    let name := name.map Char.toUpper
    (coded? name).or (packedNames.findSome? fun lines =>
      findPacked name 0 [] (lines.flatMap (·.splitOn ",")))

end Docblock.Text
