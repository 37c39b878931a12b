import Docblock.Text.Quoted
import Docblock.Text.Split
import Docblock.Text.Digit

/-!
# Lines of a comment

A comment is read as trimmed lines without the marks of the comment: the opening and closing marks,
and the star in front of each line. Some tags have several spellings, of which one is kept.

Spellings are replaced in the whole comment before anything is known of its parts, in texts and
quotes as well as at the start of a line. Which tags are used is found out first, by their names
alone, and only those that are used are read.
-/

namespace Docblock

open Text

/-! ## Spellings of tags -/

/-- The other spellings of tags, and the one that each stands for. -/
def tagSynonyms : List (String × String) := [
  ("virtual", "abstract"),
  ("extends", "augments"),
  ("constructor", "class"),
  ("const", "constant"),
  ("defaultvalue", "default"),
  ("desc", "description"),
  ("host", "external"),
  ("fileoverview", "file"),
  ("overview", "file"),
  ("emits", "fires"),
  ("func", "function"),
  ("method", "function"),
  ("var", "member"),
  ("arg", "param"),
  ("argument", "param"),
  ("prop", "property"),
  ("return", "returns"),
  ("exception", "throws"),
  ("yield", "yields"),
  ("linkcode", "link"),
  ("linkplain", "link")]

/-- Write every tag with the spelling that is kept. The first `skip` characters are dropped. -/
def renameTags : Nat → List Char → List Char
  | _, [] => []
  | skip + 1, _ :: rest => renameTags skip rest
  | 0, c :: rest =>
    let word := rest.takeWhile Char.isLower
    match if c = '@' then tagSynonyms.lookup (String.ofList word) else none with
    | some tag => c :: tag.toList ++ renameTags word.length rest
    | none => c :: renameTags 0 rest

/-! ## Marks of a comment -/

/-- The length of a closing mark at this place: a line feed, blanks, and a star and a slash at
the end of a line. -/
def closingMark? (cs : List Char) : Option Nat :=
  let line := if cs.head? = some '\n' then cs.drop 1 else cs
  match line.dropWhile isIndent with
  | '*' :: '/' :: rest =>
    if rest.head?.all (· == '\n') then some (cs.length - rest.length) else none
  | _ => none

/-- A text without the line end that it may begin with. -/
def dropLineEnd : List Char → List Char
  | '\r' :: '\n' :: rest => rest
  | '\r' :: rest => rest
  | '\n' :: rest => rest
  | cs => cs

/-- The length of an opening mark, or of the star of a line, at the start of a line, with the
spaces after it. -/
def leadingMark? (cs : List Char) : Option Nat :=
  let spaced (rest : List Char) := rest.dropWhile (· == ' ')
  match cs.dropWhile isIndent with
  | '/' :: '*' :: '*' :: rest => some (cs.length - (dropLineEnd (spaced rest)).length)
  | '*' :: rest =>
    if (cs.takeWhile isIndent).getLast? = some ' ' then some (cs.length - (spaced rest).length)
    else none
  | _ => none

/-- The length of a mark at this place. -/
def mark? (lineStart : Bool) (cs : List Char) : Option Nat :=
  closingMark? cs <|> if lineStart then leadingMark? cs else none

/-- Leave out the marks. The first `skip` characters belong to one. -/
def dropMarks : Nat → Bool → List Char → List Char
  | _, _, [] => []
  | skip + 1, _, c :: rest => dropMarks skip (c == '\n') rest
  | 0, lineStart, c :: rest =>
    match mark? lineStart (c :: rest) with
    | some length => dropMarks (length - 1) (c == '\n') rest
    | none => c :: dropMarks 0 (c == '\n') rest

/-- The text of a comment without its marks. -/
def removeMarks (cs : List Char) : List Char := dropMarks 0 true (trim cs)

/-! ## Lines -/

/-- The trimmed lines of a text. -/
def linesOf (cs : List Char) : List (List Char) :=
  (splitOn '\n' (cs.filter (· != '\r'))).map trim

/-- A line that begins with a tag. -/
def isTagLine (line : List Char) : Bool := line.head? == some '@'

/-- The tag that stands alone on a line, or with text after a space. -/
def usedTag? (line : List Char) : Option (List Char) :=
  match line.dropWhile isIndent with
  | '@' :: rest =>
    let word := rest.takeWhile Char.isAlpha
    let after := rest.drop word.length
    let text := if after.head? = some ' ' then after.dropWhile (· != '\n') else after
    if !word.isEmpty && (text.isEmpty || text == ['\n']) then some word else none
  | _ => none

/-- Whether a line begins with a tag of this name and no longer one. -/
def startsTag (name line : List Char) : Bool :=
  ('@' :: name).isPrefixOf line && (line.drop (name.length + 1)).head?.all (!isWord ·)

/-- The occurrences of a tag before a place, and the lines of the one that goes on there, if one
does; both in reverse. -/
structure TagScan where
  done : List (List Char)
  current : Option (List (List Char))

/-- End the occurrence that goes on. -/
def TagScan.close (scan : TagScan) : List (List Char) :=
  match scan.current with
  | none => scan.done
  | some lines => join ['\n'] lines.reverse :: scan.done

/-- Read one more line. -/
def TagScan.step (name : List Char) (scan : TagScan) (line : List Char) : TagScan :=
  if startsTag name line then ⟨scan.close, some [line]⟩
  else if isTagLine line then ⟨scan.close, none⟩
  else ⟨scan.done, scan.current.map (line :: ·)⟩

/-- The occurrences of a tag, each with the lines after it up to the next tag. -/
def tagOccurrences (name : List Char) (lines : List (List Char)) : List (List Char) :=
  (lines.foldl (TagScan.step name) ⟨[], none⟩).close.reverse

end Docblock
