import Docblock.Text.Quoted
import Docblock.Text.Split

/-!
# Comment blocks in source text

An annotation comment opens with a slash and two stars. Either it ends on its line, or nothing else
stands on its first line and every line up to the last begins with a star after a space. Each
comment is found with its place and with the line of code that follows it.

The code is not read otherwise. A string that holds such a comment is no different from code that
does, and the line of code that was taken with one comment is not searched for another.
-/

namespace Docblock

open Text

/-- A comment block: its text with the marks around it, where it begins, the lines it stands on,
counted from one, and the first line of code after it, which may be empty. -/
structure Comment where
  text : String
  index : Nat
  startLine : Nat
  endLine : Nat
  follower : String
  deriving DecidableEq, Repr

namespace Comment

/-- The lines after an inner line of a block: one that begins with a star after a space. -/
def afterInnerLine? (cs : List Char) : Option (List Char) :=
  if (cs.takeWhile isIndent).getLast? = some ' ' ∧ (cs.dropWhile isIndent).head? = some '*' ∧
      cs.contains '\n' then
    some ((cs.dropWhile (· != '\n')).drop 1)
  else none

theorem length_afterInnerLine_lt {cs rest : List Char} (h : afterInnerLine? cs = some rest) :
    rest.length < cs.length := by
  unfold afterInnerLine? at h
  split at h
  · rename_i hc
    cases h
    have := length_dropWhile_le (· != '\n') cs
    have : cs ≠ [] := by
      intro h0
      simp [h0] at hc
    have := List.length_pos_iff.2 this
    simp only [List.length_drop]
    omega
  · cases h

/-- What follows the end of a block at the start of its last line: blanks and stars, of which the
last is a star before a slash. -/
def afterClosing? (cs : List Char) : Option (List Char) :=
  let run := cs.takeWhile fun c => isIndent c || c == '*'
  let rest := cs.drop run.length
  if run.getLast? = some '*' ∧ rest.head? = some '/' then some (rest.drop 1) else none

/-- What follows a block at the start of its second line: the end that comes after as many inner
lines as possible, and after one at least. -/
def afterLines? (cs : List Char) : Option (List Char) :=
  match _h : afterInnerLine? cs with
  | none => none
  | some rest => afterLines? rest <|> afterClosing? rest
termination_by cs.length
decreasing_by exact length_afterInnerLine_lt _h

/-- What follows a block of several lines after its opening mark. -/
def afterBlock? (cs : List Char) : Option (List Char) :=
  match cs.dropWhile isIndent with
  | '\n' :: rest => afterLines? rest
  | '\r' :: '\n' :: rest => afterLines? rest
  | _ => none

/-- What follows a comment of one line after its opening mark. -/
def afterInline? : List Char → Option (List Char)
  | '*' :: '/' :: rest => some rest
  | c :: rest => if c = '\n' then none else afterInline? rest
  | [] => none

/-- What follows the comment at the start of a text. -/
def after? : List Char → Option (List Char)
  | '/' :: '*' :: '*' :: rest => afterBlock? rest <|> afterInline? rest
  | _ => none

/-- The line of code after a comment, trimmed, and how much text is read with the comment: the
blank lines, and that line unless it begins with a slash. -/
def follow (cs : List Char) : List Char × Nat :=
  let blanks := cs.takeWhile isBlank
  let indent := blanks.reverse.takeWhile (· != '\n')
  let line := (cs.drop blanks.length).takeWhile (· != '\n')
  -- Blanks in front of no line of code are not read with the comment.
  if line.isEmpty || line.head? == some '/' then ([], blanks.length - indent.length)
  else (trim line, blanks.length + line.length)

/-- The comments of a text that begins on a line at an index. The first `skip` characters were
read with the comment before. -/
def scan (skip line index : Nat) : List Char → List Comment
  | [] => []
  | c :: rest =>
    let nextLine := if c = '\n' then line + 1 else line
    match skip with
    | skip + 1 => scan skip nextLine (index + 1) rest
    | 0 =>
      match after? (c :: rest) with
      | none => scan 0 nextLine (index + 1) rest
      | some after =>
        let text := (c :: rest).take (rest.length + 1 - after.length)
        let (follower, taken) := follow after
        ⟨String.ofList text, index, line, line + text.count '\n', String.ofList follower⟩ ::
          scan (text.length + taken - 1) nextLine (index + 1) rest

/-- The annotation comments of a source, in order. -/
def ofSource (cs : List Char) : List Comment := scan 0 1 0 cs

end Comment

end Docblock
