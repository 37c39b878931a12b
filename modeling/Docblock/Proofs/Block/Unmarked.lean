import Docblock.Block.Line
import Mathlib.Data.List.Basic

/-!
# What is left without the marks of a comment

The marks are read off by their length. Here each is what follows it (`afterMark?`), so that a text
without its marks is cut at them: a mark is left out (`dropMarks_of_mark`), and a character that
begins none is kept (`dropMarks_of_none`).

Lengths are what the definition needs to run through a text once, but every proof would have to take
a prefix of that length and show what it is. With the text that follows a mark the three kinds of
marks are shapes of lists, and a mark is the part in front (`exists_of_afterMark?`).

Which texts come out is not said here. That depends on how the comment was written.
-/

namespace Docblock

open Text

/-! ## What follows a mark -/

/-- What follows blanks, a star and a slash, at the end of a line. -/
def afterEnd? (cs : List Char) : Option (List Char) :=
  match cs.dropWhile isIndent with
  | '*' :: '/' :: rest => if rest.head?.all (· == '\n') then some rest else none
  | _ => none

/-- What follows a closing mark. -/
def afterClosingMark? (cs : List Char) : Option (List Char) :=
  afterEnd? (if cs.head? = some '\n' then cs.drop 1 else cs)

/-- What follows an opening mark or the star of a line. -/
def afterLeadingMark? (cs : List Char) : Option (List Char) :=
  match cs.dropWhile isIndent with
  | '/' :: '*' :: '*' :: rest => some (dropLineEnd (rest.dropWhile (· == ' ')))
  | '*' :: rest =>
    if (cs.takeWhile isIndent).getLast? = some ' ' then some (rest.dropWhile (· == ' ')) else none
  | _ => none

/-- What follows a mark. -/
def afterMark? (lineStart : Bool) (cs : List Char) : Option (List Char) :=
  (afterClosingMark? cs).or (if lineStart then afterLeadingMark? cs else none)

variable {lineStart : Bool} {cs mark rest : List Char}

theorem afterEnd?_of_end (line : cs.dropWhile isIndent = '*' :: '/' :: rest) :
    afterEnd? cs = if rest.head?.all (· == '\n') then some rest else none := by
  rw [afterEnd?, line]
  rfl

theorem afterEnd?_of_other (other : ∀ rest, cs.dropWhile isIndent ≠ '*' :: '/' :: rest) :
    afterEnd? cs = none := by
  unfold afterEnd?
  split
  · rename_i line
    exact absurd line (other _)
  · rfl

theorem afterLeadingMark?_of_opening (line : cs.dropWhile isIndent = '/' :: '*' :: '*' :: rest) :
    afterLeadingMark? cs = some (dropLineEnd (rest.dropWhile (· == ' '))) := by
  rw [afterLeadingMark?, line]
  rfl

theorem afterLeadingMark?_of_star (line : cs.dropWhile isIndent = '*' :: rest) :
    afterLeadingMark? cs =
      if (cs.takeWhile isIndent).getLast? = some ' ' then some (rest.dropWhile (· == ' '))
      else none := by
  rw [afterLeadingMark?, line]
  rfl

theorem afterLeadingMark?_of_other
    (opening : ∀ rest, cs.dropWhile isIndent ≠ '/' :: '*' :: '*' :: rest)
    (star : ∀ rest, cs.dropWhile isIndent ≠ '*' :: rest) : afterLeadingMark? cs = none := by
  unfold afterLeadingMark?
  split
  · rename_i line
    exact absurd line (opening _)
  · rename_i line
    exact absurd line (star _)
  · rfl

theorem afterMark?_false (cs : List Char) : afterMark? false cs = afterClosingMark? cs :=
  Option.or_none

theorem afterClosingMark?_newline (cs : List Char) :
    afterClosingMark? ('\n' :: cs) = afterEnd? cs := rfl

theorem afterClosingMark?_cons {c : Char} (hc : c ≠ '\n') (cs : List Char) :
    afterClosingMark? (c :: cs) = afterEnd? (c :: cs) := by
  rw [afterClosingMark?, if_neg (by simpa using hc)]

theorem closingMark?_eq (cs : List Char) :
    closingMark? cs = (afterClosingMark? cs).map (cs.length - ·.length) := by
  unfold closingMark? afterClosingMark?
  dsimp only
  generalize (if cs.head? = some '\n' then cs.drop 1 else cs) = below
  split
  · rename_i line
    rw [afterEnd?_of_end line, apply_ite (Option.map _)]
    rfl
  · rename_i other
    rw [afterEnd?_of_other other]
    rfl

theorem leadingMark?_eq (cs : List Char) :
    leadingMark? cs = (afterLeadingMark? cs).map (cs.length - ·.length) := by
  unfold leadingMark?
  dsimp only
  split
  · rename_i line
    rw [afterLeadingMark?_of_opening line]
    rfl
  · rename_i line
    rw [afterLeadingMark?_of_star line, apply_ite (Option.map _)]
    rfl
  · rename_i opening star
    rw [afterLeadingMark?_of_other opening star]
    rfl

theorem mark?_eq (lineStart : Bool) (cs : List Char) :
    mark? lineStart cs = (afterMark? lineStart cs).map (cs.length - ·.length) := by
  unfold mark? afterMark?
  rw [closingMark?_eq, leadingMark?_eq]
  cases afterClosingMark? cs with
  | some rest => rfl
  | none => cases lineStart <;> rfl

theorem suffix_dropLineEnd (cs : List Char) : dropLineEnd cs <:+ cs := by
  unfold dropLineEnd
  split
  · exact ⟨['\r', '\n'], rfl⟩
  · exact ⟨['\r'], rfl⟩
  · exact ⟨['\n'], rfl⟩
  · exact List.suffix_rfl

/-- The end of a comment comes after blanks, and a line ends after it. -/
theorem afterEnd?_eq_some_iff : afterEnd? cs = some rest ↔
    (∃ blanks, (∀ c ∈ blanks, isIndent c = true) ∧ cs = blanks ++ '*' :: '/' :: rest) ∧
      rest.head?.all (· == '\n') = true := by
  constructor
  · intro h
    unfold afterEnd? at h
    split at h
    · rename_i after line
      split at h
      · rename_i ends
        cases h
        refine ⟨⟨cs.takeWhile isIndent, List.all_eq_true.1 List.all_takeWhile, ?_⟩, ends⟩
        rw [← line, List.takeWhile_append_dropWhile]
      · cases h
    · cases h
  · rintro ⟨⟨blanks, blank, rfl⟩, ends⟩
    have line : (blanks ++ '*' :: '/' :: rest).dropWhile isIndent = '*' :: '/' :: rest := by
      rw [List.dropWhile_append_of_pos blank]
      rfl
    unfold afterEnd?
    rw [line]
    exact if_pos ends

theorem suffix_of_afterClosingMark? (h : afterClosingMark? cs = some rest) :
    '*' :: '/' :: rest <:+ cs := by
  obtain ⟨⟨blanks, -, line⟩, -⟩ := afterEnd?_eq_some_iff.1 h
  have ends : '*' :: '/' :: rest <:+ if cs.head? = some '\n' then cs.drop 1 else cs := ⟨blanks, line.symm⟩
  split at ends
  · exact ends.trans (List.drop_suffix 1 cs)
  · exact ends

/-- What follows a leading mark is shorter by the star of it at least. -/
theorem exists_of_afterLeadingMark? (h : afterLeadingMark? cs = some rest) :
    ∃ mark, mark ≠ [] ∧ cs = mark ++ rest := by
  unfold afterLeadingMark? at h
  split at h
  · rename_i after line
    cases h
    obtain ⟨spaces, split⟩ :=
      (suffix_dropLineEnd _).trans (after.dropWhile_suffix (· == ' '))
    refine ⟨cs.takeWhile isIndent ++ '/' :: '*' :: '*' :: spaces, by simp, ?_⟩
    rw [List.append_assoc, List.cons_append, List.cons_append, List.cons_append, split, ← line,
      List.takeWhile_append_dropWhile]
  · rename_i after line
    split at h
    · cases h
      refine ⟨cs.takeWhile isIndent ++ '*' :: after.takeWhile (· == ' '), by simp, ?_⟩
      rw [List.append_assoc, List.cons_append, List.takeWhile_append_dropWhile, ← line,
        List.takeWhile_append_dropWhile]
    · cases h
  · cases h

/-- A mark is a part of the text that is not empty. -/
theorem exists_of_afterMark? (h : afterMark? lineStart cs = some rest) :
    ∃ mark, mark ≠ [] ∧ cs = mark ++ rest := by
  rcases Option.or_eq_some_iff.1 h with closing | ⟨-, leading⟩
  · obtain ⟨before, split⟩ := suffix_of_afterClosingMark? closing
    exact ⟨before ++ ['*', '/'], by simp, by simp [← split]⟩
  · split at leading
    · exact exists_of_afterLeadingMark? leading
    · cases leading

/-! ## Marks left out -/

/-- What belongs to a mark is passed over. -/
theorem dropMarks_skip (mark rest : List Char) (lineStart : Bool) :
    dropMarks mark.length lineStart (mark ++ rest) =
      dropMarks 0 ((mark.getLast?.map (· == '\n')).getD lineStart) rest := by
  induction mark generalizing lineStart with
  | nil => rfl
  | cons c mark ih =>
    rw [List.cons_append, List.length_cons, dropMarks, ih]
    cases mark with
    | nil => rfl
    | cons d mark => simp [List.getLast?_cons]

/-- A mark is left out. What follows it is the start of a line after a line end. -/
theorem dropMarks_of_mark (ne : mark ≠ [])
    (h : afterMark? lineStart (mark ++ rest) = some rest) :
    dropMarks 0 lineStart (mark ++ rest) = dropMarks 0 (mark.getLast? == some '\n') rest := by
  obtain ⟨c, mark, rfl⟩ := List.exists_cons_of_ne_nil ne
  have length : (c :: (mark ++ rest)).length - rest.length - 1 = mark.length := by
    simp only [List.length_cons, List.length_append]
    omega
  have marked := mark?_eq lineStart (c :: mark ++ rest)
  rw [h, List.cons_append] at marked
  rw [List.cons_append, dropMarks, marked]
  dsimp only [Option.map_some]
  rw [length, dropMarks_skip]
  cases mark with
  | nil => rfl
  | cons d mark => simp [List.getLast?_cons]

/-- Nothing is left of a mark at the end. -/
theorem dropMarks_of_last (h : afterMark? lineStart cs = some []) :
    dropMarks 0 lineStart cs = [] := by
  obtain ⟨mark, ne, rfl⟩ := exists_of_afterMark? h
  rw [dropMarks_of_mark ne h, dropMarks]

/-- A character that begins no mark is kept. -/
theorem dropMarks_of_none {c : Char} (h : afterMark? lineStart (c :: cs) = none) :
    dropMarks 0 lineStart (c :: cs) = c :: dropMarks 0 (c == '\n') cs := by
  have unmarked := mark?_eq lineStart (c :: cs)
  rw [h] at unmarked
  rw [dropMarks, unmarked]
  rfl

end Docblock
