import Docblock.Proofs.Block.Written
import Docblock.Proofs.Text.Trim

/-!
# Which comments of a source are found

A source is code with comments in it (`Layout`). The line of code after a comment is read with it,
so a comment on that line is not found. All comments are found, each once and nothing else, just
where every comment is matched as it is written and none stands on such a line
(`places_ofSource_iff`).

A layout says where the comments are without any scan, and the code between them may be anything in
which no comment begins. Strings in the code count as code: one that holds the start of a comment is
not code in this sense, and the scan may take it for one as well.

Two things can go wrong, and both are in the condition (`Clear`). The code between two comments may
be too short to be read with the first of them, and a block may go on through the next one. Whether
the block that is found says what its comment does is not asked here, only where it stands and which
text it has.
-/

namespace Docblock.Comment

open Text

/-! ## Layouts -/

/-- Code, and comments each with the code after it. -/
structure Layout where
  code : List Char
  comments : List (Written × List Char)

/-- Comments and the code after each of them. -/
def textOf (comments : List (Written × List Char)) : List Char :=
  comments.flatMap fun (comment, code) => comment.text ++ code

/-- The source that a layout makes. -/
def Layout.text (layout : Layout) : List Char := layout.code ++ textOf layout.comments

/-- Where comments stand that begin at an index, and their texts. -/
def placesFrom (index : Nat) : List (Written × List Char) → List (Nat × String)
  | [] => []
  | (comment, code) :: rest =>
    (index, String.ofList comment.text) ::
      placesFrom (index + comment.text.length + code.length) rest

/-- Where the comments of a layout stand, and their texts. -/
def Layout.places (layout : Layout) : List (Nat × String) :=
  placesFrom layout.code.length layout.comments

/-- Code in which nothing looks like the start of a comment. -/
def Plain (code : List Char) : Prop := ¬['/', '*'] <:+: code

instance (code : List Char) : Decidable (Plain code) := inferInstanceAs (Decidable (¬_))

/-- A layout of code in which no comment begins, and comments. -/
structure Layout.Proper (layout : Layout) : Prop where
  code : Plain layout.code
  comments : ∀ part ∈ layout.comments, part.1.Proper ∧ Plain part.2

/-- Code between two comments that is not read with the first up to the second: it is blank, its
first character but blanks is a slash, or a line ends after that character. -/
def Spaced (code : List Char) : Prop :=
  trimStart code = [] ∨ (trimStart code).head? = some '/' ∨ '\n' ∈ trimStart code

instance (code : List Char) : Decidable (Spaced code) := inferInstanceAs (Decidable (_ ∨ _ ∨ _))

/-- Every comment is matched as it is written, and no comment stands on the line of code that is
read with the one before it. -/
def Clear (comments : List (Written × List Char)) : Prop :=
  ∀ before comment code after, comments = before ++ (comment, code) :: after →
    comment.Matched (code ++ textOf after) ∧ (after ≠ [] → Spaced code)

theorem textOf_cons (comment : Written) (code : List Char) (rest : List (Written × List Char)) :
    textOf ((comment, code) :: rest) = comment.text ++ (code ++ textOf rest) := by
  simp [textOf]

theorem head?_textOf (comments : List (Written × List Char)) :
    ∀ c ∈ (textOf comments).head?, c = '/' := by
  intro c hc
  rcases comments with _ | ⟨⟨comment, code⟩, rest⟩
  · cases hc
  · rw [textOf_cons] at hc
    cases comment <;> simpa [Written.text, eq_comm] using hc

theorem text_ne_nil (comment : Written) : comment.text ≠ [] := by
  cases comment <;> simp [Written.text]

theorem clear_nil : Clear [] := by
  intro before comment code after split
  simp at split

theorem clear_cons {comment : Written} {code : List Char} {rest : List (Written × List Char)} :
    Clear ((comment, code) :: rest) ↔
      (comment.Matched (code ++ textOf rest) ∧ (rest ≠ [] → Spaced code)) ∧ Clear rest := by
  constructor
  · intro h
    refine ⟨h [] comment code rest rfl, fun before other code' after split => ?_⟩
    exact h ((comment, code) :: before) other code' after (by rw [split]; rfl)
  · rintro ⟨here, there⟩ before other code' after split
    cases before with
    | nil =>
      cases split
      exact here
    | cons part before =>
      obtain ⟨-, split⟩ := List.cons.inj split
      exact there before other code' after split

theorem Plain.drop {code : List Char} (h : Plain code) (n : Nat) : Plain (code.drop n) :=
  fun opens => h (opens.trans (List.drop_suffix n code).isInfix)

/-! ## The scan -/

/-- Where a comment that was found stands, and its text. -/
def place (comment : Comment) : Nat × String := (comment.index, comment.text)

section

variable {line index : Nat} {cs rest code : List Char}

/-- Lines are counted beside the scan. -/
theorem places_line (skip line line' index : Nat) (cs : List Char) :
    (scan skip line index cs).map place = (scan skip line' index cs).map place := by
  induction cs generalizing skip line line' index with
  | nil => rfl
  | cons c cs ih =>
    cases skip with
    | succ skip =>
      rw [scan, scan]
      exact ih ..
    | zero =>
      rw [scan, scan]
      cases after? (c :: cs) with
      | none => exact ih ..
      | some after =>
        simp only [List.map_cons]
        exact congrArg _ (ih ..)

theorem places_of_none {c : Char} (h : after? (c :: cs) = none) :
    (scan 0 line index (c :: cs)).map place = (scan 0 line (index + 1) cs).map place := by
  rw [scan_of_none h]
  exact places_line ..

theorem places_of_match {text : List Char} (line index : Nat) (ne : text ≠ [])
    (h : after? (text ++ rest) = some rest) :
    (scan 0 line index (text ++ rest)).map place = (index, String.ofList text) ::
      (scan 0 line (index + text.length + (follow rest).2) (rest.drop (follow rest).2)).map
        place := by
  rw [scan_of_match ne h, List.map_cons]
  exact congrArg _ (places_line ..)

/-- Comments are found from the start on. -/
theorem le_of_mem_places {skip : Nat} {found : Nat × String}
    (h : found ∈ (scan skip line index cs).map place) : index + skip ≤ found.1 := by
  induction cs generalizing skip line index with
  | nil => cases h
  | cons c cs ih =>
    cases skip with
    | succ skip =>
      rw [scan] at h
      have := ih h
      omega
    | zero =>
      rw [scan] at h
      cases matched : after? (c :: cs) with
      | none =>
        rw [matched] at h
        have := ih h
        omega
      | some after =>
        rw [matched] at h
        simp only [List.map_cons] at h
        rcases List.mem_cons.1 h with rfl | h
        · simp [place]
        · have := ih h
          omega

/-- A comment that is found where it begins was matched as it is written. -/
theorem after?_of_places {text : List Char} {more : List (Nat × String)} (ne : text ≠ [])
    (h : (scan 0 line index (text ++ rest)).map place = (index, String.ofList text) :: more) :
    after? (text ++ rest) = some rest := by
  obtain ⟨c, text, rfl⟩ := List.exists_cons_of_ne_nil ne
  have split : c :: text ++ rest = c :: (text ++ rest) := rfl
  rw [split] at h ⊢
  cases matched : after? (c :: (text ++ rest)) with
  | none =>
    rw [places_of_none matched] at h
    have found : (index, String.ofList (c :: text)) ∈
        (scan 0 line (index + 1) (text ++ rest)).map place := by
      rw [h]
      exact List.mem_cons_self
    exact absurd (le_of_mem_places found) (Nat.not_succ_le_self index)
  | some after =>
    obtain ⟨start, ne, whole⟩ := exists_of_after? matched
    rw [whole] at h matched
    rw [places_of_match line index ne matched] at h
    obtain ⟨same, -⟩ := List.cons.inj h
    obtain rfl : start = c :: text := String.ofList_injective (Prod.mk.inj same).2
    rw [List.append_cancel_left (split.trans whole)]

/-- Code is passed over up to a comment. -/
theorem places_of_code {tail : List Char} (plain : Plain code) (ht : ∀ c ∈ tail.head?, c = '/')
    (line index : Nat) :
    (scan 0 line index (code ++ tail)).map place =
      (scan 0 line (index + code.length) tail).map place := by
  induction code generalizing index with
  | nil => rfl
  | cons c code ih =>
    have none : after? (c :: (code ++ tail)) = none := by
      unfold after?
      split
      · rename_i more opens
        obtain ⟨slash, star⟩ := List.cons.inj opens
        cases code with
        | nil =>
          rw [List.nil_append] at star
          exact absurd (ht '*' (by simp [star])) (by decide)
        | cons d code =>
          obtain ⟨star, -⟩ := List.cons.inj star
          exact absurd ⟨[], code, by simp [slash, star]⟩ plain
      · rfl
    have rest := ih (plain.drop 1) (index + 1)
    rw [List.cons_append, places_of_none none, rest, List.length_cons, Nat.add_right_comm,
      Nat.add_assoc]

/-! ## The line of code that is read with a comment -/

theorem follow_of_slash {blanks : List Char} (hb : Blanks blanks) (more : List Char) :
    (follow (blanks ++ '/' :: more)).2 ≤ blanks.length := by
  obtain ⟨htake, -⟩ := span_append hb (c := '/') rfl more
  unfold follow
  dsimp only
  rw [htake, List.drop_left, if_pos (by simp)]
  exact Nat.sub_le ..

theorem follow_of_code {blanks : List Char} (hb : Blanks blanks) {c : Char}
    (hc : isBlank c = false) (ne : c ≠ '/') (more : List Char) :
    (follow (blanks ++ c :: more)).2 =
      blanks.length + ((c :: more).takeWhile (· != '\n')).length := by
  obtain ⟨htake, -⟩ := span_append hb hc more
  have hn : c ≠ '\n' := by
    rintro rfl
    cases hc
  unfold follow
  dsimp only
  rw [htake, List.drop_left, if_neg (by simp [hn, ne])]

/-- A line goes on into a comment after it unless it ends before. -/
theorem length_line_le_iff (code more : List Char) :
    ((code ++ '/' :: more).takeWhile (· != '\n')).length ≤ code.length ↔ '\n' ∈ code := by
  induction code with
  | nil => simp
  | cons c code ih =>
    by_cases hc : c = '\n'
    · simp [hc]
    · rw [List.cons_append, List.takeWhile_cons_of_pos (by simpa using hc), List.length_cons,
        List.length_cons, Nat.add_le_add_iff_right, ih]
      simp [Ne.symm hc]

/-- The line that is read with a comment ends within the code after it just where that is spaced. -/
theorem follow_le_iff {more : List Char} :
    (follow (code ++ '/' :: more)).2 ≤ code.length ↔ Spaced code := by
  obtain ⟨blanks, hb, split⟩ := exists_trimStart code
  have starts := @head?_trimStart code
  unfold Spaced
  generalize trimStart code = line at split starts ⊢
  subst split
  rcases line with _ | ⟨c, line⟩
  · simpa using follow_of_slash hb more
  · have hc : isBlank c = false := starts rfl
    by_cases slash : c = '/'
    · subst slash
      have within := follow_of_slash hb (line ++ '/' :: more)
      have shorter : blanks.length ≤ (blanks ++ '/' :: line).length := by simp
      simpa using Nat.le_trans within shorter
    · have read := follow_of_code hb hc slash (line ++ '/' :: more)
      have whole : blanks ++ c :: line ++ '/' :: more = blanks ++ c :: (line ++ '/' :: more) := by
        simp
      have ends := length_line_le_iff (c :: line) more
      rw [whole, read, List.length_append, Nat.add_le_add_iff_left]
      simpa [slash] using ends

/-! ## All comments -/

/-- Once the line after a comment was read, the scan finds the next comments where they stand. -/
theorem places_after {tail : List Char} {taken : Nat} (plain : Plain code)
    (ht : ∀ c ∈ tail.head?, c = '/') (short : taken ≤ code.length) (line index : Nat) :
    (scan 0 line (index + taken) ((code ++ tail).drop taken)).map place =
      (scan 0 line (index + code.length) tail).map place := by
  rw [List.drop_append_of_le_length short, places_of_code (plain.drop taken) ht, List.length_drop]
  congr 2
  omega

/-- No comment is found in the code after the last one. -/
theorem places_of_plain (plain : Plain code) (line index : Nat) :
    (scan 0 line index code).map place = [] := by
  have all := @places_of_code code [] plain (by simp) line index
  rw [List.append_nil] at all
  exact all

/-- What is found after a comment that was matched: the next comments, unless the first of them
stands on the line that was read with it. -/
theorem places_next_iff {comments : List (Written × List Char)} (plain : Plain code)
    (ih : (scan 0 line (index + code.length) (textOf comments)).map place =
      placesFrom (index + code.length) comments ↔ Clear comments) :
    (scan 0 line (index + (follow (code ++ textOf comments)).2)
        ((code ++ textOf comments).drop (follow (code ++ textOf comments)).2)).map place =
      placesFrom (index + code.length) comments ↔
      (comments ≠ [] → Spaced code) ∧ Clear comments := by
  have starts := head?_textOf comments
  rcases comments with _ | ⟨⟨comment, code'⟩, rest⟩
  · have none := places_of_plain (plain.drop (follow code).2) line (index + (follow code).2)
    simp [textOf, placesFrom, clear_nil, none]
  obtain ⟨c, more, text⟩ := List.exists_cons_of_ne_nil
    (show textOf ((comment, code') :: rest) ≠ [] by simp [textOf_cons, text_ne_nil])
  obtain rfl : c = '/' := starts c (by rw [text]; rfl)
  have spaced := @follow_le_iff code more
  rw [← text] at spaced
  by_cases short : (follow (code ++ textOf ((comment, code') :: rest))).2 ≤ code.length
  · rw [places_after plain starts short, ih]
    simp [spaced.1 short]
  · have unspaced : ¬Spaced code := mt spaced.2 short
    constructor
    · intro found
      have there : (index + code.length, String.ofList comment.text) ∈
          placesFrom (index + code.length) ((comment, code') :: rest) := List.mem_cons_self
      rw [← found] at there
      have late := le_of_mem_places there
      dsimp only at late
      omega
    · rintro ⟨all, -⟩
      exact absurd (all (by simp)) unspaced

/-- Comments that begin at an index are found just where they are clear. -/
theorem places_textOf_iff {comments : List (Written × List Char)}
    (proper : ∀ part ∈ comments, part.1.Proper ∧ Plain part.2) (line index : Nat) :
    (scan 0 line index (textOf comments)).map place = placesFrom index comments ↔
      Clear comments := by
  induction comments generalizing index with
  | nil => simp [textOf, scan, placesFrom, clear_nil]
  | cons part rest ih =>
    obtain ⟨comment, code⟩ := part
    obtain ⟨hcomment, plain⟩ := proper _ List.mem_cons_self
    have ih := ih (fun part hm => proper part (List.mem_cons_of_mem _ hm))
      (index + comment.text.length + code.length)
    rw [textOf_cons, placesFrom, clear_cons]
    have matched_iff := after?_eq_some_iff hcomment (code ++ textOf rest)
    have next := fun matched => places_of_match line index (text_ne_nil comment)
      (matched_iff.2 matched)
    constructor
    · intro found
      have matched := matched_iff.1 (after?_of_places (text_ne_nil comment) found)
      rw [next matched] at found
      obtain ⟨spaced, clear⟩ := (places_next_iff plain ih).1 (List.cons.inj found).2
      exact ⟨⟨matched, spaced⟩, clear⟩
    · rintro ⟨⟨matched, spaced⟩, clear⟩
      rw [next matched, (places_next_iff plain ih).2 ⟨spaced, clear⟩]

end

/-- All comments of a source are found where they stand, each once and nothing else, just where
each is matched as it is written and none stands on the line of code after another. -/
theorem places_ofSource_iff (layout : Layout) (proper : layout.Proper) :
    (ofSource layout.text).map place = layout.places ↔ Clear layout.comments := by
  have first := places_of_code proper.code (head?_textOf layout.comments) 1 0
  rw [Nat.zero_add] at first
  rw [ofSource, Layout.text, first, Layout.places]
  exact places_textOf_iff proper.comments 1 layout.code.length

/-! ## Comments that hide others -/

/-- The second comment stands on the line of code after the first. -/
def besideCode : Layout where
  code := []
  comments := [(.inline " a ".toList, " x = ".toList), (.inline " b ".toList, [])]

/-- A line ends between the code and the second comment. -/
def belowCode : Layout where
  code := []
  comments := [(.inline " a ".toList, " x\n".toList), (.inline " b ".toList, [])]

/-- The second block opens on the last line of the first. -/
def besideBlock : Layout where
  code := []
  comments := [(.lines [] [" * a".toList] [' '], [' ']), (.lines [] [" * b".toList] [' '], [])]

/-- A comment on one line is proper when no other part of its text is an end. -/
theorem proper_inline {body : List Char} (line : '\n' ∉ body)
    (ends : ∀ part ∈ (Written.inline body).text.tails, ['*', '/'] <+: part → part.length = 2) :
    (Written.inline body).Proper :=
  ⟨ends_of_tails ends, line⟩

theorem proper_besideCode : besideCode.Proper where
  code := by decide
  comments := by
    simp only [besideCode, List.forall_mem_cons]
    exact ⟨⟨proper_inline (by decide) (by decide), by decide⟩,
      ⟨proper_inline (by decide) (by decide), by decide⟩, by simp⟩

theorem proper_belowCode : belowCode.Proper where
  code := by decide
  comments := by
    simp only [belowCode, List.forall_mem_cons]
    exact ⟨⟨proper_inline (by decide) (by decide), by decide⟩,
      ⟨proper_inline (by decide) (by decide), by decide⟩, by simp⟩

/-- A star after one space. -/
theorem inner_of_space {text : List Char} (h : '\n' ∉ text) : Inner (' ' :: '*' :: text) :=
  ⟨by simpa using h, [], text, by simp, rfl⟩

theorem proper_block {text : List Char} (h : '\n' ∉ text)
    (ends : ∀ part ∈ (Written.lines [] [' ' :: '*' :: text] [' ']).text.tails,
      ['*', '/'] <+: part → part.length = 2) :
    (Written.lines [] [' ' :: '*' :: text] [' ']).Proper :=
  ⟨ends_of_tails ends, by simp, by simpa using inner_of_space h, by simp⟩

theorem proper_besideBlock : besideBlock.Proper where
  code := by decide
  comments := by
    simp only [besideBlock, List.forall_mem_cons]
    exact ⟨⟨proper_block (by decide) (by decide), by decide⟩,
      ⟨proper_block (by decide) (by decide), by decide⟩, by simp⟩

/-- A comment beside the code after another is not found; below it is. A block that opens where
another ends is not found either. -/
theorem places_ofSource_iff_beside :
    (besideCode.Proper ∧ (ofSource besideCode.text).map place ≠ besideCode.places) ∧
    (belowCode.Proper ∧ (ofSource belowCode.text).map place = belowCode.places) ∧
    (besideBlock.Proper ∧ (ofSource besideBlock.text).map place ≠ besideBlock.places) := by
  refine ⟨⟨proper_besideCode, fun found => ?_⟩, ⟨proper_belowCode, ?_⟩,
    proper_besideBlock, fun found => ?_⟩
  · have clear := (places_ofSource_iff besideCode proper_besideCode).1 found
    have spaced : Spaced " x = ".toList := (clear [] _ _ _ rfl).2 (by simp)
    exact absurd spaced (by decide)
  · refine (places_ofSource_iff belowCode proper_belowCode).2 ?_
    have spaced : Spaced " x\n".toList := by decide
    exact clear_cons.2 ⟨⟨trivial, fun _ => spaced⟩,
      clear_cons.2 ⟨⟨trivial, fun none => absurd rfl none⟩, clear_nil⟩⟩
  · have clear := (places_ofSource_iff besideBlock proper_besideBlock).1 found
    obtain ⟨-, -, -, stops⟩ := (clear [] _ _ _ rfl).1
    refine stops ⟨[" */ /**".toList, " * b".toList], [' '], [], by simp, ?_, by decide, by decide⟩
    simp only [List.forall_mem_cons]
    exact ⟨inner_of_space (by decide), inner_of_space (by decide), by simp⟩

end Docblock.Comment
