import Docblock.Proofs.Block.Rendered
import Docblock.Proofs.Block.Spelling

/-!
# A text written as a comment of one line

A text stands by itself in a comment of one line (`inlined`). The comment is the only one of its
source, and the text is read back from it as it is, whatever stands in it (`line_inlined`). Before
that its tags are written in the spelling that is kept, and nothing around it changes what becomes
of them (`renameTags_inlined`).

The text has to be one that can stand on a line: it may hold no line end and no end of a comment,
and it is trimmed. Stars and slashes are no trouble otherwise, also at its ends, because a space
separates it from the marks. Several lines need a star in front of each, and are treated apart.

This is how a theorem about a line of a comment becomes one about a source.
-/

namespace Docblock

open Text

namespace Comment

variable {text : List Char}

namespace Sayable

theorem of_cons {c : Char} (h : Sayable (c :: text)) : Sayable text where
  newline hm := h.newline (List.mem_cons_of_mem c hm)
  carriage hm := h.carriage (List.mem_cons_of_mem c hm)
  open_ inside := h.open_ (inside.trans (List.suffix_cons c text).isInfix)

theorem prepend (start : List Char) (hs : ∀ c ∈ start, c ∉ ['\n', '\r', '*']) (h : Sayable text) :
    Sayable (start ++ text) := by
  induction start with
  | nil => exact h
  | cons c start ih =>
    obtain ⟨newline, carriage, open_⟩ := ih fun d hd => hs d (List.mem_cons_of_mem c hd)
    have free := hs c List.mem_cons_self
    simp only [List.mem_cons, List.not_mem_nil, or_false, not_or] at free
    rw [List.cons_append]
    refine ⟨?_, ?_, ?_⟩
    · simp [Ne.symm free.1, newline]
    · simp [Ne.symm free.2.1, carriage]
    · simp [List.infix_cons_iff, Ne.symm free.2.2, open_]

theorem concat {c : Char} (h : Sayable text) (hc : c ∉ ['\n', '\r', '*', '/']) :
    Sayable (text ++ [c]) := by
  simp only [List.mem_cons, List.not_mem_nil, or_false, not_or] at hc
  obtain ⟨newline, carriage, star, slash⟩ := hc
  refine ⟨?_, ?_, ?_⟩
  · simp [Ne.symm newline, h.newline]
  · simp [Ne.symm carriage, h.carriage]
  · rintro ⟨before, after, split⟩
    have line : text ++ c :: [] = before ++ '*' :: '/' :: after := by
      rw [← split]
      simp
    obtain ⟨more, ends⟩ := ends_after star slash h.open_ line
    cases more <;> cases ends

/-- What can stand on a line still can when its tags are spelled otherwise. -/
theorem renameTags (h : Sayable text) : Sayable (renameTags 0 text) where
  newline hm := (mem_of_mem_renameTags hm).elim h.newline (by decide)
  carriage hm := (mem_of_mem_renameTags hm).elim h.carriage (by decide)
  open_ := by
    rintro ⟨before, after, split⟩
    have ends : Docblock.renameTags 0 text = before ++ '*' :: '/' :: after := by
      rw [← split]
      simp
    obtain ⟨before', after', rfl, -⟩ := ends_of_renameTags ends
    exact h.open_ ⟨before', after', by simp⟩

end Sayable

/-- A comment of one line that says a text. -/
def inlined (text : List Char) : List Char :=
  '/' :: '*' :: '*' :: ' ' :: (text ++ [' ', '*', '/'])

/-! ## The comment -/

theorem inlined_eq (text : List Char) :
    inlined text = (Written.inline (' ' :: (text ++ [' ']))).text := by
  simp [inlined, Written.text]

theorem proper_inlined (sayable : Sayable text) :
    (Written.inline (' ' :: (text ++ [' ']))).Proper where
  ends before after h := by
    have open_ : ¬['*', '/'] <:+: '/' :: '*' :: '*' :: ' ' :: text := by
      simp [List.infix_cons_iff, sayable.open_]
    have line : ('/' :: '*' :: '*' :: ' ' :: text) ++ ' ' :: ['*', '/'] =
        before ++ '*' :: '/' :: after := by
      rw [← h, ← inlined_eq]
      rfl
    obtain ⟨more, h⟩ := ends_after (by decide) (by decide) open_ line
    rcases more with _ | ⟨c, _ | ⟨d, more⟩⟩
    · cases h
      rfl
    · cases h
    · have lengths := congrArg List.length h
      simp only [List.length_append, List.length_cons, List.length_nil] at lengths
      omega
  lines := by simpa using sayable.newline

/-- It is the only comment of its text. -/
theorem ofSource_inlined (sayable : Sayable text) :
    ofSource (inlined text) = [⟨String.ofList (inlined text), 0, 1, 1, ""⟩] := by
  have matched := after?_inline (proper_inlined sayable) []
  rw [List.append_nil, ← inlined_eq] at matched
  have lines : (inlined text).count '\n' = 0 :=
    List.count_eq_zero.2 (by simp [inlined, sayable.newline])
  rw [ofSource_of_match (by simp [inlined]) matched, lines]

/-! ## The line that it says -/

/-- No closing mark begins in a text in which no comment ends and which ends in no blank. -/
theorem afterEnd?_inside {part : List Char} (ne : part ≠ []) (open_ : ¬['*', '/'] <:+: part)
    (tight : ∀ c ∈ part.getLast?, isBlank c = false) :
    afterEnd? (part ++ [' ', '*', '/']) = none := by
  by_contra some
  obtain ⟨rest, ended⟩ := Option.ne_none_iff_exists'.1 some
  obtain ⟨⟨blanks, blank, split⟩, -⟩ := afterEnd?_eq_some_iff.1 ended
  rcases List.append_eq_append_iff.1 split with ⟨more, rfl, -⟩ | ⟨more, rfl, mark⟩
  · -- The text would end in a blank.
    obtain ⟨c, last⟩ := Option.isSome_iff_exists.1 (List.getLast?_isSome.2 ne)
    have stop := tight c last
    have indent := blank c (List.mem_append_left _ (List.mem_of_getLast? last))
    rw [isBlank_of_isIndent indent] at stop
    cases stop
  · rcases more with _ | ⟨c, _ | ⟨d, more⟩⟩
    · cases mark
    · cases mark
    · cases mark
      exact open_ ⟨blanks, more, by simp⟩

/-- What the text says is kept up to its last character, and the mark behind it is left out. -/
theorem dropMarks_inside (sayable : Sayable text) (tight : ∀ c ∈ text.getLast?, isBlank c = false) :
    dropMarks 0 false (text ++ [' ', '*', '/']) = text := by
  induction text with
  | nil => decide
  | cons c text ih =>
    have hc : c ≠ '\n' := fun same => sayable.newline (same ▸ List.mem_cons_self)
    have kept : afterMark? false (c :: (text ++ [' ', '*', '/'])) = none := by
      rw [afterMark?_false, afterClosingMark?_cons hc]
      exact afterEnd?_inside (by simp) sayable.open_ tight
    have last : ∀ d ∈ text.getLast?, isBlank d = false := by
      intro d hd
      refine tight d ?_
      rw [Option.mem_def.1 (List.getLast?_cons), Option.mem_def.1 hd]
      rfl
    rw [List.cons_append, dropMarks_of_none kept, beq_eq_false_iff_ne.2 hc, ih sayable.of_cons last]

/-- Without its marks the comment is what it says. -/
theorem removeMarks_inlined (ne : text ≠ []) (sayable : Sayable text) (tight : Tight text) :
    removeMarks (inlined text) = text := by
  obtain ⟨c, rest, rfl⟩ := List.exists_cons_of_ne_nil ne
  have hc : isBlank c = false := tight.starts c rfl
  have other : ∀ d, isBlank d = true → c ≠ d := by
    rintro d hd rfl
    rw [hc] at hd
    cases hd
  have whole : Tight (inlined (c :: rest)) := by
    refine ⟨by rintro d ⟨⟩; rfl, ?_⟩
    have last : (inlined (c :: rest)).getLast? = some '/' := by
      simp [inlined, List.getLast?_cons]
    rw [last]
    rintro d ⟨⟩
    rfl
  -- The mark at the front ends where the text begins, since the text does not begin with a blank.
  have opening : afterMark? true (['/', '*', '*', ' '] ++ (c :: rest ++ [' ', '*', '/'])) =
      some (c :: rest ++ [' ', '*', '/']) := by
    have spaces : (' ' :: c :: (rest ++ [' ', '*', '/'])).dropWhile (· == ' ') =
        c :: (rest ++ [' ', '*', '/']) := by
      simp [other ' ' rfl]
    have line : dropLineEnd (c :: (rest ++ [' ', '*', '/'])) = c :: (rest ++ [' ', '*', '/']) := by
      unfold dropLineEnd
      split
      · rename_i same
        exact absurd (List.cons.inj same).1 (other '\r' rfl)
      · rename_i same
        exact absurd (List.cons.inj same).1 (other '\r' rfl)
      · rename_i same
        exact absurd (List.cons.inj same).1 (other '\n' rfl)
      · rfl
    show some (dropLineEnd ((' ' :: c :: (rest ++ [' ', '*', '/'])).dropWhile (· == ' '))) = _
    rw [spaces, line]
    rfl
  calc removeMarks (inlined (c :: rest))
      = dropMarks 0 true (['/', '*', '*', ' '] ++ (c :: rest ++ [' ', '*', '/'])) := by
        rw [removeMarks, whole.trim_eq]
        rfl
    _ = dropMarks 0 false (c :: rest ++ [' ', '*', '/']) := dropMarks_of_mark (by simp) opening
    _ = c :: rest := dropMarks_inside sayable tight.ends

/-- A text written as a comment is the only line of the only comment of its source. -/
theorem line_inlined (ne : text ≠ []) (sayable : Sayable text) (tight : Tight text) :
    ofSource (inlined text) = [⟨String.ofList (inlined text), 0, 1, 1, ""⟩] ∧
      linesOf (removeMarks (inlined text)) = [text] := by
  refine ⟨ofSource_inlined sayable, ?_⟩
  have carriage : text.filter (· != '\r') = text := by
    refine List.filter_eq_self.2 fun c hc => ?_
    rw [bne_iff_ne]
    rintro rfl
    exact sayable.carriage hc
  rw [removeMarks_inlined ne sayable tight, linesOf, carriage, splitOn_of_not_mem sayable.newline,
    List.map_singleton, tight.trim_eq]

/-! ## The spelling of its tags -/

/-- The tags of the text are written as they are where it stands by itself. -/
theorem renameTags_inlined (text : List Char) :
    renameTags 0 (inlined text) = inlined (renameTags 0 text) :=
  renameTags_between ['/', '*', '*'] text ['*', '/'] (c := ' ') (d := ' ') rfl (by decide) rfl

end Comment

end Docblock
