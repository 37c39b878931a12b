import Docblock.Proofs.Block.Written
import Docblock.Proofs.Block.Unmarked
import Docblock.Proofs.Text.Trim

/-!
# Lines written as a comment

Lines are written as a comment with a star in front of each (`rendered`). They are read back as they
are but for the blanks around each, whatever stands in them: no line is lost, and none is added or
joined to another (`lines_rendered`). Only a line end or the end of a comment within a line would
change that.

Lines may look like marks themselves. A star at the start of a line stays, because the star in front
of it is taken off and no other, and so does the opening of another comment. An empty line is a star
alone. What the lines say as tags is left open.

Matching the comment and taking the marks off are independent of each other, and both go line by
line: what happens on a line is told by the line and the end of it, whatever follows.
-/

namespace Docblock

open Text

/-! ## Lines of a text -/

namespace Text

variable {separator : Char} {text cs : List Char} {texts : List (List Char)}

/-- The first piece ends at the first separator. -/
theorem splitOn_append (free : separator ∉ text) (cs : List Char) :
    splitOn separator (text ++ separator :: cs) = text :: splitOn separator cs := by
  induction text with
  | nil => exact if_pos rfl
  | cons c text ih =>
    have ne : c ≠ separator := fun same => free (same ▸ List.mem_cons_self)
    rw [List.cons_append, splitOn, if_neg ne, ih fun hm => free (List.mem_cons_of_mem c hm)]
    rfl

theorem splitOn_of_not_mem (free : separator ∉ text) : splitOn separator text = [text] := by
  induction text with
  | nil => rfl
  | cons c text ih =>
    have ne : c ≠ separator := fun same => free (same ▸ List.mem_cons_self)
    rw [splitOn, if_neg ne, ih fun hm => free (List.mem_cons_of_mem c hm)]
    rfl

/-- The pieces of joined texts are these texts. -/
theorem splitOn_join (ne : texts ≠ []) (free : ∀ text ∈ texts, separator ∉ text) :
    splitOn separator (join [separator] texts) = texts := by
  induction texts with
  | nil => exact absurd rfl ne
  | cons text rest ih =>
    have here := free text List.mem_cons_self
    cases rest with
    | nil => exact splitOn_of_not_mem here
    | cons next rest =>
      have joined : join [separator] (text :: next :: rest) =
          text ++ separator :: join [separator] (next :: rest) := by
        simp [join]
      rw [joined, splitOn_append here,
        ih (by simp) fun other hm => free other (List.mem_cons_of_mem _ hm)]

theorem mem_join {c : Char} (h : c ∈ join [separator] texts) :
    c = separator ∨ ∃ text ∈ texts, c ∈ text := by
  induction texts with
  | nil => cases h
  | cons text rest ih =>
    cases rest with
    | nil => exact .inr ⟨text, List.mem_cons_self, h⟩
    | cons next rest =>
      have joined : join [separator] (text :: next :: rest) =
          text ++ [separator] ++ join [separator] (next :: rest) := rfl
      rw [joined, List.mem_append, List.mem_append] at h
      rcases h with (h | h) | h
      · exact .inr ⟨text, List.mem_cons_self, h⟩
      · exact .inl (List.mem_singleton.1 h)
      · rcases ih h with same | ⟨other, hm, ho⟩
        · exact .inl same
        · exact .inr ⟨other, List.mem_cons_of_mem _ hm, ho⟩

/-- Spaces before a text are trimmed. -/
theorem trim_dropWhile_space (text : List Char) : trim (text.dropWhile (· == ' ')) = trim text := by
  induction text with
  | nil => rfl
  | cons c text ih =>
    by_cases hc : c = ' '
    · subst hc
      have blank : trimStart (' ' :: text) = trimStart text := List.dropWhile_cons_of_pos rfl
      rw [List.dropWhile_cons_of_pos rfl, ih, trim, trim, blank]
    · rw [List.dropWhile_cons_of_neg (by simpa using hc)]

end Text

namespace Comment

/-! ## The comment -/

/-- A line of a comment that says a text. -/
def starred (text : List Char) : List Char :=
  ' ' :: '*' :: if text.isEmpty then [] else ' ' :: text

/-- A comment that says one text a line. -/
def rendered (texts : List (List Char)) : List Char :=
  '/' :: '*' :: '*' :: '\n' :: (joinLines (texts.map starred) ++ [' ', '*', '/'])

/-- A text that can stand on a line of a comment: no line ends in it, and no comment. -/
structure Sayable (text : List Char) : Prop where
  newline : '\n' ∉ text
  carriage : '\r' ∉ text
  open_ : ¬['*', '/'] <:+: text

instance (text : List Char) : Decidable (Sayable text) :=
  decidable_of_iff ('\n' ∉ text ∧ '\r' ∉ text ∧ ¬['*', '/'] <:+: text)
    ⟨fun ⟨newline, carriage, open_⟩ => ⟨newline, carriage, open_⟩,
      fun ⟨newline, carriage, open_⟩ => ⟨newline, carriage, open_⟩⟩

variable {text cs : List Char} {texts : List (List Char)}

theorem rendered_eq (texts : List (List Char)) :
    rendered texts = (Written.lines [] (texts.map starred) [' ']).text := rfl

theorem Sayable.inner (h : Sayable text) : Inner (starred text) := by
  refine ⟨?_, [], _, by simp, rfl⟩
  have := h.newline
  unfold starred
  split <;> simp [this]

theorem Sayable.open_starred (h : Sayable text) : ¬['*', '/'] <:+: starred text := by
  have := h.open_
  unfold starred
  split <;> simp [List.infix_cons_iff, this]

/-- No comment ends in a text in which none ends, before a character that belongs to no end. -/
theorem ends_after {line before after : List Char} {c : Char} (star : c ≠ '*') (slash : c ≠ '/')
    (open_ : ¬['*', '/'] <:+: line) (h : line ++ c :: cs = before ++ '*' :: '/' :: after) :
    ∃ more, cs = more ++ '*' :: '/' :: after := by
  rcases List.append_eq_append_iff.1 h with ⟨more, -, rest⟩ | ⟨more, rfl, rest⟩
  · cases more with
    | nil => exact absurd (List.cons.inj rest).1 star
    | cons d more =>
      obtain ⟨-, rest⟩ := List.cons.inj rest
      exact ⟨more, rest⟩
  · rcases more with _ | ⟨d, _ | ⟨e, more⟩⟩
    · exact absurd (List.cons.inj rest).1.symm star
    · exact absurd (List.cons.inj (List.cons.inj rest).2).1.symm slash
    · cases rest
      exact absurd ⟨before, more, by simp⟩ open_

/-- No comment ends on lines on which none ends. -/
theorem ends_after_lines {lines : List (List Char)} {before after : List Char}
    (open_ : ∀ line ∈ lines, ¬['*', '/'] <:+: line)
    (h : joinLines lines ++ cs = before ++ '*' :: '/' :: after) :
    ∃ more, cs = more ++ '*' :: '/' :: after := by
  induction lines generalizing before with
  | nil => exact ⟨before, h⟩
  | cons line lines ih =>
    rw [joinLines_cons, List.append_assoc, List.cons_append] at h
    obtain ⟨more, rest⟩ := ends_after (by decide) (by decide) (open_ line List.mem_cons_self) h
    exact ih (fun other hm => open_ other (List.mem_cons_of_mem _ hm)) rest

theorem proper_rendered (sayable : ∀ text ∈ texts, Sayable text) :
    (Written.lines [] (texts.map starred) [' ']).Proper where
  ends before after h := by
    have open_ : ∀ line ∈ texts.map starred, ¬['*', '/'] <:+: line := by
      simpa using fun text hm => (sayable text hm).open_starred
    have opening : ¬['*', '/'] <:+: ['/', '*', '*'] := by decide
    obtain ⟨more, h⟩ := ends_after (by decide) (by decide) opening h
    obtain ⟨more, h⟩ := ends_after_lines open_ h
    rcases more with _ | ⟨c, _ | ⟨d, more⟩⟩
    · cases h
    · cases h
      rfl
    · have lengths := congrArg List.length h
      simp only [List.length_append, List.length_cons, List.length_nil] at lengths
      omega
  lines := ⟨by simp, by simpa using fun text hm => (sayable text hm).inner, by simp⟩

/-- The comment is matched as a whole. -/
theorem after?_rendered (ne : texts ≠ []) (sayable : ∀ text ∈ texts, Sayable text) :
    after? (rendered texts) = some [] := by
  have stops : ¬GoesOn ([' '] ++ ['*', '/']) := by
    rintro ⟨inner, last, rest, some, -, -, split⟩
    obtain ⟨line, inner, rfl⟩ := List.exists_cons_of_ne_nil some
    have ends : '\n' ∈ [' '] ++ ['*', '/'] := by
      rw [split, joinLines_cons]
      simp
    exact absurd ends (by decide)
  have matched := (after?_lines (proper_rendered sayable) []).2
    ⟨⟨[], by simp, .inl rfl⟩, by simpa using ne, by decide, stops⟩
  rwa [List.append_nil, ← rendered_eq] at matched

theorem count_joinLines {lines : List (List Char)} (h : ∀ line ∈ lines, '\n' ∉ line) :
    (joinLines lines).count '\n' = lines.length := by
  induction lines with
  | nil => rfl
  | cons line lines ih =>
    have rest := ih fun other hm => h other (List.mem_cons_of_mem _ hm)
    rw [joinLines_cons, List.count_append, List.count_cons_self, rest,
      List.count_eq_zero.2 (h line List.mem_cons_self), List.length_cons, Nat.zero_add]

/-- It is the only comment of its text. -/
theorem ofSource_rendered (ne : texts ≠ []) (sayable : ∀ text ∈ texts, Sayable text) :
    ofSource (rendered texts) =
      [⟨String.ofList (rendered texts), 0, 1, texts.length + 2, ""⟩] := by
  have lines : (rendered texts).count '\n' = texts.length + 1 := by
    have inner : (joinLines (texts.map starred)).count '\n' = (texts.map starred).length :=
      count_joinLines (by simpa using fun text hm => (sayable text hm).inner.1)
    unfold rendered
    simp [inner]
  have found := ofSource_of_match (by simp [rendered]) (after?_rendered ne sayable)
  have last : 1 + (texts.length + 1) = texts.length + 2 := by omega
  rw [found, lines, last]

/-! ## The lines that it says -/

/-- No closing mark begins on a line on which no comment ends. -/
theorem afterEnd?_of_open {line : List Char} (open_ : ¬['*', '/'] <:+: line) (cs : List Char) :
    afterEnd? (line ++ '\n' :: cs) = none := by
  by_contra some
  obtain ⟨rest, ended⟩ := Option.ne_none_iff_exists'.1 some
  obtain ⟨⟨blanks, blank, split⟩, -⟩ := afterEnd?_eq_some_iff.1 ended
  have early : '\n' ∉ blanks ++ ['*', '/'] := by
    intro hm
    have : '\n' ∈ blanks := by simpa using hm
    exact absurd (blank _ this) (by decide)
  have start : blanks ++ ['*', '/'] ++ rest = line ++ '\n' :: cs := by simp [split]
  obtain ⟨more, rfl, -⟩ := exists_start_of_append_eq early start
  exact open_ ⟨blanks, more, by simp⟩

/-- Of a line its star and the spaces after that are left out. -/
theorem afterMark?_starred (h : Sayable text) (cs : List Char) :
    afterMark? true (starred text ++ '\n' :: cs) =
      some (text.dropWhile (· == ' ') ++ '\n' :: cs) := by
  have star : (starred text ++ '\n' :: cs).dropWhile isIndent =
      '*' :: ((if text.isEmpty then [] else ' ' :: text) ++ '\n' :: cs) := rfl
  have closing : afterClosingMark? (starred text ++ '\n' :: cs) = none :=
    afterEnd?_of_open h.open_starred cs
  have leading : afterLeadingMark? (starred text ++ '\n' :: cs) =
      some (text.dropWhile (· == ' ') ++ '\n' :: cs) := by
    have spaced := dropWhile_append_cons (p := (· == ' ')) (c := '\n') rfl
    rw [afterLeadingMark?_of_star star, if_pos (by rfl)]
    cases text with
    | nil => rfl
    | cons c text => exact congrArg some (spaced (' ' :: c :: text) cs)
  rw [afterMark?, closing, leading]
  rfl

/-- What a line says is kept. -/
theorem dropMarks_line {line : List Char} (hn : '\n' ∉ line) (open_ : ¬['*', '/'] <:+: line)
    (cs : List Char) :
    dropMarks 0 false (line ++ '\n' :: cs) = line ++ dropMarks 0 false ('\n' :: cs) := by
  induction line with
  | nil => rfl
  | cons c line ih =>
    have hc : c ≠ '\n' := fun same => hn (same ▸ List.mem_cons_self)
    have kept : afterMark? false (c :: (line ++ '\n' :: cs)) = none := by
      rw [afterMark?_false, afterClosingMark?_cons hc]
      exact afterEnd?_of_open open_ cs
    rw [List.cons_append, dropMarks_of_none kept, beq_eq_false_iff_ne.2 hc,
      ih (fun hm => hn (List.mem_cons_of_mem _ hm))
        fun inside => open_ (inside.trans (List.suffix_cons c line).isInfix)]
    rfl

/-- What is left of a line is what it says, without the spaces before it. -/
theorem dropMarks_starred (h : Sayable text) (cs : List Char) :
    dropMarks 0 true (starred text ++ '\n' :: cs) =
      text.dropWhile (· == ' ') ++ dropMarks 0 false ('\n' :: cs) := by
  have marked := afterMark?_starred h cs
  have said : text.dropWhile (· == ' ') <:+ text := List.dropWhile_suffix _
  obtain ⟨mark, ne, split⟩ := exists_of_afterMark? marked
  -- The mark is a part of the line, so no line ends with it.
  have whole : starred text = mark ++ text.dropWhile (· == ' ') := by
    rw [← List.append_assoc] at split
    exact List.append_cancel_right split
  have inside : (mark.getLast? == some '\n') = false := by
    refine beq_eq_false_iff_ne.2 fun last => h.inner.1 ?_
    rw [whole]
    exact List.mem_append_left _ (List.mem_of_getLast? last)
  rw [split] at marked ⊢
  rw [dropMarks_of_mark ne marked, inside]
  exact dropMarks_line (fun hm => h.newline (said.subset hm))
    (fun part => h.open_ (part.trans said.isInfix)) cs

/-- What is left of the lines of a comment is what they say. -/
theorem dropMarks_lines (ne : texts ≠ []) (sayable : ∀ text ∈ texts, Sayable text) :
    dropMarks 0 true (joinLines (texts.map starred) ++ [' ', '*', '/']) =
      join ['\n'] (texts.map (·.dropWhile (· == ' '))) := by
  induction texts with
  | nil => exact absurd rfl ne
  | cons text rest ih =>
    have here := sayable text List.mem_cons_self
    rw [List.map_cons, joinLines_cons, List.append_assoc, List.cons_append, dropMarks_starred here]
    cases rest with
    | nil =>
      have closed : dropMarks 0 false ('\n' :: (joinLines [] ++ [' ', '*', '/'])) = [] := by decide
      rw [List.map_nil, closed, List.append_nil]
      rfl
    | cons next rest =>
      have below := sayable next (by simp)
      have kept : afterMark? false
          ('\n' :: (joinLines ((next :: rest).map starred) ++ [' ', '*', '/'])) = none := by
        rw [List.map_cons, joinLines_cons, List.append_assoc, List.cons_append, afterMark?_false,
          afterClosingMark?_newline]
        exact afterEnd?_of_open below.open_starred _
      rw [dropMarks_of_none kept, beq_self_eq_true,
        ih (by simp) fun other hm => sayable other (List.mem_cons_of_mem _ hm)]
      simp [join]

/-- Nothing is trimmed off the comment. -/
theorem tight_rendered (texts : List (List Char)) : Tight (rendered texts) := by
  have last : (rendered texts).getLast? = some '/' := by
    simp [rendered, List.getLast?_cons]
  constructor
  · rintro c ⟨⟩
    rfl
  · rw [last]
    rintro c ⟨⟩
    rfl

/-- Without its marks the comment is what its lines say. -/
theorem removeMarks_rendered (ne : texts ≠ []) (sayable : ∀ text ∈ texts, Sayable text) :
    removeMarks (rendered texts) = join ['\n'] (texts.map (·.dropWhile (· == ' '))) := by
  have opening : dropMarks 0 true (rendered texts) =
      dropMarks 0 true (joinLines (texts.map starred) ++ [' ', '*', '/']) := by
    have ne : ['/', '*', '*', '\n'] ≠ [] := by simp
    exact dropMarks_of_mark ne rfl
  rw [removeMarks, (tight_rendered texts).trim_eq, opening, dropMarks_lines ne sayable]

/-- Lines written as a comment are the only comment of its text, which is the whole of it. They are
read back from it as they are but for the blanks around each. -/
theorem lines_rendered (ne : texts ≠ []) (sayable : ∀ text ∈ texts, Sayable text) :
    ofSource (rendered texts) =
        [⟨String.ofList (rendered texts), 0, 1, texts.length + 2, ""⟩] ∧
      linesOf (removeMarks (rendered texts)) = texts.map trim := by
  refine ⟨ofSource_rendered ne sayable, ?_⟩
  have kept : ∀ line ∈ texts.map (·.dropWhile (· == ' ')), '\n' ∉ line ∧ '\r' ∉ line := by
    intro line hm
    obtain ⟨text, ht, rfl⟩ := List.mem_map.1 hm
    have said : text.dropWhile (· == ' ') <:+ text := List.dropWhile_suffix _
    exact ⟨fun hc => (sayable text ht).newline (said.subset hc),
      fun hc => (sayable text ht).carriage (said.subset hc)⟩
  have carriage : (join ['\n'] (texts.map (·.dropWhile (· == ' ')))).filter (· != '\r') =
      join ['\n'] (texts.map (·.dropWhile (· == ' '))) := by
    refine List.filter_eq_self.2 fun c hc => ?_
    rw [bne_iff_ne]
    rintro rfl
    rcases mem_join hc with same | ⟨line, hm, inside⟩
    · cases same
    · exact (kept line hm).2 inside
  rw [removeMarks_rendered ne sayable, linesOf, carriage,
    splitOn_join (by simpa using ne) fun line hm => (kept line hm).1, List.map_map]
  exact List.map_congr_left fun text _ => trim_dropWhile_space text

/-- Lines that look like marks, with blanks around them or nothing in them. -/
def marked : List (List Char) :=
  ["* a".toList, [], "/** b".toList, " \t".toList, " c *".toList, ['/']]

/-- Each of them is read back without these blanks. -/
theorem lines_rendered_marked :
    (marked ≠ [] ∧ ∀ text ∈ marked, Sayable text) ∧
      ofSource (rendered marked) = [⟨String.ofList (rendered marked), 0, 1, 8, ""⟩] ∧
      linesOf (removeMarks (rendered marked)) =
        ["* a".toList, [], "/** b".toList, [], "c *".toList, ['/']] := by
  have sayable : ∀ text ∈ marked, Sayable text := by decide
  obtain ⟨found, lines⟩ := lines_rendered (by decide) sayable
  exact ⟨⟨by decide, sayable⟩, found, lines.trans (by decide)⟩

end Comment

end Docblock
