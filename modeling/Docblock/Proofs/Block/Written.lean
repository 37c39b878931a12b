import Docblock.Block.Comment
import Mathlib.Data.List.Infix

/-!
# What is matched as a comment

A comment that stands on one line is matched as it is written, up to where it ends first. A block of
several lines is matched as it is written if nothing else stands on its first line and its last, at
least one line is between them, and no line below could end it as well: lines after its end that
begin with a star are taken for lines of its own when another end follows (`after?_eq_some_iff`).

The block is looked for first, and as many lines as possible are taken for it. So whether a comment
is matched as it is written depends on the text behind it, which is why `Written.Matched` has that
text as a parameter. The functions of the scan say how far they come, and each is turned into a
statement about the shape of the text before they are put together.

At the end there are the equations of the scan itself, comment by comment (`scan_of_match`,
`scan_of_none`). The files about layouts, line ends and places use these and do not open the scan.
-/

namespace Docblock.Comment

open Text

/-! ## Comments as they are written -/

/-- A comment as it is written: on one line, or on a first line, lines between, and a last. -/
inductive Written where
  | inline (body : List Char)
  | lines (first : List Char) (inner : List (List Char)) (last : List Char)

/-- Lines, each with its end. -/
def joinLines (lines : List (List Char)) : List Char := lines.flatMap (· ++ ['\n'])

/-- The text of a comment, with the marks around it. -/
def Written.text : Written → List Char
  | .inline body => '/' :: '*' :: '*' :: body ++ ['*', '/']
  | .lines first inner last =>
    '/' :: '*' :: '*' :: first ++ '\n' :: (joinLines inner ++ (last ++ ['*', '/']))

/-- A line that begins with a star after a space. -/
def Starred (line : List Char) : Prop :=
  ∃ indent text, (∀ c ∈ indent, isIndent c = true) ∧ line = indent ++ ' ' :: '*' :: text

/-- A line between the first and the last of a block. -/
def Inner (line : List Char) : Prop := '\n' ∉ line ∧ Starred line

/-- A comment that ends where it ends first, with a star at the start of every line between its
first and its last. -/
structure Written.Proper (comment : Written) : Prop where
  ends : ∀ before after, comment.text = before ++ '*' :: '/' :: after → after = []
  lines : match comment with
    | .inline body => '\n' ∉ body
    | .lines first inner last => '\n' ∉ first ∧ (∀ line ∈ inner, Inner line) ∧ '\n' ∉ last

/-- A comment ends where it ends first if no other part of its text is an end. -/
theorem ends_of_tails {text : List Char}
    (h : ∀ part ∈ text.tails, ['*', '/'] <+: part → part.length = 2) (before after : List Char)
    (split : text = before ++ '*' :: '/' :: after) : after = [] := by
  have suffix : '*' :: '/' :: after ∈ text.tails := (List.mem_tails _ _).2 ⟨before, split.symm⟩
  simpa using h _ suffix ⟨after, rfl⟩

/-! ## What is matched -/

/-- Nothing but blanks up to the end of a line. -/
def Bare (line : List Char) : Prop :=
  ∃ blanks, (∀ c ∈ blanks, isIndent c = true) ∧ (line = blanks ∨ line = blanks ++ ['\r'])

/-- Nothing but blanks and stars. -/
def Closing (line : List Char) : Prop := ∀ c ∈ line, (isIndent c || c == '*') = true

instance (line : List Char) : Decidable (Closing line) := List.decidableBAll _ line

/-- A text that goes on with the lines of a block, one at least, and an end. -/
def GoesOn (cs : List Char) : Prop :=
  ∃ inner last rest, inner ≠ [] ∧ (∀ line ∈ inner, Inner line) ∧ Closing last ∧
    cs = joinLines inner ++ (last ++ '*' :: '/' :: rest)

/-- A comment is matched as it is written, where `rest` follows it: a block has nothing else on its
first line and its last and a line between them, and does not go on as one through `rest`. -/
def Written.Matched (rest : List Char) : Written → Prop
  | .inline _ => True
  | .lines first inner last =>
    Bare first ∧ inner ≠ [] ∧ Closing last ∧ ¬GoesOn (last ++ '*' :: '/' :: rest)

/-! ## Lines -/

section

variable {cs rest : List Char}

theorem joinLines_cons (line : List Char) (lines : List (List Char)) :
    joinLines (line :: lines) = line ++ '\n' :: joinLines lines := by
  simp [joinLines]

/-- What a character does not stand in is the beginning of what is before the character. -/
theorem exists_start_of_append_eq {c : Char} {start before after : List Char} (hs : c ∉ start)
    (h : start ++ rest = before ++ c :: after) :
    ∃ more, before = start ++ more ∧ rest = more ++ c :: after := by
  rcases List.append_eq_append_iff.1 h with ⟨more, hbefore, hrest⟩ | ⟨more, hstart, hafter⟩
  · exact ⟨more, hbefore, hrest⟩
  · cases more with
    | nil => exact ⟨[], by simpa using hstart.symm, by simpa using hafter.symm⟩
    | cons d more =>
      obtain ⟨rfl, -⟩ := List.cons.inj hafter
      exact absurd (by simp [hstart]) hs

/-- A text has one first line. -/
theorem line_unique {line other after after' : List Char} (hl : '\n' ∉ line) (ho : '\n' ∉ other)
    (h : line ++ '\n' :: after = other ++ '\n' :: after') : line = other ∧ after = after' := by
  obtain ⟨more, hother, hrest⟩ := exists_start_of_append_eq hl h
  cases more with
  | nil => exact ⟨by simpa using hother.symm, by simpa using hrest⟩
  | cons c more =>
    obtain ⟨rfl, -⟩ := List.cons.inj hrest
    exact absurd (by simp [hother]) ho

theorem Bare.not_mem {line : List Char} (h : Bare line) {c : Char} (hi : isIndent c = false)
    (hc : c ≠ '\r') : c ∉ line := by
  obtain ⟨blanks, all, bare⟩ := h
  have off : c ∉ blanks := by
    intro hm
    rw [all c hm] at hi
    cases hi
  rcases bare with rfl | rfl
  · exact off
  · simpa [hc] using off

theorem Closing.newline_not_mem {line : List Char} (h : Closing line) : '\n' ∉ line := by
  intro hm
  exact absurd (h _ hm) (by decide)

/-- A text up to the first character that a property does not hold of. -/
theorem span_append {p : Char → Bool} {start : List Char} (all : ∀ c ∈ start, p c = true)
    {c : Char} (hc : p c = false) (rest : List Char) :
    (start ++ c :: rest).takeWhile p = start ∧ (start ++ c :: rest).dropWhile p = c :: rest := by
  rw [List.takeWhile_append_of_pos all, List.dropWhile_append_of_pos all]
  simp [hc]

/-- A text in which a character stands is what is before it, and what is after it. -/
theorem exists_line {cs : List Char} (h : '\n' ∈ cs) :
    ∃ line, '\n' ∉ line ∧ cs = line ++ '\n' :: (cs.dropWhile (· != '\n')).drop 1 := by
  induction cs with
  | nil => cases h
  | cons c cs ih =>
    by_cases hc : c = '\n'
    · subst hc
      exact ⟨[], by simp, by simp⟩
    · obtain ⟨line, hl, split⟩ := ih ((List.mem_cons.1 h).resolve_left (Ne.symm hc))
      refine ⟨c :: line, by simp [hl, Ne.symm hc], ?_⟩
      rw [List.dropWhile_cons_of_pos (by simpa using hc), List.cons_append, ← split]

/-- An inner line is one that begins with a star after a space. -/
theorem afterInnerLine?_eq_some_iff :
    afterInnerLine? cs = some rest ↔ ∃ line, Inner line ∧ cs = line ++ '\n' :: rest := by
  constructor
  · intro h
    unfold afterInnerLine? at h
    split at h
    · rename_i cond
      obtain ⟨space, star, ends⟩ := cond
      cases h
      obtain ⟨line, hl, split⟩ := exists_line (List.contains_iff_mem.1 ends)
      obtain ⟨indent, htake⟩ := List.getLast?_eq_some_iff.1 space
      obtain ⟨text, hdrop⟩ := List.head?_eq_some_iff.1 star
      have blank : ∀ c ∈ indent ++ [' '], isIndent c = true := by
        rw [← htake]
        exact List.all_eq_true.1 List.all_takeWhile
      have start : indent ++ [' ', '*'] ++ text =
          line ++ '\n' :: (cs.dropWhile (· != '\n')).drop 1 := by
        rw [← split, ← cs.takeWhile_append_dropWhile (p := isIndent), htake, hdrop]
        simp
      -- The star stands before the end of the line.
      have early : '\n' ∉ indent ++ [' ', '*'] := by
        intro hm
        have : '\n' ∈ indent := by simpa using hm
        exact absurd (blank _ (List.mem_append_left _ this)) (by decide)
      obtain ⟨more, hline, -⟩ := exists_start_of_append_eq early start
      have starred : Starred line :=
        ⟨indent, more, fun c hc => blank c (List.mem_append_left _ hc), by simp [hline]⟩
      exact ⟨line, ⟨hl, starred⟩, split⟩
    · cases h
  · rintro ⟨line, ⟨hl, indent, text, blank, rfl⟩, rfl⟩
    have blanks : ∀ c ∈ indent ++ [' '], isIndent c = true := by
      intro c hc
      rcases List.mem_append.1 hc with hc | hc
      · exact blank c hc
      · rw [List.mem_singleton.1 hc]
        rfl
    obtain ⟨htake, hdrop⟩ := span_append blanks (c := '*') rfl (text ++ '\n' :: rest)
    have line_eq : indent ++ ' ' :: '*' :: text ++ '\n' :: rest =
        indent ++ [' '] ++ '*' :: (text ++ '\n' :: rest) := by simp
    have skip : ((indent ++ ' ' :: '*' :: text ++ '\n' :: rest).dropWhile (· != '\n')) =
        '\n' :: rest := by
      refine (span_append (fun c hm => ?_) (by simp) rest).2
      simp only [bne_iff_ne]
      rintro rfl
      exact hl hm
    unfold afterInnerLine?
    rw [skip, line_eq, htake, hdrop, if_pos ⟨by simp, rfl, by simp⟩]
    rfl

/-- What is left after the characters that a property holds of. -/
theorem drop_length_takeWhile (p : Char → Bool) (cs : List Char) :
    cs.drop (cs.takeWhile p).length = cs.dropWhile p := by
  calc cs.drop (cs.takeWhile p).length
      = (cs.takeWhile p ++ cs.dropWhile p).drop (cs.takeWhile p).length := by
        rw [List.takeWhile_append_dropWhile]
    _ = cs.dropWhile p := List.drop_left

/-- The end of a block comes after blanks and stars. -/
theorem afterClosing?_eq_some_iff :
    afterClosing? cs = some rest ↔ ∃ last, Closing last ∧ cs = last ++ '*' :: '/' :: rest := by
  constructor
  · intro h
    unfold afterClosing? at h
    dsimp only at h
    split at h
    · rename_i cond
      obtain ⟨star, slash⟩ := cond
      cases h
      rw [drop_length_takeWhile] at slash ⊢
      obtain ⟨last, htake⟩ := List.getLast?_eq_some_iff.1 star
      obtain ⟨rest, hdrop⟩ := List.head?_eq_some_iff.1 slash
      have marks : Closing (last ++ ['*']) := by
        rw [← htake]
        exact List.all_eq_true.1 List.all_takeWhile
      refine ⟨last, fun c hc => marks c (List.mem_append_left _ hc), ?_⟩
      calc cs = last ++ ['*'] ++ '/' :: rest := by
            rw [← htake, ← hdrop, List.takeWhile_append_dropWhile]
        _ = last ++ '*' :: '/' :: rest := by simp
        _ = _ := by rw [hdrop, List.drop_one, List.tail_cons]
    · cases h
  · rintro ⟨last, marks, rfl⟩
    have run : Closing (last ++ ['*']) := by
      intro c hc
      rcases List.mem_append.1 hc with hc | hc
      · exact marks c hc
      · rw [List.mem_singleton.1 hc]
        rfl
    have split : last ++ '*' :: '/' :: rest = last ++ ['*'] ++ '/' :: rest := by simp
    obtain ⟨htake, -⟩ := span_append run (c := '/') rfl rest
    unfold afterClosing?
    dsimp only
    rw [split, htake, List.drop_left, if_pos ⟨by simp, rfl⟩]
    rfl

/-- The lines after an inner line are tried before its end is. -/
theorem afterLines?_of_inner {line : List Char} (h : Inner line) (cs : List Char) :
    afterLines? (line ++ '\n' :: cs) = (afterLines? cs).or (afterClosing? cs) := by
  have inner : afterInnerLine? (line ++ '\n' :: cs) = some cs :=
    afterInnerLine?_eq_some_iff.2 ⟨line, h, rfl⟩
  rw [afterLines?]
  split
  · rename_i none
    cases none.symm.trans inner
  · rename_i rest found
    cases found.symm.trans inner
    exact Option.orElse_eq_or

/-- A block that is matched goes on with inner lines and an end. -/
theorem exists_of_afterLines? (h : afterLines? cs = some rest) :
    ∃ inner last, inner ≠ [] ∧ (∀ line ∈ inner, Inner line) ∧ Closing last ∧
      cs = joinLines inner ++ (last ++ '*' :: '/' :: rest) := by
  induction hn : cs.length using Nat.strongRecOn generalizing cs with
  | _ n ih =>
    subst hn
    cases first : afterInnerLine? cs with
    | none =>
      rw [afterLines?] at h
      split at h
      · cases h
      · rename_i found
        cases first.symm.trans found
    | some after =>
      have less := length_afterInnerLine_lt first
      obtain ⟨line, inner, rfl⟩ := afterInnerLine?_eq_some_iff.1 first
      rw [afterLines?_of_inner inner] at h
      cases more : afterLines? after with
      | some other =>
        rw [more] at h
        cases h
        obtain ⟨lines, last, -, all, closing, rfl⟩ := ih _ less more rfl
        refine ⟨line :: lines, last, by simp, ?_, closing, by simp [joinLines_cons]⟩
        simpa [inner] using all
      | none =>
        rw [more] at h
        obtain ⟨last, closing, rfl⟩ := afterClosing?_eq_some_iff.1 h
        exact ⟨[line], last, by simp, by simpa using inner, closing, by simp [joinLines]⟩

/-- A block is matched where the text goes on as one. -/
theorem afterLines?_eq_none_iff : afterLines? cs = none ↔ ¬GoesOn cs := by
  constructor
  · rintro none ⟨inner, last, rest, ne, all, closing, rfl⟩
    have ended : afterClosing? (last ++ '*' :: '/' :: rest) = some rest :=
      afterClosing?_eq_some_iff.2 ⟨last, closing, rfl⟩
    induction inner with
    | nil => exact ne rfl
    | cons line lines ih =>
      rw [joinLines_cons, List.append_assoc, List.cons_append,
        afterLines?_of_inner (all line List.mem_cons_self)] at none
      obtain ⟨more, none⟩ := Option.or_eq_none_iff.1 none
      cases lines with
      | nil => cases none.symm.trans ended
      | cons next lines =>
        exact ih (by simp) (fun other hm => all other (List.mem_cons_of_mem _ hm)) more
  · intro stops
    cases h : afterLines? cs with
    | none => rfl
    | some rest =>
      obtain ⟨inner, last, ne, all, closing, split⟩ := exists_of_afterLines? h
      exact absurd ⟨inner, last, rest, ne, all, closing, split⟩ stops

/-- After inner lines in which no comment ends, a block ends at the end of what follows. -/
theorem afterLines?_joinLines {inner : List (List Char)} (ne : inner ≠ [])
    (all : ∀ line ∈ inner, Inner line) (open_ : ∀ line ∈ inner, ¬['*', '/'] <:+: line)
    (cs : List Char) :
    afterLines? (joinLines inner ++ cs) = (afterLines? cs).or (afterClosing? cs) := by
  induction inner with
  | nil => exact absurd rfl ne
  | cons line lines ih =>
    rw [joinLines_cons, List.append_assoc, List.cons_append,
      afterLines?_of_inner (all line List.mem_cons_self)]
    cases lines with
    | nil => rfl
    | cons next lines =>
      have rest := ih (by simp) (fun other hm => all other (List.mem_cons_of_mem _ hm))
        fun other hm => open_ other (List.mem_cons_of_mem _ hm)
      -- The next line holds no end, so no block ends at its start.
      have unended : afterClosing? (joinLines (next :: lines) ++ cs) = none := by
        by_contra some
        obtain ⟨after, ended⟩ := Option.ne_none_iff_exists'.1 some
        obtain ⟨last, closing, split⟩ := afterClosing?_eq_some_iff.1 ended
        rw [joinLines_cons, List.append_assoc, List.cons_append] at split
        have early : '\n' ∉ last ++ ['*', '/'] := by
          simpa using closing.newline_not_mem
        have start : last ++ ['*', '/'] ++ after = next ++ '\n' :: (joinLines lines ++ cs) := by
          simp [split]
        obtain ⟨more, hnext, -⟩ := exists_start_of_append_eq early start
        exact open_ next (by simp) ⟨last, more, by simp [hnext]⟩
      rw [rest, unended, Option.or_none]

/-- A block of several lines opens with a line on which nothing else stands. -/
theorem afterBlock?_eq_some_iff : afterBlock? cs = some rest ↔
    ∃ first after, Bare first ∧ cs = first ++ '\n' :: after ∧ afterLines? after = some rest := by
  constructor
  · intro h
    unfold afterBlock? at h
    have blank : ∀ c ∈ cs.takeWhile isIndent, isIndent c = true :=
      List.all_eq_true.1 List.all_takeWhile
    have whole := cs.takeWhile_append_dropWhile (p := isIndent)
    split at h
    · rename_i after hdrop
      rw [hdrop] at whole
      exact ⟨_, after, ⟨_, blank, .inl rfl⟩, whole.symm, h⟩
    · rename_i after hdrop
      rw [hdrop] at whole
      exact ⟨_, after, ⟨_, blank, .inr rfl⟩, by simp [whole], h⟩
    · cases h
  · rintro ⟨first, after, ⟨blanks, blank, rfl | rfl⟩, rfl, h⟩
    · unfold afterBlock?
      rw [(span_append blank (c := '\n') rfl after).2]
      exact h
    · have split : blanks ++ ['\r'] ++ '\n' :: after = blanks ++ '\r' :: '\n' :: after := by simp
      unfold afterBlock?
      rw [split, (span_append blank (c := '\r') rfl _).2]
      exact h

/-- A block does not open with a line that has another line end or a star in it. -/
theorem afterBlock?_eq_none {first after : List Char} (hn : '\n' ∉ first) (h : ¬Bare first) :
    afterBlock? (first ++ '\n' :: after) = none := by
  by_contra some
  obtain ⟨rest, matched⟩ := Option.ne_none_iff_exists'.1 some
  obtain ⟨other, after', bare, split, -⟩ := afterBlock?_eq_some_iff.1 matched
  obtain ⟨rfl, -⟩ := line_unique hn (bare.not_mem rfl (by decide)) split
  exact h bare

theorem afterInline?_cons {c : Char} (h : ¬(c = '*' ∧ cs.head? = some '/')) :
    afterInline? (c :: cs) = if c = '\n' then none else afterInline? cs := by
  rw [afterInline?.eq_def]
  split
  · rename_i heq
    cases heq
    exact absurd ⟨rfl, rfl⟩ h
  · rename_i heq
    cases heq
    rfl
  · rename_i heq
    cases heq

/-- A line on which no comment ends is not matched. -/
theorem afterInline?_eq_none {line : List Char} (open_ : ¬['*', '/'] <:+: line) (cs : List Char) :
    afterInline? (line ++ '\n' :: cs) = none := by
  induction line with
  | nil => exact afterInline?_cons (by simp)
  | cons c line ih =>
    have here : ¬(c = '*' ∧ (line ++ '\n' :: cs).head? = some '/') := by
      rintro ⟨rfl, slash⟩
      cases line with
      | nil => exact absurd slash (by simp)
      | cons d line =>
        obtain rfl : d = '/' := by simpa using slash
        exact open_ ⟨[], line, rfl⟩
    have rest : ¬['*', '/'] <:+: line := fun h => open_ (h.trans (List.suffix_cons c line).isInfix)
    rw [List.cons_append, afterInline?_cons here, ih rest, ite_self]

/-- A comment on one line is matched up to where it ends first. -/
theorem afterInline?_eq_some {body : List Char} (hn : '\n' ∉ body)
    (ends : ∀ before after, body ++ ['*', '/'] = before ++ '*' :: '/' :: after → after = [])
    (rest : List Char) : afterInline? (body ++ '*' :: '/' :: rest) = some rest := by
  induction body with
  | nil => rfl
  | cons c body ih =>
    have here : ¬(c = '*' ∧ (body ++ '*' :: '/' :: rest).head? = some '/') := by
      rintro ⟨rfl, slash⟩
      cases body with
      | nil => exact absurd slash (by simp)
      | cons d body =>
        obtain rfl : d = '/' := by simpa using slash
        exact absurd (ends [] (body ++ ['*', '/']) rfl) (by simp)
    have hc : c ≠ '\n' := by
      rintro rfl
      exact hn List.mem_cons_self
    rw [List.cons_append, afterInline?_cons here, if_neg hc]
    refine ih (fun hm => hn (List.mem_cons_of_mem _ hm)) fun before after split => ?_
    exact ends (c :: before) after (by simp [split])

/-! ## One comment -/

theorem joinLines_append (lines more : List (List Char)) :
    joinLines (lines ++ more) = joinLines lines ++ joinLines more := List.flatMap_append

/-- No comment ends in a comment before its last characters. -/
theorem Written.Proper.unended {comment : Written} (h : comment.Proper)
    (before part after : List Char) (split : comment.text = before ++ part ++ after)
    (ne : after ≠ []) : ¬['*', '/'] <:+: part := by
  rintro ⟨start, more, rfl⟩
  have ended := h.ends (before ++ start) (more ++ after) (by simp [split])
  exact ne (List.append_eq_nil_iff.1 ended).2

theorem after?_mark (cs : List Char) :
    after? ('/' :: '*' :: '*' :: cs) = (afterBlock? cs).or (afterInline? cs) :=
  Option.orElse_eq_or

theorem after?_inline {body : List Char} (h : (Written.inline body).Proper) (rest : List Char) :
    after? ((Written.inline body).text ++ rest) = some rest := by
  have hn : '\n' ∉ body := h.lines
  have block : afterBlock? (body ++ '*' :: '/' :: rest) = none := by
    by_contra some
    obtain ⟨other, matched⟩ := Option.ne_none_iff_exists'.1 some
    obtain ⟨first, after, bare, split, -⟩ := afterBlock?_eq_some_iff.1 matched
    -- The star of the end would stand on the first line.
    have early : '\n' ∉ body ++ ['*', '/'] := by simpa using hn
    have start : body ++ ['*', '/'] ++ rest = first ++ '\n' :: after := by simpa using split
    obtain ⟨more, rfl, -⟩ := exists_start_of_append_eq early start
    exact bare.not_mem (c := '*') rfl (by decide) (by simp)
  have inline : afterInline? (body ++ '*' :: '/' :: rest) = some rest := by
    refine afterInline?_eq_some hn (fun before after split => ?_) rest
    exact h.ends ('/' :: '*' :: '*' :: before) after (by simp [Written.text, split])
  have text : (Written.inline body).text ++ rest =
      '/' :: '*' :: '*' :: (body ++ '*' :: '/' :: rest) := by
    simp [Written.text]
  rw [text, after?_mark, block, inline, Option.none_or]

/-- What goes on after a last line ends later than that line. -/
theorem length_lt_of_afterLines? {last : List Char} (hn : '\n' ∉ last) {after : List Char}
    (h : afterLines? (last ++ '*' :: '/' :: rest) = some after) : after.length < rest.length := by
  obtain ⟨inner, other, ne, -, -, split⟩ := exists_of_afterLines? h
  obtain ⟨line, inner, rfl⟩ := List.exists_cons_of_ne_nil ne
  have early : '\n' ∉ last ++ ['*', '/'] := by simpa using hn
  have start : last ++ ['*', '/'] ++ rest =
      line ++ '\n' :: (joinLines inner ++ (other ++ '*' :: '/' :: after)) := by
    simpa [joinLines_cons] using split
  obtain ⟨more, -, rfl⟩ := exists_start_of_append_eq early start
  simp only [List.length_append, List.length_cons]
  omega

theorem afterClosing?_last {last : List Char} :
    afterClosing? (last ++ '*' :: '/' :: rest) = some rest ↔ Closing last := by
  rw [afterClosing?_eq_some_iff]
  constructor
  · rintro ⟨other, closing, split⟩
    rw [List.append_cancel_right split]
    exact closing
  · intro closing
    exact ⟨last, closing, rfl⟩

/-- After the inner lines of a block nothing but its own last line may end it. -/
theorem afterLines?_last {inner : List (List Char)} {last : List Char}
    (hinner : ∀ line ∈ inner, Inner line) (open_ : ∀ line ∈ inner, ¬['*', '/'] <:+: line)
    (hlast : '\n' ∉ last) (rest : List Char) :
    afterLines? (joinLines inner ++ (last ++ '*' :: '/' :: rest)) = some rest ↔
      inner ≠ [] ∧ Closing last ∧ ¬GoesOn (last ++ '*' :: '/' :: rest) := by
  have further : afterLines? (last ++ '*' :: '/' :: rest) ≠ some rest := by
    intro h
    exact absurd (length_lt_of_afterLines? hlast h) (Nat.lt_irrefl _)
  by_cases ne : inner = []
  · subst ne
    simpa [joinLines] using further
  rw [afterLines?_joinLines ne hinner open_]
  cases below : afterLines? (last ++ '*' :: '/' :: rest) with
  | none =>
    have stops := afterLines?_eq_none_iff.1 below
    rw [Option.none_or, afterClosing?_last]
    simp [ne, stops]
  | some after =>
    have goes : GoesOn (last ++ '*' :: '/' :: rest) := by
      by_contra stops
      cases below.symm.trans (afterLines?_eq_none_iff.2 stops)
    rw [below] at further
    simpa [goes] using further

theorem after?_lines {first last : List Char} {inner : List (List Char)}
    (h : (Written.lines first inner last).Proper) (rest : List Char) :
    after? ((Written.lines first inner last).text ++ rest) = some rest ↔
      (Written.lines first inner last).Matched rest := by
  obtain ⟨hfirst, hinner, hlast⟩ := h.lines
  have open_first : ¬['*', '/'] <:+: first := by
    refine h.unended ['/', '*', '*'] first ('\n' :: (joinLines inner ++ (last ++ ['*', '/']))) ?_
      (by simp)
    simp [Written.text]
  have open_inner : ∀ line ∈ inner, ¬['*', '/'] <:+: line := by
    intro line hm
    obtain ⟨lines, more, rfl⟩ := List.append_of_mem hm
    refine h.unended ('/' :: '*' :: '*' :: first ++ '\n' :: joinLines lines) line
      ('\n' :: (joinLines more ++ (last ++ ['*', '/']))) ?_ (by simp)
    simp [Written.text, joinLines_append, joinLines_cons]
  have text : (Written.lines first inner last).text ++ rest =
      '/' :: '*' :: '*' :: (first ++ '\n' :: (joinLines inner ++ (last ++ '*' :: '/' :: rest))) := by
    simp [Written.text]
  rw [text, after?_mark, afterInline?_eq_none open_first, Option.or_none]
  by_cases bare : Bare first
  · have opened : ∀ after, afterBlock? (first ++ '\n' :: after) = some rest ↔
        afterLines? after = some rest := by
      intro after
      rw [afterBlock?_eq_some_iff]
      constructor
      · rintro ⟨other, after', bare', split, matched⟩
        obtain ⟨-, rfl⟩ := line_unique hfirst (bare'.not_mem rfl (by decide)) split
        exact matched
      · intro matched
        exact ⟨first, after, bare, rfl, matched⟩
    rw [opened, afterLines?_last hinner open_inner hlast]
    simp [Written.Matched, bare]
  · rw [afterBlock?_eq_none hfirst bare]
    simp [Written.Matched, bare]

/-- A comment is matched as it is written just where its form and what follows it let it be. -/
theorem after?_eq_some_iff {comment : Written} (h : comment.Proper) (rest : List Char) :
    after? (comment.text ++ rest) = some rest ↔ comment.Matched rest := by
  cases comment with
  | inline body => simp [after?_inline h rest, Written.Matched]
  | lines first inner last => exact after?_lines h rest

theorem exists_of_afterInline? (h : afterInline? cs = some rest) :
    ∃ body, cs = body ++ '*' :: '/' :: rest := by
  induction cs with
  | nil => cases h
  | cons c cs ih =>
    by_cases here : c = '*' ∧ cs.head? = some '/'
    · obtain ⟨rfl, slash⟩ := here
      obtain ⟨more, rfl⟩ := List.head?_eq_some_iff.1 slash
      cases h
      exact ⟨[], rfl⟩
    · rw [afterInline?_cons here] at h
      split at h
      · cases h
      · obtain ⟨body, rfl⟩ := ih h
        exact ⟨c :: body, rfl⟩

/-- What is matched stands at the start, and is not empty. -/
theorem exists_of_after? (h : after? cs = some rest) : ∃ text, text ≠ [] ∧ cs = text ++ rest := by
  unfold after? at h
  split at h
  · rename_i body
    rcases Option.or_eq_some_iff.1 (Option.orElse_eq_or.symm.trans h) with block | ⟨-, inline⟩
    · obtain ⟨first, after, -, rfl, lines⟩ := afterBlock?_eq_some_iff.1 block
      obtain ⟨inner, last, -, -, -, rfl⟩ := exists_of_afterLines? lines
      exact ⟨'/' :: '*' :: '*' :: (first ++ '\n' :: joinLines inner ++ last ++ ['*', '/']),
        by simp, by simp⟩
    · obtain ⟨body, rfl⟩ := exists_of_afterInline? inline
      exact ⟨'/' :: '*' :: '*' :: (body ++ ['*', '/']), by simp, by simp⟩
  · cases h

end

/-! ## The scan, comment by comment -/

section

variable {line index : Nat} {cs rest : List Char}

/-- What was read with a comment is passed over. -/
theorem scan_skip (skip line index : Nat) (cs : List Char) :
    scan skip line index cs =
      scan 0 (line + (cs.take skip).count '\n') (index + skip) (cs.drop skip) := by
  induction skip generalizing line index cs with
  | zero => rfl
  | succ skip ih =>
    cases cs with
    | nil => rfl
    | cons c cs =>
      have lines : (if c = '\n' then line + 1 else line) + (cs.take skip).count '\n' =
          line + ((c :: cs).take (skip + 1)).count '\n' := by
        rw [List.take_succ_cons, List.count_cons]
        by_cases hc : c = '\n'
        · simp only [hc, if_true, beq_self_eq_true]
          omega
        · simp [hc]
      rw [scan, ih, lines, List.drop_succ_cons, Nat.add_right_comm index 1 skip, Nat.add_assoc]

theorem scan_of_none {c : Char} (h : after? (c :: cs) = none) (line index : Nat) :
    scan 0 line index (c :: cs) =
      scan 0 (if c = '\n' then line + 1 else line) (index + 1) cs := by
  rw [scan, h]

/-- A comment that is matched is found, and the scan goes on after what is read with it. -/
theorem scan_of_match {text : List Char} (ne : text ≠ []) (h : after? (text ++ rest) = some rest)
    (line index : Nat) :
    scan 0 line index (text ++ rest) =
      ⟨String.ofList text, index, line, line + text.count '\n', String.ofList (follow rest).1⟩ ::
        scan 0 (line + text.count '\n' + (rest.take (follow rest).2).count '\n')
          (index + text.length + (follow rest).2) (rest.drop (follow rest).2) := by
  obtain ⟨c, text, rfl⟩ := List.exists_cons_of_ne_nil ne
  have matched : after? (c :: (text ++ rest)) = some rest := h
  have cut : (c :: (text ++ rest)).take ((text ++ rest).length + 1 - rest.length) = c :: text := by
    have count : (text ++ rest).length + 1 - rest.length = (c :: text).length := by
      simp only [List.length_append, List.length_cons]
      omega
    rw [count, ← List.cons_append, List.take_left]
  -- The line and the index move over the first character before the rest is passed over.
  have skip : (c :: text).length + (follow rest).2 - 1 = text.length + (follow rest).2 := by
    simp only [List.length_cons]
    omega
  have lines : (if c = '\n' then line + 1 else line) +
      ((text ++ rest).take (text.length + (follow rest).2)).count '\n' =
      line + (c :: text).count '\n' + (rest.take (follow rest).2).count '\n' := by
    rw [List.take_length_add_append, List.count_append, List.count_cons]
    by_cases hc : c = '\n'
    · simp only [hc, if_true, beq_self_eq_true]
      omega
    · simp only [hc, if_false, beq_iff_eq]
      omega
  have passed : (text ++ rest).drop (text.length + (follow rest).2) =
      rest.drop (follow rest).2 := by
    rw [← List.drop_drop, List.drop_left]
  have next : index + 1 + (text.length + (follow rest).2) =
      index + (c :: text).length + (follow rest).2 := by
    rw [List.length_cons]
    omega
  rw [List.cons_append, scan, matched]
  dsimp only
  rw [cut, scan_skip, skip, lines, passed, next]

/-- A text that is matched as a whole is the only comment of itself. -/
theorem ofSource_of_match {text : List Char} (ne : text ≠ []) (h : after? text = some []) :
    ofSource text = [⟨String.ofList text, 0, 1, 1 + text.count '\n', ""⟩] := by
  have found := scan_of_match ne (by rwa [List.append_nil]) 1 0
  rw [List.append_nil] at found
  rw [ofSource, found]
  rfl

end

end Docblock.Comment
