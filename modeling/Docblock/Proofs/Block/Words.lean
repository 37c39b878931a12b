import Docblock.Proofs.Block.TagNames

/-!
# The words of a description

The words of a description are those of the plain lines before the first tag, and then, for each
line that begins like a description tag, those of the rest of that line and of the plain lines after
it (`words_descriptionOf`). What is written between two passages is blank, or ends in a blank, so no
word is lost and none grows together with the next one.

The blanks themselves are not described: how many line ends stand between two passages, and where
spaces take their place, is a matter of layout. Neither is it asked whether a line should open a
description. A longer name does, and its rest is a word like any other.
-/

namespace Docblock

open Text

/-- The words of a text: what stands between its blanks and is not empty. -/
def words (cs : List Char) : List (List Char) := (cs.splitOnP isBlank).filter (!·.isEmpty)

variable {cs more : List Char} {lines : List (List Char)}

/-! ## Words -/

theorem words_nil : words [] = [] := rfl

/-- A blank ends a word. -/
theorem words_append_cons {c : Char} (hc : isBlank c = true) (cs more : List Char) :
    words (cs ++ c :: more) = words cs ++ words more := by
  rw [words, List.splitOnP_append_cons cs more hc, List.filter_append, ← words, ← words]

theorem words_blanks_append {blanks : List Char} (h : Blanks blanks) (cs : List Char) :
    words (blanks ++ cs) = words cs := by
  induction blanks with
  | nil => rfl
  | cons c blanks ih =>
    have first := words_append_cons (h c (by simp)) [] (blanks ++ cs)
    rw [List.nil_append, words_nil, List.nil_append] at first
    rw [List.cons_append, first, ih fun d hd => h d (by simp [hd])]

theorem words_append_blanks {blanks : List Char} (h : Blanks blanks) (cs : List Char) :
    words (cs ++ blanks) = words cs := by
  cases blanks with
  | nil => rw [List.append_nil]
  | cons c blanks =>
    have behind : Blanks blanks := fun d hd => h d (by simp [hd])
    have rest := words_blanks_append behind []
    rw [List.append_nil, words_nil] at rest
    rw [words_append_cons (h c (by simp)), rest, List.append_nil]

/-- Blanks around a text make no difference to its words. -/
theorem words_trim (cs : List Char) : words (trim cs) = words cs := by
  obtain ⟨before, after, hb, ha, split⟩ := exists_trim cs
  conv_rhs => rw [split]
  rw [words_append_blanks ha, words_blanks_append hb]

/-! ## What lines tell -/

/-- The lines up to the first tag. -/
def plainLines (lines : List (List Char)) : List (List Char) := lines.takeWhile (!isTagLine ·)

theorem plainLines_cons (line : List Char) (rest : List (List Char)) :
    plainLines (line :: rest) = if isTagLine line then [] else line :: plainLines rest := by
  rw [plainLines, List.takeWhile_cons]
  cases isTagLine line <;> rfl

/-- The bodies of description tags: of each the rest of its line, and the lines up to the next
tag. -/
def descriptionBodies : List (List Char) → List (List Char)
  | [] => []
  | line :: rest =>
    if DescriptionScan.descriptionTag.isPrefixOf line then
      line.drop DescriptionScan.descriptionTag.length :: plainLines rest ++ descriptionBodies rest
    else descriptionBodies rest

/-- What lines tell of the thing that is described. -/
def described (lines : List (List Char)) : List (List Char) :=
  plainLines lines ++ descriptionBodies lines

namespace Passage

open DescriptionScan

/-- What is separated from a text does not run on from its last word. -/
theorem words_separated {c : Char} (hc : isBlank c = true) (text : List Char) :
    words (separated text c ++ more) = words text ++ words more := by
  unfold separated
  split
  · rename_i ended
    obtain ⟨start, rfl⟩ := List.getLast?_eq_some_iff.1 ended
    have newline : isBlank '\n' = true := rfl
    have before := words_append_cons newline start []
    rw [words_nil, List.append_nil] at before
    rw [List.append_assoc, List.singleton_append, words_append_cons newline, before]
  · rw [List.append_assoc, List.singleton_append, words_append_cons hc]

theorem words_write (text : List Char) (passage : Passage) :
    words (passage.write text) = words text ++ words passage.text := by
  cases passage with
  | body rest => rw [write, words_separated rfl, words_trim, Passage.text]
  | plain line =>
    rw [write, Passage.text]
    split
    · rename_i empty
      rw [List.isEmpty_iff.1 empty, words_append_cons rfl]
    · rw [words_separated rfl]

/-- The words of passages that are joined are those of one passage after the other. -/
theorem words_joined (passages : List Passage) :
    words (joined passages) = passages.flatMap fun passage => words passage.text := by
  have all : ∀ text, words (passages.foldl write text) =
      words text ++ passages.flatMap fun passage => words passage.text := by
    induction passages with
    | nil => intro text; simp
    | cons passage rest ih =>
      intro text
      rw [List.foldl_cons, ih, words_write, List.flatMap_cons, List.append_assoc]
  rw [joined, words_trim, all, words_nil, List.nil_append]

/-- Passages are what the lines tell. The plain lines at the start belong to them when a description
is open there. -/
theorem map_text_ofLines (isOpen : Bool) (lines : List (List Char)) :
    (ofLines isBegun isOpen lines).map text =
      (if isOpen then plainLines lines else []) ++ descriptionBodies lines := by
  induction lines generalizing isOpen with
  | nil => cases isOpen <;> rfl
  | cons line rest ih =>
    rw [ofLines, List.map_append, ih, given, isOpenAfter, descriptionBodies, plainLines_cons,
      isPrefixOf_eq, isTagLine_eq]
    cases tagName? line with
    | none => cases isOpen <;> simp [Passage.text]
    | some name => cases opens : isBegun name <;> simp [opens, Passage.text]

end Passage

/-- The words of a description are those of what the lines tell, each once and in their order. -/
theorem words_descriptionOf (lines : List (List Char)) :
    words (descriptionOf lines) = (described lines).flatMap words := by
  have passages := Passage.map_text_ofLines true lines
  rw [if_pos rfl] at passages
  rw [Passage.descriptionOf_eq, Passage.words_joined, described, ← passages, List.flatMap_map]

example : words (descriptionOf ["a b".toList, "".toList, "@description".toList, "c".toList,
    "@type".toList, "d".toList, "@description e".toList]) =
      ["a".toList, "b".toList, "c".toList, "e".toList] := by
  decide

end Docblock
