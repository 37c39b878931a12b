import Docblock.Proofs.Block.Filtered
import Docblock.Proofs.Block.TagNames
import Docblock.Proofs.Block.Written

/-!
# Tags that are announced

The tags of a block are looked for only where a line announces one: its name stands alone on the
line, or a space follows it (`usedTag?_eq_some_iff`). An occurrence of a tag only needs a line with
its whole name. So a block has what the occurrences of a tag make when a line announces the tag, and
else it has nothing, even if there are occurrences (`holds_iff_announced`).

The two tests differ by what may follow the name, and neither is meant to be the other: the first
collects names of letters, the second looks for one name that is given. A brace right behind the
name is where they part. What is found is then decided for the whole comment and not line by line:
one line that announces a tag is enough for all of its occurrences.

Kinds that may stand several times and kinds that may not are treated alike. What the occurrences of
a kind make is left to `Tag.lastOf` and `Tag.allOf`, and nothing is said of their texts.
-/

namespace Docblock

open Text

/-- What follows the name of a tag that a line announces: nothing, or a text after a space. -/
def AfterName (after : List Char) : Prop := after = [] ∨ ∃ text, after = ' ' :: text ∧ '\n' ∉ text

/-- A line announces a tag: its name stands alone on the line, or in front of a space. -/
def Announces (name line : List Char) : Prop :=
  ∃ after, line = '@' :: (name ++ after) ∧ AfterName after

/-- Some line announces a tag of a kind. -/
def Announced (kind : TagKind) (lines : List (List Char)) : Prop :=
  ∃ line ∈ lines, Announces kind.name.toList line

variable {name line : List Char} {lines : List (List Char)} {kind : TagKind}

/-! ## Lines that announce a tag -/

theorem getLast?_ne_of_dropWhile {p : Char → Bool} {cs : List Char} {c : Char}
    (last : cs.getLast? ≠ some c) : (cs.dropWhile p).getLast? ≠ some c := by
  intro left
  have ne : cs.dropWhile p ≠ [] := by
    intro none
    rw [none] at left
    cases left
  refine last ?_
  rw [← List.takeWhile_append_dropWhile (p := p) (l := cs), getLast?_append_right _ ne, left]

theorem dropWhile_newline_iff {cs : List Char} (last : cs.getLast? ≠ some '\n') :
    (cs.dropWhile (· != '\n') = [] ∨ cs.dropWhile (· != '\n') = ['\n']) ↔ '\n' ∉ cs := by
  have other : cs.dropWhile (· != '\n') ≠ ['\n'] := by
    intro left
    refine getLast?_ne_of_dropWhile (p := (· != '\n')) last ?_
    rw [left]
    rfl
  rw [or_iff_left other, List.dropWhile_eq_nil_iff]
  constructor
  · intro none newline
    simpa using none '\n' newline
  · intro none c hc
    rw [bne_iff_ne]
    rintro rfl
    exact none hc

theorem afterName_iff {after : List Char} (last : after.getLast? ≠ some '\n') {text : List Char}
    (left : (if after.head? = some ' ' then after.dropWhile (· != '\n') else after) = text) :
    AfterName after ↔ text = [] ∨ text = ['\n'] := by
  subst left
  split
  · rename_i space
    obtain ⟨text, rfl⟩ := List.head?_eq_some_iff.1 space
    rw [dropWhile_newline_iff last]
    simp [AfterName]
  · rename_i other
    have ne : after ≠ ['\n'] := by
      rintro rfl
      exact last rfl
    have none : ∀ text, after ≠ ' ' :: text := by
      rintro text rfl
      exact other rfl
    simp [AfterName, ne, none]

theorem usedTag?_cons_eq_some_iff {rest : List Char} (last : rest.getLast? ≠ some '\n') :
    usedTag? ('@' :: rest) = some name ↔
      name ≠ [] ∧ rest.takeWhile Char.isAlpha = name ∧ AfterName (rest.dropWhile Char.isAlpha) := by
  have start : ('@' :: rest).dropWhile isIndent = '@' :: rest := rfl
  obtain ⟨text, left⟩ : ∃ text, (if (rest.dropWhile Char.isAlpha).head? = some ' '
      then (rest.dropWhile Char.isAlpha).dropWhile (· != '\n')
      else rest.dropWhile Char.isAlpha) = text := ⟨_, rfl⟩
  simp only [usedTag?, start, Comment.drop_length_takeWhile, left,
    afterName_iff (getLast?_ne_of_dropWhile last) left]
  constructor
  · intro h
    split at h
    · rename_i cond
      simp only [Bool.and_eq_true, Bool.not_eq_true', List.isEmpty_eq_false_iff,
        Bool.or_eq_true, List.isEmpty_iff, beq_iff_eq] at cond
      cases h
      exact ⟨cond.1, rfl, cond.2⟩
    · cases h
  · rintro ⟨ne, rfl, stops⟩
    rw [if_pos]
    simpa [ne] using stops

/-- On a trimmed line a tag is used just when the line announces it. -/
theorem usedTag?_eq_some_iff (trimmed : trim line = line) (ne : name ≠ [])
    (letters : ∀ c ∈ name, c.isAlpha = true) : usedTag? line = some name ↔ Announces name line := by
  have tight : Tight line := trimmed ▸ tight_trim line
  cases line with
  | nil => simp [usedTag?, Announces]
  | cons c rest =>
    by_cases at_sign : c = '@'
    · subst at_sign
      have last : rest.getLast? ≠ some '\n' := by
        intro last
        have ends := tight.ends '\n' (by rw [List.getLast?_cons, last]; rfl)
        cases ends
      rw [usedTag?_cons_eq_some_iff last]
      constructor
      · rintro ⟨-, rfl, follows⟩
        exact ⟨_, by rw [List.takeWhile_append_dropWhile], follows⟩
      · rintro ⟨after, same, follows⟩
        obtain rfl : rest = name ++ after := List.tail_eq_of_cons_eq same
        have stops : after.takeWhile Char.isAlpha = [] := by
          rcases follows with rfl | ⟨text, rfl, -⟩
          · rfl
          · rfl
        have whole := List.takeWhile_append_dropWhile (p := Char.isAlpha) (l := after)
        rw [stops, List.nil_append] at whole
        rw [List.takeWhile_append_of_pos letters, List.dropWhile_append_of_pos letters, stops,
          whole]
        exact ⟨ne, List.append_nil _, follows⟩
    · have solid : isIndent c = false := by
        have := tight.starts c rfl
        exact Bool.eq_false_iff.2 fun indent => by simp [isBlank_of_isIndent indent] at this
      have used : usedTag? (c :: rest) = none := by
        rw [usedTag?, List.dropWhile_cons_of_neg (by simp [solid])]
        split
        · rename_i same
          exact absurd (List.head_eq_of_cons_eq same) at_sign
        · rfl
      rw [used]
      constructor
      · rintro ⟨⟩
      · rintro ⟨after, same, -⟩
        exact absurd (List.head_eq_of_cons_eq same) at_sign

theorem contains_usedTag?_iff (trimmed : ∀ line ∈ lines, trim line = line) (kind : TagKind) :
    (lines.filterMap usedTag?).contains kind.name.toList = true ↔ Announced kind lines := by
  have ne : kind.name.toList ≠ [] := by cases kind <;> decide
  have letters : ∀ c ∈ kind.name.toList, c.isAlpha = true := by cases kind <;> decide
  rw [List.contains_iff_mem, List.mem_filterMap]
  constructor
  · rintro ⟨line, hl, used⟩
    exact ⟨line, hl, (usedTag?_eq_some_iff (trimmed line hl) ne letters).1 used⟩
  · rintro ⟨line, hl, announces⟩
    exact ⟨line, hl, (usedTag?_eq_some_iff (trimmed line hl) ne letters).2 announces⟩

/-- A line that announces a tag has its whole name. -/
theorem Announces.tagName? (h : Announces name line) (word : ∀ c ∈ name, isWord c = true) :
    tagName? line = some name := by
  obtain ⟨after, rfl, follows⟩ := h
  refine congrArg some ((takeWhile_append_iff word).2 ?_)
  rcases follows with rfl | ⟨text, rfl, -⟩
  · rfl
  · rfl

/-! ## What a block has of a tag -/

theorem Tag.lastOf_eq_none_iff :
    Tag.lastOf kind lines = .ok none ↔ tagOccurrences kind.name.toList lines = [] := by
  rw [Tag.lastOf]
  split
  · rename_i none
    simp [List.getLast?_eq_none_iff.1 none]
  · rename_i text last
    have ne : tagOccurrences kind.name.toList lines ≠ [] := by
      intro none
      rw [none] at last
      cases last
    simp only [ne, iff_false]
    intro h
    obtain ⟨tag, -, h⟩ := bind_eq_ok.1 h
    cases h

/-- What the occurrences of a tag make can be told. -/
def TagKind.Readable (kind : TagKind) (lines : List (List Char)) : Prop :=
  if kind ∈ TagKind.singles then ∃ tag, Tag.lastOf kind lines = .ok tag
  else ∃ tags, Tag.allOf kind lines = .ok tags

/-- The occurrences of a tag make nothing. -/
def TagKind.Void (kind : TagKind) (lines : List (List Char)) : Prop :=
  if kind ∈ TagKind.singles then tagOccurrences kind.name.toList lines = []
  else Tag.allOf kind lines = .ok []

namespace Elements

/-- A block has of a kind of tag just what its occurrences make: the last of them, or all. -/
structure Holds (elements : Elements) (lines : List (List Char)) (kind : TagKind) : Prop where
  absent : kind ∈ TagKind.singles →
    (elements.single? kind = none ↔ tagOccurrences kind.name.toList lines = [])
  last : kind ∈ TagKind.singles → tagOccurrences kind.name.toList lines ≠ [] →
    Tag.lastOf kind lines = .ok (elements.single? kind)
  all : kind ∉ TagKind.singles → Tag.allOf kind lines = .ok (elements.several kind)

variable {elements : Elements}

theorem several_of_mem (h : kind ∈ TagKind.singles) : elements.several kind = [] := by
  simp only [TagKind.singles, List.mem_cons, List.not_mem_nil, or_false] at h
  rcases h with rfl | rfl | rfl | rfl | rfl | rfl <;> rfl

theorem single?_of_not_mem (h : kind ∉ TagKind.singles) : elements.single? kind = none := by
  cases kind with
  | param | property | imports => rfl
  | _ => exact absurd (by decide) h

/-- A block can be read when all tags that are looked for can. -/
theorem exists_ofLines_iff : (∃ elements, ofLines lines = .ok elements) ↔
    ∀ kind : TagKind, (lines.filterMap usedTag?).contains kind.name.toList = true →
      kind.Readable lines := by
  constructor
  · rintro ⟨elements, read⟩ kind used
    obtain ⟨single, several⟩ := slot_of_ofLines read kind
    rw [used] at single several
    unfold TagKind.Readable
    split
    · rename_i mem
      exact ⟨_, single mem⟩
    · rename_i other
      exact ⟨_, several other⟩
  · intro readable
    have single : ∀ kind ∈ TagKind.singles, ∃ tag,
        (if (lines.filterMap usedTag?).contains kind.name.toList then Tag.lastOf kind lines
          else .ok none) = .ok tag := by
      intro kind mem
      split
      · rename_i used
        have := readable kind used
        rwa [TagKind.Readable, if_pos mem] at this
      · exact ⟨none, rfl⟩
    have several : ∀ kind ∉ TagKind.singles, ∃ tags,
        (if (lines.filterMap usedTag?).contains kind.name.toList then Tag.allOf kind lines
          else .ok []) = .ok tags := by
      intro kind other
      split
      · rename_i used
        have := readable kind used
        rwa [TagKind.Readable, if_neg other] at this
      · exact ⟨[], rfl⟩
    -- The kinds are read one after the other, so each result is put in its place.
    obtain ⟨_, type⟩ := single .type (by decide)
    obtain ⟨_, enum⟩ := single .enum (by decide)
    obtain ⟨_, typedef⟩ := single .typedef (by decide)
    obtain ⟨_, callback⟩ := single .callback (by decide)
    obtain ⟨_, returns⟩ := single .returns (by decide)
    obtain ⟨_, yields⟩ := single .yields (by decide)
    obtain ⟨_, param⟩ := several .param (by decide)
    obtain ⟨_, property⟩ := several .property (by decide)
    obtain ⟨_, imports⟩ := several .imports (by decide)
    cases result : ofLines lines with
    | ok elements => exact ⟨elements, rfl⟩
    | error fault =>
      unfold ofLines at result
      dsimp only at result
      rw [type, enum, typedef, callback, returns, yields, param, property, imports] at result
      cases result

/-- A kind of tag that is looked for is held. -/
theorem holds_of_used (read : ofLines lines = .ok elements)
    (used : (lines.filterMap usedTag?).contains kind.name.toList = true) :
    elements.Holds lines kind := by
  obtain ⟨single, several⟩ := slot_of_ofLines read kind
  rw [used] at single several
  refine ⟨fun mem => ?_, fun mem _ => single mem, several⟩
  have last : Tag.lastOf kind lines = .ok (elements.single? kind) := single mem
  rw [← Tag.lastOf_eq_none_iff, last, Except.ok.injEq]

/-- Nothing is there of a kind of tag that is not looked for. -/
theorem eq_none_of_not_used (read : ofLines lines = .ok elements)
    (unused : (lines.filterMap usedTag?).contains kind.name.toList = false) :
    elements.single? kind = none ∧ elements.several kind = [] := by
  obtain ⟨single, several⟩ := slot_of_ofLines read kind
  rw [unused] at single several
  by_cases mem : kind ∈ TagKind.singles
  · have nothing := single mem
    exact ⟨(Except.ok.inj nothing).symm, several_of_mem mem⟩
  · have nothing := several mem
    exact ⟨single?_of_not_mem mem, (Except.ok.inj nothing).symm⟩

theorem holds_iff_void (nothing : elements.single? kind = none ∧ elements.several kind = []) :
    elements.Holds lines kind ↔ kind.Void lines := by
  unfold TagKind.Void
  split
  · rename_i mem
    constructor
    · exact fun holds => (holds.absent mem).1 nothing.1
    · intro none
      exact ⟨fun _ => iff_of_true nothing.1 none, fun _ ne => absurd none ne,
        fun other => absurd mem other⟩
  · rename_i other
    constructor
    · intro holds
      rw [holds.all other, nothing.2]
    · intro none
      refine ⟨fun mem => absurd mem other, fun mem => absurd mem other, fun _ => ?_⟩
      rw [none, nothing.2]

end Elements

/-- A block can be read when the tags that its lines announce can. It has of a kind of tag what its
occurrences make just where a line announces the tag, or they make nothing anyway; of a tag that no
line announces it has nothing. -/
theorem holds_iff_announced (trimmed : ∀ line ∈ lines, trim line = line) :
    ((∃ elements, Elements.ofLines lines = .ok elements) ↔
      ∀ kind, Announced kind lines → kind.Readable lines) ∧
    ∀ elements, Elements.ofLines lines = .ok elements → ∀ kind,
      (elements.Holds lines kind ↔ Announced kind lines ∨ kind.Void lines) ∧
      (¬Announced kind lines → elements.single? kind = none ∧ elements.several kind = []) := by
  have announced := contains_usedTag?_iff trimmed
  constructor
  · simp only [Elements.exists_ofLines_iff, announced]
  · intro elements read kind
    by_cases h : Announced kind lines
    · have holds := Elements.holds_of_used read ((announced kind).2 h)
      exact ⟨iff_of_true holds (.inl h), fun none => absurd h none⟩
    · have unused := Bool.eq_false_iff.2 (mt (announced kind).1 h)
      have nothing := Elements.eq_none_of_not_used read unused
      rw [Elements.holds_iff_void nothing, or_iff_right h]
      exact ⟨Iff.rfl, fun _ => nothing⟩

/-- The type in front of which no space stands is lost, although it is an occurrence. -/
theorem not_holds_of_brace : ∃ elements, Elements.ofLines ["@type{number}".toList] = .ok elements ∧
    tagOccurrences "type".toList ["@type{number}".toList] = ["@type{number}".toList] ∧
    elements.single? .type = none ∧ ¬elements.Holds ["@type{number}".toList] .type := by
  have occurrence : tagOccurrences "type".toList ["@type{number}".toList] =
      ["@type{number}".toList] := by decide
  have trimmed : ∀ line ∈ ["@type{number}".toList], trim line = line := by decide
  have unannounced : ¬Announced .type ["@type{number}".toList] :=
    mt (contains_usedTag?_iff trimmed .type).2 (by decide)
  obtain ⟨elements, read⟩ : ∃ elements, Elements.ofLines ["@type{number}".toList] = .ok elements :=
    ⟨_, rfl⟩
  obtain ⟨holds, absent⟩ := (holds_iff_announced trimmed).2 elements read .type
  refine ⟨elements, read, occurrence, (absent unannounced).1, fun h => ?_⟩
  rcases holds.1 h with announced | void
  · exact unannounced announced
  · exact absurd (occurrence.symm.trans void) (by decide)

end Docblock
