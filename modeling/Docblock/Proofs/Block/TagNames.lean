import Docblock.Block.Basic
import Docblock.Proofs.Text.Plain
import Docblock.Proofs.Text.Trim
import Mathlib

/-!
# Names of tags

The name of the tag that a line begins with is the longest run of word characters after the at sign.
The occurrences of a tag are those of its whole name (`length_tagOccurrences`). The scope and the
description go by how a name begins: a longer name makes a block private or protected too, and opens
a description with what is left of the name in it. They go by whole names just where the lines have
no longer name that makes a difference (`whole_names_iff`).

For scopes a longer name makes none if the whole name is there as well. For descriptions it always
does. To see that, it is enough to count the characters that are not blank (`Passage.ink`): going by
beginnings never gives fewer, and a longer name leaves at least one more of itself in the
description. So the two descriptions are different without being compared character by character.

What lines give to a description is put as a list of passages, with the rule for opening one as a
parameter. The same list serves for its words, where the rule does not matter.
-/

namespace Docblock

open Text

/-- The name of the tag that a line begins with. -/
def tagName? : List Char → Option (List Char)
  | '@' :: rest => some (rest.takeWhile isWord)
  | _ => none

/-- A line begins with a tag of this name. -/
def Tagged (name : String) (lines : List (List Char)) : Prop :=
  ∃ line ∈ lines, tagName? line = some name.toList

/-- A line begins with a tag of a longer name that begins with this one. -/
def TaggedBeyond (name : String) (lines : List (List Char)) : Prop :=
  ∃ line ∈ lines, ∃ c more, tagName? line = some (name.toList ++ c :: more)

variable {name line : List Char} {lines : List (List Char)}

/-! ## Whole names and beginnings of names -/

theorem isTagLine_eq (line : List Char) : isTagLine line = (tagName? line).isSome := by
  unfold tagName?
  split
  · rfl
  · rename_i other
    cases line with
    | nil => rfl
    | cons c rest =>
      have ne : c ≠ '@' := fun same => other rest (by rw [same])
      simp [isTagLine, ne]

theorem all_isWord_of_tagName? (h : tagName? line = some name) : ∀ c ∈ name, isWord c = true := by
  unfold tagName? at h
  split at h
  · cases h
    exact fun c hc => List.all_eq_true.1 List.all_takeWhile c hc
  · cases h

/-- A run of word characters is the longest when no word character follows it. -/
theorem takeWhile_append_iff {w rest : List Char} (word : ∀ c ∈ w, isWord c = true) :
    (w ++ rest).takeWhile isWord = w ↔ rest.head?.all (!isWord ·) = true := by
  rw [List.takeWhile_append_of_pos word]
  cases rest with
  | nil => simp
  | cons c rest => cases hc : isWord c <;> simp [hc]

/-- A line begins with an at sign and a word just when the name of its tag begins with the word. -/
theorem isPrefixOf_iff (word : ∀ c ∈ name, isWord c = true) :
    ('@' :: name).isPrefixOf line = true ↔ ∃ more, tagName? line = some (name ++ more) := by
  rw [List.isPrefixOf_iff_prefix]
  constructor
  · rintro ⟨rest, rfl⟩
    exact ⟨rest.takeWhile isWord, congrArg some (List.takeWhile_append_of_pos word)⟩
  · rintro ⟨more, h⟩
    unfold tagName? at h
    split at h
    · rename_i rest
      have whole := List.takeWhile_append_dropWhile (p := isWord) (l := rest)
      rw [Option.some.inj h, List.append_assoc] at whole
      exact ⟨more ++ rest.dropWhile isWord, by rw [List.cons_append, whole]⟩
    · cases h

/-- An occurrence of a tag begins with its whole name. -/
theorem startsTag_iff (word : ∀ c ∈ name, isWord c = true) :
    startsTag name line = true ↔ tagName? line = some name := by
  rw [startsTag, Bool.and_eq_true, isPrefixOf_iff word]
  constructor
  · rintro ⟨begins, stops⟩
    obtain ⟨rest, rfl⟩ := List.isPrefixOf_iff_prefix.1 ((isPrefixOf_iff word).2 begins)
    have after : ('@' :: name ++ rest).drop (name.length + 1) = rest := List.drop_left
    rw [after] at stops
    exact congrArg some ((takeWhile_append_iff word).2 stops)
  · intro h
    have begins : ∃ more, tagName? line = some (name ++ more) := ⟨[], by rw [h, List.append_nil]⟩
    obtain ⟨rest, rfl⟩ := List.isPrefixOf_iff_prefix.1 ((isPrefixOf_iff word).2 begins)
    have after : ('@' :: name ++ rest).drop (name.length + 1) = rest := List.drop_left
    rw [after]
    exact ⟨begins, (takeWhile_append_iff word).1 (Option.some.inj h)⟩

theorem TagKind.word (kind : TagKind) : ∀ c ∈ kind.name.toList, isWord c = true := by
  cases kind <;> decide

/-- There are as many occurrences of a tag as lines with its whole name. -/
theorem length_tagOccurrences (kind : TagKind) (lines : List (List Char)) :
    (tagOccurrences kind.name.toList lines).length =
      lines.countP (tagName? · == some kind.name.toList) := by
  -- An occurrence that goes on counts already.
  have scan : ∀ scan : TagScan, (lines.foldl (TagScan.step kind.name.toList) scan).close.length =
      scan.close.length + lines.countP (tagName? · == some kind.name.toList) := by
    induction lines with
    | nil => exact fun _ => rfl
    | cons line rest ih =>
      intro scan
      rw [List.foldl_cons, ih, List.countP_cons, TagScan.step]
      by_cases starts : startsTag kind.name.toList line = true
      · have named := (startsTag_iff kind.word).1 starts
        simp [starts, named, TagScan.close]
        omega
      · have other : (tagName? line == some kind.name.toList) = false :=
          beq_eq_false_iff_ne.2 (mt (startsTag_iff kind.word).2 starts)
        rw [if_neg starts, other]
        split
        · simp [TagScan.close]
        · cases scan with
          | mk done current => cases current <;> simp [TagScan.close]
  rw [tagOccurrences, List.length_reverse, scan]
  simp [TagScan.close]

theorem tagName?_join (h : tagName? line = some name) (rest : List (List Char)) :
    tagName? (join ['\n'] (line :: rest)) = some name := by
  cases rest with
  | nil => exact h
  | cons next more =>
    unfold tagName? at h
    split at h
    · rename_i word
      have stops : isWord '\n' = false := by decide
      have same := takeWhile_append_cons stops word (join ['\n'] (next :: more))
      rw [← Option.some.inj h, ← same, join, List.append_assoc]
      · rfl
      · simp
    · cases h

/-- The occurrences that are done, and the one that goes on, begin with a line with the name. -/
structure TagScan.Named (name : List Char) (scan : TagScan) : Prop where
  done : ∀ text ∈ scan.done, tagName? text = some name
  current : ∀ lines ∈ scan.current, ∃ first rest,
    lines.reverse = first :: rest ∧ tagName? first = some name

namespace TagScan.Named

variable {scan : TagScan}

theorem mem_close (h : scan.Named name) : ∀ text ∈ scan.close, tagName? text = some name := by
  intro text ht
  unfold TagScan.close at ht
  split at ht
  · exact h.done text ht
  · rename_i lines goes
    rcases List.mem_cons.1 ht with rfl | ht
    · obtain ⟨first, rest, same, named⟩ := h.current lines goes
      rw [same]
      exact tagName?_join named rest
    · exact h.done text ht

theorem step (word : ∀ c ∈ name, isWord c = true) (h : scan.Named name) (line : List Char) :
    (scan.step name line).Named name := by
  unfold TagScan.step
  split
  · rename_i starts
    refine ⟨h.mem_close, ?_⟩
    rintro lines ⟨⟩
    exact ⟨line, [], rfl, (startsTag_iff word).1 starts⟩
  · split
    · exact ⟨h.mem_close, by rintro lines ⟨⟩⟩
    · refine ⟨h.done, fun lines goes => ?_⟩
      obtain ⟨before, went, rfl⟩ := Option.map_eq_some_iff.1 goes
      obtain ⟨first, rest, same, named⟩ := h.current before went
      exact ⟨first, rest ++ [line], by rw [List.reverse_cons, same]; rfl, named⟩

end TagScan.Named

/-- Every occurrence of a tag begins with its whole name. -/
theorem tagName?_of_mem_tagOccurrences {kind : TagKind} {text : List Char}
    (h : text ∈ tagOccurrences kind.name.toList lines) :
    tagName? text = some kind.name.toList := by
  have named : ∀ scan : TagScan, scan.Named kind.name.toList →
      (lines.foldl (TagScan.step kind.name.toList) scan).Named kind.name.toList := by
    clear h
    induction lines with
    | nil => exact fun _ named => named
    | cons line rest ih => exact fun scan named => ih _ (named.step kind.word line)
  have start : (TagScan.mk [] none).Named kind.name.toList := ⟨by simp, by simp⟩
  exact (named _ start).mem_close text (List.mem_reverse.1 h)

/-! ## Scopes -/

theorem any_isPrefixOf_iff (word : String) (isWord : ∀ c ∈ word.toList, isWord c = true) :
    lines.any (('@' :: word.toList).isPrefixOf ·) = true ↔
      Tagged word lines ∨ TaggedBeyond word lines := by
  rw [List.any_eq_true]
  constructor
  · rintro ⟨line, hl, begins⟩
    obtain ⟨more, h⟩ := (isPrefixOf_iff isWord).1 begins
    cases more with
    | nil => exact .inl ⟨line, hl, by rwa [List.append_nil] at h⟩
    | cons c more => exact .inr ⟨line, hl, c, more, h⟩
  · rintro (⟨line, hl, h⟩ | ⟨line, hl, c, more, h⟩)
    · exact ⟨line, hl, (isPrefixOf_iff isWord).2 ⟨[], by rwa [List.append_nil]⟩⟩
    · exact ⟨line, hl, (isPrefixOf_iff isWord).2 ⟨c :: more, h⟩⟩

namespace Scope

theorem isPrivate_ofLines_iff : (ofLines lines).isPrivate = true ↔
    Tagged "private" lines ∨ TaggedBeyond "private" lines :=
  any_isPrefixOf_iff "private" (by decide)

theorem isProtected_ofLines_iff : (ofLines lines).isProtected = true ↔
    Tagged "protected" lines ∨ TaggedBeyond "protected" lines :=
  any_isPrefixOf_iff "protected" (by decide)

/-- A scope is the one that the whole names of tags tell. -/
structure ByName (scope : Scope) (lines : List (List Char)) : Prop where
  isPrivate : scope.isPrivate = true ↔ Tagged "private" lines
  isProtected : scope.isProtected = true ↔ Tagged "protected" lines
  isPublic : scope.isPublic = true ↔ ¬Tagged "private" lines ∧ ¬Tagged "protected" lines

theorem isPublic_iff (scope : Scope) :
    scope.isPublic = true ↔ ¬scope.isPrivate = true ∧ ¬scope.isProtected = true := by
  simp [isPublic]

/-- A longer name makes no difference to the scope just where the whole name is there as well. -/
theorem byName_ofLines_iff : (ofLines lines).ByName lines ↔
    (TaggedBeyond "private" lines → Tagged "private" lines) ∧
      (TaggedBeyond "protected" lines → Tagged "protected" lines) := by
  constructor
  · intro byName
    exact ⟨fun beyond => byName.isPrivate.1 (isPrivate_ofLines_iff.2 (.inr beyond)),
      fun beyond => byName.isProtected.1 (isProtected_ofLines_iff.2 (.inr beyond))⟩
  · rintro ⟨hidden, guarded⟩
    have isPrivate := isPrivate_ofLines_iff.trans (or_iff_left_of_imp hidden)
    have isProtected := isProtected_ofLines_iff.trans (or_iff_left_of_imp guarded)
    exact ⟨isPrivate, isProtected, by rw [isPublic_iff, isPrivate, isProtected]⟩

end Scope

/-! ## Descriptions -/

/-- What a line gives to a description. -/
inductive Passage where
  | body (rest : List Char)
  | plain (line : List Char)

namespace Passage

open DescriptionScan

/-- What a line gives. Some names of tags open a description; plain lines belong to one that is
open. -/
def given (opens : List Char → Bool) (isOpen : Bool) (line : List Char) : List Passage :=
  match tagName? line with
  | some name => if opens name then [body (line.drop descriptionTag.length)] else []
  | none => if isOpen then [plain line] else []

/-- Whether a description is open after a line. -/
def isOpenAfter (opens : List Char → Bool) (isOpen : Bool) (line : List Char) : Bool :=
  match tagName? line with
  | some name => opens name
  | none => isOpen

/-- What lines give to a description. -/
def ofLines (opens : List Char → Bool) : Bool → List (List Char) → List Passage
  | _, [] => []
  | isOpen, line :: rest =>
    given opens isOpen line ++ ofLines opens (isOpenAfter opens isOpen line) rest

/-- The text with one more passage. -/
def write (text : List Char) : Passage → List Char
  | body rest => separated text '\n' ++ trim rest
  | plain line => if line.isEmpty then text ++ ['\n'] else separated text ' ' ++ line

/-- The description that passages make. -/
def joined (passages : List Passage) : List Char := trim (passages.foldl write [])

/-- A name that is the one of description tags. -/
def isWhole (name : List Char) : Bool := name == "description".toList

/-- A name that begins with the one of description tags. -/
def isBegun (name : List Char) : Bool := "description".toList.isPrefixOf name

theorem isPrefixOf_eq (line : List Char) :
    descriptionTag.isPrefixOf line = (tagName? line).any isBegun := by
  rw [Bool.eq_iff_iff, show descriptionTag = '@' :: "description".toList from rfl,
    isPrefixOf_iff (by decide), Option.any_eq_true]
  constructor
  · rintro ⟨more, h⟩
    exact ⟨_, h, List.isPrefixOf_iff_prefix.2 (List.prefix_append _ _)⟩
  · rintro ⟨name, h, opens⟩
    obtain ⟨more, rfl⟩ := List.isPrefixOf_iff_prefix.1 opens
    exact ⟨more, h⟩

/-- One line is read by how its name begins. -/
theorem step_eq (text line : List Char) (isOpen : Bool) : DescriptionScan.step ⟨text, isOpen⟩ line =
    ⟨(given isBegun isOpen line).foldl write text, isOpenAfter isBegun isOpen line⟩ := by
  rw [DescriptionScan.step, isPrefixOf_eq, isTagLine_eq, given, isOpenAfter]
  cases tagName? line with
  | some name => cases opens : isBegun name <;> simp [opens, write]
  | none =>
    cases isOpen with
    | false => simp
    | true => cases empty : line.isEmpty <;> simp [write, empty]

/-- The description goes by how names begin. -/
theorem descriptionOf_eq (lines : List (List Char)) :
    descriptionOf lines = joined (ofLines isBegun true lines) := by
  have scan : ∀ text isOpen, (lines.foldl DescriptionScan.step ⟨text, isOpen⟩).text =
      (ofLines isBegun isOpen lines).foldl write text := by
    induction lines with
    | nil => exact fun _ _ => rfl
    | cons line rest ih =>
      intro text isOpen
      rw [List.foldl_cons, step_eq, ih, ofLines, List.foldl_append]
  rw [descriptionOf, scan, joined]

/-! ### What a longer name adds -/

/-- The count of characters that are no blanks. -/
def ink (cs : List Char) : Nat := cs.countP (!isBlank ·)

theorem ink_append (cs more : List Char) : ink (cs ++ more) = ink cs + ink more :=
  List.countP_append

theorem ink_of_blanks {blanks : List Char} (h : Blanks blanks) : ink blanks = 0 := by
  rw [ink, List.countP_eq_zero]
  intro c hc
  simp [h c hc]

theorem ink_trim (cs : List Char) : ink (trim cs) = ink cs := by
  obtain ⟨before, after, hb, ha, split⟩ := exists_trim cs
  have same : ink cs = ink before + ink (trim cs) + ink after := by
    conv_lhs => rw [split]
    rw [ink_append, ink_append]
  rw [same, ink_of_blanks hb, ink_of_blanks ha]
  omega

theorem ink_separated (text : List Char) {c : Char} (hc : isBlank c = true) :
    ink (separated text c) = ink text := by
  unfold separated
  split
  · rfl
  · rw [ink_append, ink_of_blanks (blanks_singleton hc), Nat.add_zero]

/-- The text of a passage. -/
def text : Passage → List Char
  | body rest => rest
  | plain line => line

/-- Between passages there are blanks at most. -/
theorem ink_write (text : List Char) (passage : Passage) :
    ink (passage.write text) = ink text + ink passage.text := by
  cases passage with
  | body rest => rw [write, Passage.text, ink_append, ink_separated text rfl, ink_trim]
  | plain line =>
    rw [write, Passage.text]
    split
    · rename_i empty
      rw [List.isEmpty_iff.1 empty, ink_append]
      rfl
    · rw [ink_append, ink_separated text rfl]

/-- The count of characters of some passages that are no blanks. -/
def inkAll (passages : List Passage) : Nat := (passages.map fun passage => ink passage.text).sum

theorem inkAll_append (passages more : List Passage) :
    inkAll (passages ++ more) = inkAll passages + inkAll more := by
  rw [inkAll, List.map_append, List.sum_append, ← inkAll, ← inkAll]

theorem ink_joined (passages : List Passage) : ink (joined passages) = inkAll passages := by
  have all : ∀ text, ink (passages.foldl write text) = ink text + inkAll passages := by
    induction passages with
    | nil => exact fun _ => rfl
    | cons passage rest ih =>
      intro text
      rw [List.foldl_cons, ih, ink_write, inkAll, inkAll, List.map_cons, List.sum_cons]
      omega
  rw [joined, ink_trim, all]
  exact Nat.zero_add _

/-- A name begins with another when it is that name or a longer one. -/
theorem isBegun_iff : isBegun name = true ↔
    isWhole name = true ∨ ∃ c more, name = "description".toList ++ c :: more := by
  rw [isBegun, isWhole, List.isPrefixOf_iff_prefix, beq_iff_eq]
  constructor
  · rintro ⟨more, rfl⟩
    cases more with
    | nil => exact .inl (List.append_nil _)
    | cons c more => exact .inr ⟨c, more, rfl⟩
  · rintro (rfl | ⟨c, more, rfl⟩)
    · exact List.prefix_rfl
    · exact List.prefix_append _ _

section

variable {isOpen wider : Bool}

/-- What is open by whole names is open by how names begin. -/
theorem isOpenAfter_mono (line : List Char) (more : isOpen = true → wider = true) :
    isOpenAfter isWhole isOpen line = true → isOpenAfter isBegun wider line = true := by
  unfold isOpenAfter
  cases tagName? line with
  | some name => exact fun whole => isBegun_iff.2 (.inl whole)
  | none => exact more

theorem inkAll_given_le (line : List Char) (more : isOpen = true → wider = true) :
    inkAll (given isWhole isOpen line) ≤ inkAll (given isBegun wider line) := by
  unfold given
  cases tagName? line with
  | some name =>
    by_cases whole : isWhole name = true
    · simp [whole, isBegun_iff.2 (.inl whole)]
    · simp [whole, inkAll]
  | none =>
    cases isOpen with
    | true => simp [more rfl]
    | false => simp [inkAll]

/-- What is left of a longer name stands in the description. -/
theorem inkAll_given_lt {c : Char} {more : List Char}
    (h : tagName? line = some ("description".toList ++ c :: more)) (isOpen wider : Bool) :
    inkAll (given isWhole isOpen line) < inkAll (given isBegun wider line) := by
  have word := all_isWord_of_tagName? h
  have longer : "description".toList ++ c :: more = ("description".toList ++ [c]) ++ more := by
    rw [List.append_assoc, List.singleton_append]
  have begins : ('@' :: ("description".toList ++ [c])).isPrefixOf line = true := by
    rw [longer] at word h
    exact (isPrefixOf_iff fun d hd => word d (List.mem_append_left _ hd)).2 ⟨more, h⟩
  obtain ⟨rest, rfl⟩ := List.isPrefixOf_iff_prefix.1 begins
  have left : ('@' :: ("description".toList ++ [c]) ++ rest).drop descriptionTag.length =
      c :: rest := rfl
  have other : isWhole ("description".toList ++ c :: more) = false := by simp [isWhole]
  have begun : isBegun ("description".toList ++ c :: more) = true :=
    isBegun_iff.2 (.inr ⟨c, more, rfl⟩)
  have solid : isBlank c = false := (Plain.of_isWord (word c (by simp))).blank
  rw [given, given, h]
  simp only [other, begun, left, if_true, Bool.false_eq_true, if_false]
  simp [inkAll, Passage.text, ink, solid]

theorem inkAll_le (lines : List (List Char)) (more : isOpen = true → wider = true) :
    inkAll (ofLines isWhole isOpen lines) ≤ inkAll (ofLines isBegun wider lines) := by
  induction lines generalizing isOpen wider with
  | nil => exact Nat.le_refl _
  | cons line rest ih =>
    rw [ofLines, ofLines, inkAll_append, inkAll_append]
    exact Nat.add_le_add (inkAll_given_le line more) (ih (isOpenAfter_mono line more))

/-- A longer name adds to the description. -/
theorem inkAll_lt (beyond : TaggedBeyond "description" lines)
    (more : isOpen = true → wider = true) :
    inkAll (ofLines isWhole isOpen lines) < inkAll (ofLines isBegun wider lines) := by
  obtain ⟨line, hl, c, rest, named⟩ := beyond
  induction lines generalizing isOpen wider with
  | nil => cases hl
  | cons first others ih =>
    have after := isOpenAfter_mono first more
    rw [ofLines, ofLines, inkAll_append, inkAll_append]
    rcases List.mem_cons.1 hl with rfl | hl
    · exact Nat.add_lt_add_of_lt_of_le (inkAll_given_lt named _ _) (inkAll_le others after)
    · exact Nat.add_lt_add_of_le_of_lt (inkAll_given_le first more) (ih after hl)

end

/-- Without a longer name, the same lines give the same. -/
theorem ofLines_congr {opens wider : List Char → Bool} (isOpen : Bool)
    (same : ∀ line ∈ lines, ∀ name, tagName? line = some name → opens name = wider name) :
    ofLines opens isOpen lines = ofLines wider isOpen lines := by
  induction lines generalizing isOpen with
  | nil => rfl
  | cons line rest ih =>
    have here : given opens isOpen line = given wider isOpen line ∧
        isOpenAfter opens isOpen line = isOpenAfter wider isOpen line := by
      unfold given isOpenAfter
      cases named : tagName? line with
      | some name => simp [same line (by simp) name named]
      | none => simp
    rw [ofLines, ofLines, here.1, here.2, ih _ fun line hl => same line (by simp [hl])]

/-- The description is the one that the whole names of tags tell just where no line has a longer
name. -/
theorem descriptionOf_eq_iff (lines : List (List Char)) :
    descriptionOf lines = joined (ofLines isWhole true lines) ↔
      ¬TaggedBeyond "description" lines := by
  rw [descriptionOf_eq]
  constructor
  · intro same beyond
    have count := congrArg ink same
    rw [ink_joined, ink_joined] at count
    have added := inkAll_lt beyond (id : true = true → true = true)
    omega
  · intro none
    congr 1
    refine ofLines_congr true fun line hl name named => ?_
    rw [Bool.eq_iff_iff, isBegun_iff]
    refine or_iff_left ?_
    rintro ⟨c, more, rfl⟩
    exact none ⟨line, hl, c, more, named⟩

end Passage

/-! ## Whole names -/

/-- Scopes go by the whole names of tags just where a longer name comes with the whole name, and
descriptions just where there is no longer name. The occurrences of a tag always do: they begin with
its whole name, and there are as many of them as lines with that name. -/
theorem whole_names_iff (lines : List (List Char)) :
    ((Scope.ofLines lines).ByName lines ↔
      (TaggedBeyond "private" lines → Tagged "private" lines) ∧
        (TaggedBeyond "protected" lines → Tagged "protected" lines)) ∧
    (descriptionOf lines = Passage.joined (Passage.ofLines Passage.isWhole true lines) ↔
      ¬TaggedBeyond "description" lines) ∧
    ∀ kind : TagKind,
      (∀ text ∈ tagOccurrences kind.name.toList lines,
        tagName? text = some kind.name.toList) ∧
      (tagOccurrences kind.name.toList lines).length =
        lines.countP (tagName? · == some kind.name.toList) :=
  ⟨Scope.byName_ofLines_iff, Passage.descriptionOf_eq_iff lines, fun kind =>
    ⟨fun _ => tagName?_of_mem_tagOccurrences, length_tagOccurrences kind lines⟩⟩

example : (Scope.ofLines ["@privateKey".toList]).isPrivate = true ∧
    descriptionOf ["Text".toList, "@descriptions".toList] = "Text\ns".toList := by
  decide

end Docblock
