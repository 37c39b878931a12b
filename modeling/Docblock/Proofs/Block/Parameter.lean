import Docblock.Proofs.Block.Naming
import Docblock.Proofs.Block.Rendered
import Docblock.Proofs.Schema.Noted

/-!
# Parts of a parameter tag

A parameter tag is written with a type in braces, a name, a description after a dash, and brackets
or a sign where the argument may be left out (`Parameter.text`). All its parts are read back as they
were written (`Parameter.ofText_text`). The type only needs paired braces; a default may hold
brackets, dots and quotes.

How an argument is said to be optional is a choice of four (`Presence`), and one theorem covers them
all: each part of the reader is told what it makes of each form. A sign after the type and brackets
around the name at the same time are not among them. They would be read, but nobody could tell from
the tag afterwards which of them was there.

What the type is read as is not repeated. The theorem takes any type that can be read, and gives the
tag the types that it is read as.
-/

namespace Docblock

open Text

/-! ## Parameters as they are written -/

/-- How it is written that an argument has to be there, or that it may be left out: by brackets
around the name, with a default or without one, or by a sign after the type. -/
inductive Presence where
  | required
  | bracketed
  | defaulted (value : List Char)
  | signed

namespace Presence

/-- Whether the argument may be left out. -/
def isOptional : Presence → Bool
  | required => false
  | bracketed | defaulted _ | signed => true

/-- The default of the argument. -/
def default? : Presence → Option (List Char)
  | defaulted value => some value
  | required | bracketed | signed => none

/-- The type with the sign after it. -/
def typeText (type : List Char) : Presence → List Char
  | signed => type ++ ['=']
  | required | bracketed | defaulted _ => type

/-- The name with the brackets around it. -/
def nameText (name : List Char) : Presence → List Char
  | required | signed => name
  | bracketed => '[' :: (name ++ [']'])
  | defaulted value => '[' :: (name ++ '=' :: value ++ [']'])

/-- A default is a word without the sign that it is written after. -/
def Proper : Presence → Prop
  | defaulted value => value ≠ [] ∧ (∀ c ∈ value, isBlank c = false) ∧ '=' ∉ value
  | required | bracketed | signed => True

end Presence

/-- The parts that a parameter tag is written with. -/
structure Parameter where
  type : List Char
  name : List Char
  presence : Presence
  description : List Char

namespace Parameter

/-- The tag as it is written. -/
def text (parameter : Parameter) : List Char :=
  '@' :: 'p' :: 'a' :: 'r' :: 'a' :: 'm' :: ' ' :: '{' ::
    (parameter.presence.typeText parameter.type ++ '}' :: ' ' ::
      (parameter.presence.nameText parameter.name ++ ' ' :: '-' :: ' ' :: parameter.description))

/-- A trimmed type with paired braces and no sign at its end, a word as the name, and a trimmed
description on one line without braces. -/
structure Proper (parameter : Parameter) : Prop where
  type_ne : parameter.type ≠ []
  type_tight : Tight parameter.type
  type_braces : Paired '{' '}' parameter.type
  type_sure : parameter.type.getLast? ≠ some '='
  name_ne : parameter.name ≠ []
  name_word : ∀ c ∈ parameter.name, isBlank c = false
  name_plain : ∀ c ∈ ['.', '[', ']', '='], c ∉ parameter.name
  presence : parameter.presence.Proper
  description_tight : Tight parameter.description
  description_plain : ∀ c ∈ ['{', '\n', '\r'], c ∉ parameter.description

end Parameter

/-! ## Taking a tag apart -/

section

variable {type word name value description rest : List Char} {types : List TypeExpr}

/-- The word in front of a dash. -/
theorem splitWord_dash (ne : word ≠ []) (solid : ∀ c ∈ word, isBlank c = false) (rest : List Char) :
    splitWord (trim (' ' :: (word ++ ' ' :: '-' :: rest))) = (word, '-' :: trimEnd rest) := by
  obtain ⟨c, more, rfl⟩ := List.exists_cons_of_ne_nil ne
  have first : isBlank c = false := solid c (by simp)
  have trimmed : trim (' ' :: (c :: more ++ ' ' :: '-' :: rest)) =
      c :: more ++ ' ' :: '-' :: trimEnd rest := by
    have split : c :: more ++ ' ' :: '-' :: rest = c :: (more ++ [' '] ++ '-' :: rest) := by simp
    rw [← List.singleton_append, trim_blanks_append blanks_space, split,
      trim_append_cons first (by decide)]
    simp
  have start : trimStart (c :: more ++ ' ' :: '-' :: trimEnd rest) =
      c :: more ++ ' ' :: '-' :: trimEnd rest :=
    trimStart_append [] (by simp) (by rintro d ⟨⟩; exact first)
  have all : ∀ d ∈ c :: more, (!isBlank d) = true := fun d hd => by simp [solid d hd]
  unfold splitWord
  dsimp only
  rw [trimmed, start, List.takeWhile_append_of_pos all, List.dropWhile_append_of_pos all]
  simp [trimStart, isBlank]

theorem Tag.optionalName?_eq_none (h : '[' ∉ word) : optionalName? word = none := by
  have bare : Layer.between? '[' ']' word = none :=
    Layer.between?_eq_none_of_head fun opens => h (List.mem_of_head? opens)
  rw [optionalName?, bare]
  rfl

/-- What stands in brackets is a name up to the first equality sign. -/
theorem Tag.optionalName?_enclosed (ne : name ≠ []) (closer : ']' ∉ name) (sign : '=' ∉ name)
    (tail : ∀ c ∈ rest.head?, c = '=') :
    optionalName? ('[' :: (name ++ rest ++ [']'])) =
      match rest with
      | [] => some (name, none)
      | _ :: value => if value.isEmpty || value.contains '=' then none
        else some (name, some value) := by
  have all : ∀ c ∈ name, (c != '=') = true :=
    fun c hc => bne_iff_ne.2 fun same => sign (same ▸ hc)
  have stop : rest.takeWhile (· != '=') = [] := by
    cases rest with
    | nil => rfl
    | cons c rest =>
      rw [tail c rfl]
      rfl
  have front : (name ++ rest).takeWhile (· != '=') = name := by
    rw [List.takeWhile_append_of_pos all, stop, List.append_nil]
  have proper : ¬(name.isEmpty || name.contains ']') = true := by
    simp [ne, closer]
  rw [optionalName?, Layer.between?_enclosed]
  dsimp only [bind, Option.bind]
  rw [front, if_neg proper, List.drop_left]
  cases rest <;> rfl

theorem Tag.optionalName?_nameText (ne : name ≠ []) (plain : ∀ c ∈ ['.', '[', ']', '='], c ∉ name)
    (presence : Presence) : presence.Proper →
    optionalName? (presence.nameText name) =
      match presence with
      | .required | .signed => none
      | .bracketed => some (name, none)
      | .defaulted value => some (name, some value) := by
  intro proper
  have closer : ']' ∉ name := plain ']' (by simp)
  have sign : '=' ∉ name := plain '=' (by simp)
  have bare : optionalName? name = none := optionalName?_eq_none (plain '[' (by simp))
  cases presence with
  | required => exact bare
  | signed => exact bare
  | bracketed =>
    have enclosed := @optionalName?_enclosed name [] ne closer sign (by simp)
    rwa [List.append_nil] at enclosed
  | defaulted value =>
    obtain ⟨some_, -, one⟩ := proper
    have enclosed := @optionalName?_enclosed name ('=' :: value) ne closer sign
      (by rintro c ⟨⟩; rfl)
    have given : ¬(value.isEmpty || value.contains '=') = true := by simp [some_, one]
    dsimp only at enclosed
    rwa [if_neg given] at enclosed

theorem Tag.optionalType?_typeText (ne : type ≠ []) (tight : Tight type)
    (sure : type.getLast? ≠ some '=') (presence : Presence) :
    optionalType? (presence.typeText type) =
      match presence with
      | .signed => some type
      | .required | .bracketed | .defaulted _ => none := by
  have unsigned : optionalType? type = none := if_neg fun ends => sure ends.2
  cases presence with
  | required => exact unsigned
  | bracketed => exact unsigned
  | defaulted value => exact unsigned
  | signed =>
    have long : 2 ≤ (type ++ ['=']).length := by
      have := List.length_pos_iff.2 ne
      rw [List.length_append, List.length_singleton]
      omega
    rw [Presence.typeText, optionalType?, if_pos ⟨long, by simp⟩, List.dropLast_concat,
      tight.trim_eq]

theorem Tag.splitMember?_eq_none (h : '.' ∉ name) : splitMember? name = none := by
  rw [splitMember?, splitOn_of_not_mem h]

/-- A description behind a dash, without filters. -/
theorem Filter.ofTail_dash (tight : Tight description)
    (plain : ∀ c ∈ ['{', '\n', '\r'], c ∉ description) (types : List TypeExpr) :
    ofTail ('-' :: trimEnd (' ' :: description)) types = .ok (String.ofList description, []) := by
  have undashed : trimStart (trimEnd (' ' :: description)) = description := by
    obtain ⟨before, hb, split⟩ := @exists_blanks_trimEnd (' ' :: description)
    have text : trim (' ' :: description) = description := trim_append [' '] blanks_space tight
    rw [split, text, trimStart_append before hb tight.starts]
  have line : ∀ c ∈ description, c ≠ '\n' ∧ c ≠ '\r' := by
    intro c hc
    have feed : c ≠ '\n' := fun same => plain '\n' (by simp) (same ▸ hc)
    have carriage : c ≠ '\r' := fun same => plain '\r' (by simp) (same ▸ hc)
    exact ⟨feed, carriage⟩
  have flat : flatten ('-' :: trimEnd (' ' :: description)) = description := by
    have start : trimStart ('-' :: trimEnd (' ' :: description)) =
        '-' :: trimEnd (' ' :: description) := rfl
    rw [flatten_eq, start, undash, undashed, onOneLine_eq line]
  have brace : '{' ∉ '-' :: trimEnd (' ' :: description) := by
    simp only [List.mem_cons, not_or]
    refine ⟨by decide, fun hm => ?_⟩
    rcases List.mem_cons.1 (mem_of_mem_trimEnd hm) with same | hm
    · exact absurd same (by decide)
    · exact plain '{' (by simp) hm
  rw [ofTail_of_plain brace, flat, tight.trim_eq]

end

/-! ## Reading a tag back -/

namespace Parameter

variable {types : List TypeExpr} {parameter : Parameter}

/-- The tag that a parameter makes. -/
def tag (parameter : Parameter) (types : List TypeExpr) : Tag where
  kind := .param
  typeText := String.ofList parameter.type
  types := types
  name := String.ofList parameter.name
  description := String.ofList parameter.description
  filters := []
  optional := parameter.presence.isOptional
  defaultValue := parameter.presence.default?.map String.ofList
  member := none
  place := 0

theorem Proper.tight_typeText (proper : parameter.Proper) :
    Tight (parameter.presence.typeText parameter.type) := by
  cases parameter.presence with
  | required => exact proper.type_tight
  | bracketed => exact proper.type_tight
  | defaulted value => exact proper.type_tight
  | signed =>
    refine ⟨fun c hc => ?_, fun c hc => ?_⟩
    · rw [Presence.typeText, head?_append_left proper.type_ne] at hc
      exact proper.type_tight.starts c hc
    · rw [Presence.typeText, List.getLast?_concat] at hc
      cases hc
      rfl

theorem Proper.paired_typeText (proper : parameter.Proper) :
    Paired '{' '}' (parameter.presence.typeText parameter.type) := by
  cases parameter.presence with
  | required => exact proper.type_braces
  | bracketed => exact proper.type_braces
  | defaulted value => exact proper.type_braces
  | signed => exact proper.type_braces.append (.of_free (by decide) (by decide))

/-- A name is a word with its brackets too. -/
theorem Proper.nameText (proper : parameter.Proper) :
    parameter.presence.nameText parameter.name ≠ [] ∧
      ∀ c ∈ parameter.presence.nameText parameter.name, isBlank c = false := by
  have word := proper.name_word
  have given := proper.presence
  cases presence : parameter.presence with
  | required => exact ⟨proper.name_ne, word⟩
  | signed => exact ⟨proper.name_ne, word⟩
  | bracketed =>
    refine ⟨List.cons_ne_nil _ _, fun c hc => ?_⟩
    simp only [Presence.nameText, List.mem_cons, List.mem_append, List.not_mem_nil, or_false] at hc
    rcases hc with rfl | hc | rfl
    · rfl
    · exact word c hc
    · rfl
  | defaulted value =>
    rw [presence] at given
    refine ⟨List.cons_ne_nil _ _, fun c hc => ?_⟩
    simp only [Presence.nameText, List.mem_cons, List.mem_append, List.not_mem_nil, or_false] at hc
    rcases hc with rfl | (hc | rfl | hc) | rfl
    · rfl
    · exact word c hc
    · rfl
    · exact given.2.1 c hc
    · rfl

/-- A parameter tag is read as it was written: its type, its name, its description without filters,
and whether the argument may be left out and what it is then. -/
theorem ofText_text (proper : parameter.Proper) (read : TypeExpr.read parameter.type = .ok types) :
    Tag.ofText .param parameter.text = .ok (parameter.tag types) := by
  have bare : Tag.dropTag parameter.text = parameter.text.drop 7 := rfl
  have taken : Tag.takeType (Tag.dropTag parameter.text) =
      (parameter.presence.typeText parameter.type,
        ' ' :: (parameter.presence.nameText parameter.name ++
          ' ' :: '-' :: ' ' :: parameter.description)) := by
    rw [bare]
    show Tag.takeType ('{' :: (_ ++ '}' :: _)) = _
    rw [Tag.takeType_braces (proper.paired_typeText.closingFrom_eq (by decide) _),
      proper.tight_typeText.trim_eq]
  have split := splitWord_dash proper.nameText.1 proper.nameText.2 (' ' :: parameter.description)
  have name := Tag.optionalName?_nameText proper.name_ne proper.name_plain parameter.presence
    proper.presence
  have type := Tag.optionalType?_typeText proper.type_ne proper.type_tight proper.type_sure
    parameter.presence
  have whole := Tag.splitMember?_eq_none (proper.name_plain '.' (by simp))
  have after := Filter.ofTail_dash proper.description_tight proper.description_plain types
  have meant : (Tag.optionalType? (parameter.presence.typeText parameter.type)).getD
      (parameter.presence.typeText parameter.type) = parameter.type := by
    rw [type]
    cases parameter.presence <;> rfl
  have typed : TagKind.param ≠ .imports := nofun
  rw [Tag.ofText_named rfl typed taken split (by rwa [meant]) after, meant, name, type]
  unfold tag
  cases parameter.presence <;>
    simp [Presence.nameText, Presence.default?, Presence.isOptional, whole]

/-- The type of lists of objects, or null. -/
def nullableRows : TypeUnion :=
  .more (.array (.one (.object (.one ⟨['r', 'o', 'w'], by decide, by decide⟩
    (.one (.primitive .number)))))) (.one .null)

/-- A parameter with brackets and quotes in its default, and a dash in its name. -/
def rows : Parameter where
  type := "Array<\x7brow: number\x7d>|null".toList
  name := "row-s$".toList
  presence := .defaulted "['].x'\x7d]".toList
  description := "The - [rows]".toList

/-- The type with its braces, the default with its brackets and the description are told apart. -/
theorem ofText_text_rows : rows.Proper ∧ TypeExpr.read rows.type = .ok nullableRows.types ∧
    rows.text = ("@param \x7bArray<\x7brow: number\x7d>|null\x7d [row-s$=['].x'\x7d]] - " ++
      "The - [rows]").toList ∧
    Tag.ofText .param rows.text = .ok (rows.tag nullableRows.types) := by
  have proper : rows.Proper := {
    type_ne := by decide
    type_tight := ⟨by rintro _ ⟨⟩; rfl, by rintro _ ⟨⟩; rfl⟩
    type_braces := by decide
    type_sure := by decide
    name_ne := by decide
    name_word := by decide
    name_plain := by decide
    presence := ⟨by decide, by decide, by decide⟩
    description_tight := ⟨by rintro _ ⟨⟩; rfl, by rintro _ ⟨⟩; rfl⟩
    description_plain := by decide }
  have read : TypeExpr.read rows.type = .ok nullableRows.types := nullableRows.read_print.1
  exact ⟨proper, read, by decide, ofText_text proper read⟩

end Parameter

end Docblock
