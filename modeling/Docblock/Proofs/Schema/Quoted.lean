import Docblock.Proofs.Schema.RoundTrip

/-!
# Quoted keys

An object type with one quoted key has one field, whatever commas, colons and slashes stand in the
quotes. Two things are done to the key as to one without quotes: its spaces are left out before the
quotes are taken off, and a question mark at its end makes the field optional after they are. So a
key comes out as it is written just when it has no space and no question mark at its end
(`read_quoted_iff`).

The key may not hold its own quote, a backslash or a bracket, which is what the contents of a string
literal are made of (`StringBody`). A bracket in quotes would be counted by the scan for the comma,
and then it is no longer clear where the key ends. Several fields are not needed: each member is
read by itself.
-/

namespace Docblock

open Text

/-- A key in single quotes. -/
def quotedKey (key : List Char) : List Char := '\'' :: (key ++ ['\''])

/-- An object type with one quoted key. -/
def quotedObject (key : StringBody) (type : TypeUnion) : List Char :=
  '{' :: (quotedKey key.chars ++ ':' :: ' ' :: type.print ++ ['}'])

/-- What a quoted key is taken for. -/
def quotedField (key : List Char) (types : List TypeExpr) : Field TypeExpr :=
  let kept := key.filter (· != ' ')
  if kept.getLast? = some '?' then
    ⟨String.ofList kept.dropLast, types ++ [.undefined "undefined"], "", []⟩
  else ⟨String.ofList kept, types, "", []⟩

theorem unquote_quotedKey (key : List Char) : unquote (quotedKey key) = key := by
  have tight : trim (quotedKey key) = quotedKey key :=
    (Tight.between (by decide) (by decide) key).trim_eq
  obtain ⟨d, rest, text⟩ : ∃ d rest, key ++ ['\''] = d :: rest :=
    List.exists_cons_of_ne_nil (by simp)
  have quote : (d :: rest).getLast? = some '\'' := by simp [← text]
  unfold unquote
  rw [tight, quotedKey, text]
  dsimp only
  rw [if_pos ⟨rfl, quote⟩, ← text, List.dropLast_concat]

theorem filter_quotedKey (key : List Char) :
    (quotedKey key).filter (· != ' ') = quotedKey (key.filter (· != ' ')) := by
  simp [quotedKey]

namespace TypeExpr

theorem makeField_quoted (place : Nat) (key : List Char) (types : List TypeExpr) :
    makeField true place (key.filter (· != ' ')) [] types = .ok (quotedField key types) := by
  unfold makeField quotedField
  by_cases mark : (key.filter (· != ' ')).getLast? = some '?'
  · simp only [Bool.not_true, Bool.false_eq_true, if_false, if_pos mark]
    rfl
  · simp only [Bool.not_true, Bool.false_eq_true, if_false, if_neg mark]
    rfl

/-- The field keeps the key and the types as they are just when the key has no space and no
question mark at its end. -/
theorem quotedField_eq_iff (key : List Char) (types : List TypeExpr) :
    quotedField key types = ⟨String.ofList key, types, "", []⟩ ↔
      ' ' ∉ key ∧ key.getLast? ≠ some '?' := by
  have spaces : key.filter (· != ' ') = key ↔ ' ' ∉ key := by
    rw [List.filter_eq_self]
    constructor
    · intro kept space
      exact absurd (kept _ space) (by decide)
    · intro free c hc
      have other : c ≠ ' ' := fun heq => free (heq ▸ hc)
      simpa using other
  unfold quotedField
  dsimp only
  split <;> rename_i mark
  · constructor
    · intro same
      simp at same
    · rintro ⟨free, last⟩
      rw [spaces.2 free] at mark
      exact absurd mark last
  · constructor
    · intro same
      have kept : key.filter (· != ' ') = key := by
        simpa using congrArg (·.key.toList) same
      exact ⟨spaces.1 kept, kept ▸ mark⟩
    · rintro ⟨free, -⟩
      rw [spaces.2 free]

/-- An object type with one quoted key is read as one field. -/
theorem read_quotedObject (key : StringBody) (type : TypeUnion) :
    read (quotedObject key type) = .ok [.object (String.ofList (quotedObject key type))
      [quotedField key.chars type.types]] := by
  have field : Solid [','] (quotedKey key.chars ++ ':' :: ' ' :: type.print) :=
    solid_keyed key.solid type
  have whole : Solid unionSeparators
      (enclosed "" '{' (quotedKey key.chars ++ ':' :: ' ' :: type.print) '}') :=
    .enclosed rfl (by decide) (by decide) (by decide) (by simp) field.balanced
  rw [← show quotedObject key type = enclosed "" '{' _ '}' from rfl] at whole
  have short : shorthand? (quotedObject key type) = none :=
    have quote : '\'' ∈ quotedObject key type := by simp [quotedObject, quotedKey]
    shorthand?_eq_none (asciiLower_not_mem quote (by decide))
  have alone : unionMembers? (quotedObject key type) = none := by
    simp [unionMembers?, whole.split_eq]
  have form : Layer.ofText (quotedObject key type) =
      .object [quotedKey key.chars ++ ':' :: ' ' :: type.print] := by
    rw [quotedObject, Layer.ofText_braces, field.split_eq]
  have member := Member.ofText_keyed key.solid type
  rw [← quotedKey, filter_quotedKey, unquote_quotedKey] at member
  have tight := whole.tight.trim_eq
  rw [read_of_form (by rw [tight, short]) (by rw [tight, alone]), tight, whole.unwrap_eq, form,
    readForm,
    readFields_member [] member type.read_print.1 (makeField_quoted _ _ _), readFields]
  rfl

/-- A quoted key comes out as it is written, with the types that its type is read as, just when it
has no space and no question mark at its end. -/
theorem read_quoted_iff (key : StringBody) (type : TypeUnion) :
    ∃ types, read type.print = .ok types ∧
      (read (quotedObject key type) = .ok [.object (String.ofList (quotedObject key type))
          [⟨String.ofList key.chars, types, "", []⟩]] ↔
        ' ' ∉ key.chars ∧ key.chars.getLast? ≠ some '?') ∧
      read (quotedObject key type) = .ok [.object (String.ofList (quotedObject key type))
        [quotedField key.chars types]] := by
  refine ⟨type.types, type.read_print.1, ?_, read_quotedObject key type⟩
  rw [read_quotedObject, ← quotedField_eq_iff key.chars type.types]
  constructor
  · intro same
    simpa using same
  · intro same
    rw [same]

end TypeExpr

end Docblock
