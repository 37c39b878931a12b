import Docblock.Proofs.Schema.Reading
import Docblock.Proofs.Schema.RoundTrip

/-!
# The remark that documents a field

The remark after a field documents it, and so does a remark in front of the next member. Of the
remarks of a field the last decides: its description and its filters take the place of what the
remarks before it said, also where it says nothing of filters. So a field keeps a filter of its own
remark just when no remark comes later, or the last one has that filter too
(`exists_remarked_of_read`).

Members and fields are not in step: a member may be a remark only, and the remark of a member
belongs to the field before it. So the members are first sorted into the fields with the remarks
that follow them (`writtenFields`), which is a definition about texts alone, and then compared with
the fields that were read. Remarks in front of the first field belong to none and are lost, which is
not an error.

That a later remark silently drops filters is what happens, not what is wished for. The theorem says
exactly when, for every text that can be read.
-/

namespace Docblock

open Text

/-! ## Fields as they are written -/

/-- A field as it is written: its key, the text of its type, the remark after it, and the remarks
in front of the members that follow, up to the next field. -/
structure WrittenField where
  key : List Char
  type : List Char
  trailing : List Char
  later : List (List Char)

/-- The last of some remarks that is not empty. -/
def lastRemark? (remarks : List (List Char)) : Option (List Char) :=
  (remarks.filter fun remark => !remark.isEmpty).getLast?

/-- The remarks in front of the first field, and the fields with the remarks that follow them. -/
def writtenFields : List Member → List (List Char) × List WrittenField
  | [] => ([], [])
  | member :: rest =>
    match member.content with
    | none => (member.leading :: (writtenFields rest).1, (writtenFields rest).2)
    | some (key, type, trailing) =>
      ([member.leading], ⟨key, type, trailing, (writtenFields rest).1⟩ :: (writtenFields rest).2)

namespace TypeExpr

variable {keyed : Bool} {cs : List Char} {texts : List (List Char)}

/-- A field that has what its remarks say. The last decides, so of the filters of the field's own
remark those stay that it has as well. -/
structure Remarked (written : WrittenField) (field : Field TypeExpr) : Prop where
  decided : Filter.ofTail ((lastRemark? written.later).getD written.trailing) field.types =
    .ok (field.description, field.filters)
  own : ∃ description filters,
    Filter.ofTail written.trailing field.types = .ok (description, filters) ∧
      ∀ filter ∈ filters, filter ∈ field.filters ↔ ∀ remark ∈ lastRemark? written.later,
        ∃ description filters,
          Filter.ofTail remark field.types = .ok (description, filters) ∧ filter ∈ filters

/-! ## Remarks on the last field -/

/-- Remarks one after the other, on the field that is the last at the time. -/
def documentAll (remarks : List (List Char)) (done : List (Field TypeExpr)) :
    Except Fault (List (Field TypeExpr)) :=
  remarks.foldlM (fun done remark => documentLast remark done) done

/-- Before the first field remarks document nothing. -/
theorem documentAll_nil (remarks : List (List Char)) : documentAll remarks [] = .ok [] := by
  induction remarks with
  | nil => rfl
  | cons remark remarks ih => exact ih

/-- One remark leaves the key and the types alone, and the fields before. -/
theorem documentLast_cons {remark : List Char} {field : Field TypeExpr}
    {before done : List (Field TypeExpr)} (some : remark ≠ [])
    (h : documentLast remark (field :: before) = .ok done) :
    ∃ field', done = field' :: before ∧ field'.types = field.types ∧
      Filter.ofTail remark field.types = .ok (field'.description, field'.filters) := by
  rw [documentLast, if_neg (by simpa using some)] at h
  obtain ⟨⟨description, filters⟩, read, h⟩ := bind_eq_ok.1 h
  rw [pure_eq_ok] at h
  exact ⟨_, h.symm, rfl, read⟩

/-- Of several remarks the last decides. -/
theorem documentAll_cons {remarks : List (List Char)} {trailing : List Char}
    {field : Field TypeExpr} {before done : List (Field TypeExpr)}
    (own : Filter.ofTail trailing field.types = .ok (field.description, field.filters))
    (h : documentAll remarks (field :: before) = .ok done) :
    ∃ field', done = field' :: before ∧ field'.types = field.types ∧
      Filter.ofTail ((lastRemark? remarks).getD trailing) field.types =
        .ok (field'.description, field'.filters) := by
  induction remarks generalizing trailing field with
  | nil =>
    rw [documentAll, List.foldlM_nil, pure_eq_ok] at h
    exact ⟨field, h.symm, rfl, own⟩
  | cons remark remarks ih =>
    rw [documentAll, List.foldlM_cons] at h
    obtain ⟨done', first, h⟩ := bind_eq_ok.1 h
    by_cases none : remark = []
    · subst none
      cases first
      exact ih own h
    · obtain ⟨field', rfl, types, said⟩ := documentLast_cons none first
      rw [← types] at said
      obtain ⟨field'', rfl, types', decided⟩ := ih said h
      refine ⟨field'', rfl, types'.trans types, ?_⟩
      have last : lastRemark? (remark :: remarks) = some ((lastRemark? remarks).getD remark) := by
        rw [lastRemark?, List.filter_cons_of_pos (by simpa using none), List.getLast?_cons]
        rfl
      rw [last, Option.getD_some, ← types]
      exact decided

/-! ## Members -/

/-- A field is made with its own remark, which is read for the types that it gets. -/
theorem ofTail_of_makeField {place : Nat} {key trailing : List Char} {types : List TypeExpr}
    {field : Field TypeExpr} (h : makeField keyed place key trailing types = .ok field) :
    Filter.ofTail trailing field.types = .ok (field.description, field.filters) := by
  obtain ⟨⟨description, filters⟩, read, h⟩ := bind_eq_ok.1 h
  rw [pure_eq_ok] at h
  subst h
  exact read

theorem Remarked.of_ofTail {written : WrittenField} {own field : Field TypeExpr}
    (types : field.types = own.types)
    (first : Filter.ofTail written.trailing own.types = .ok (own.description, own.filters))
    (decided : Filter.ofTail ((lastRemark? written.later).getD written.trailing) own.types =
      .ok (field.description, field.filters)) : Remarked written field := by
  rw [← types] at first decided
  refine ⟨decided, own.description, own.filters, first, fun filter mem => ?_⟩
  cases last : lastRemark? written.later with
  | none =>
    rw [last, Option.getD_none, first, Except.ok.injEq, Prod.mk.injEq] at decided
    simp [← decided.2, mem]
  | some remark =>
    rw [last, Option.getD_some] at decided
    constructor
    · rintro kept _ ⟨⟩
      exact ⟨_, _, decided, kept⟩
    · intro has
      obtain ⟨description, filters, read, kept⟩ := has remark rfl
      rw [decided] at read
      cases read
      exact kept

/-- What the members that are left add to the fields read so far: their own fields, and the
remarks in front of the first of these, which go to the last field so far. -/
theorem exists_remarked_of_readFields {done fields : List (Field TypeExpr)}
    (h : readFields keyed texts done = .ok fields) :
    ∃ members done' added, texts.mapM (Member.ofText keyed) = .ok members ∧
      documentAll (writtenFields members).1 done = .ok done' ∧
      fields = done'.reverse ++ added ∧
      List.Forall₂ Remarked (writtenFields members).2 added := by
  induction texts generalizing done with
  | nil =>
    rw [readFields] at h
    cases h
    exact ⟨[], done, [], rfl, rfl, by simp, .nil⟩
  | cons text texts ih =>
    rw [readFields_cons] at h
    obtain ⟨member, parts, h⟩ := bind_eq_ok.1 h
    obtain ⟨done₁, front, h⟩ := bind_eq_ok.1 h
    -- A member that is nothing but a remark speaks of the field before it. Any other is a field of
    -- its own, and the remarks that come after it decide about it.
    cases content : member.content with
    | none =>
      rw [content] at h
      obtain ⟨members, done', added, rest, later, rfl, all⟩ := ih h
      have written : writtenFields (member :: members) =
          (member.leading :: (writtenFields members).1, (writtenFields members).2) := by
        rw [writtenFields, content]
      refine ⟨member :: members, done', added, mapM_cons_eq_ok parts rest, ?_, rfl, ?_⟩
      · rw [written, documentAll, List.foldlM_cons]
        exact bind_eq_ok.2 ⟨done₁, front, later⟩
      · rw [written]
        exact all
    | some found =>
      obtain ⟨key, type, trailing⟩ := found
      rw [content] at h
      obtain ⟨types, readType, h⟩ := bind_eq_ok.1 h
      obtain ⟨own, made, h⟩ := bind_eq_ok.1 h
      obtain ⟨members, done', added, rest, later, rfl, all⟩ := ih h
      obtain ⟨field, rfl, sameTypes, decided⟩ := documentAll_cons (ofTail_of_makeField made) later
      have written : writtenFields (member :: members) = ([member.leading],
          ⟨key, type, trailing, (writtenFields members).1⟩ :: (writtenFields members).2) := by
        rw [writtenFields, content]
      refine ⟨member :: members, done₁, field :: added, mapM_cons_eq_ok parts rest, ?_, ?_, ?_⟩
      · rw [written, documentAll, List.foldlM_cons]
        exact bind_eq_ok.2 ⟨done₁, front, rfl⟩
      · simp
      · rw [written]
        exact .cons (.of_ofTail sameTypes (ofTail_of_makeField made) decided) all

/-! ## Object and tuple types -/

/-- A text that is one object type, or one tuple type, with the texts of its members. -/
structure MemberText (keyed : Bool) (cs : List Char) (texts : List (List Char)) : Prop where
  noWord : shorthand? (trim cs) = none
  noUnion : unionMembers? (trim cs) = none
  form : Layer.ofText (unwrap (trim cs)) = if keyed then .object texts else .tuple texts

/-- The type that has the fields of such a text. -/
def ofFields (keyed : Bool) (text : String) (fields : List (Field TypeExpr)) : TypeExpr :=
  if keyed then .object text fields else .tuple text fields

/-- The fields of an object or tuple type have what the last of their remarks says, and so they
keep those filters of their own remark that it has as well. -/
theorem exists_remarked_of_read {types : List TypeExpr} (literal : MemberText keyed cs texts)
    (accepted : read cs = .ok types) :
    ∃ members fields, texts.mapM (Member.ofText keyed) = .ok members ∧
      types = [ofFields keyed (String.ofList (trim cs)) fields] ∧
      List.Forall₂ Remarked (writtenFields members).2 fields := by
  have fieldsRead : ∃ fields, readFields keyed texts [] = .ok fields ∧
      types = [ofFields keyed (String.ofList (trim cs)) fields] := by
    rw [read_of_form literal.noWord literal.noUnion, literal.form] at accepted
    cases keyed
    all_goals
      obtain ⟨fields, found, accepted⟩ := bind_eq_ok.1 accepted
      rw [pure_eq_ok] at accepted
      exact ⟨fields, found, accepted.symm⟩
  obtain ⟨fields, found, rfl⟩ := fieldsRead
  obtain ⟨members, done, added, parts, front, rfl, all⟩ := exists_remarked_of_readFields found
  rw [documentAll_nil] at front
  cases front
  exact ⟨members, added, parts, rfl, all⟩

/-- An object type whose first field has a filter in its own remark, and then another remark. -/
def renoted : List Char :=
  "\x7ba: number // \x7bmin: 1\x7d\n, // note\n b: string\x7d".toList

/-- The members of `renoted`. -/
def renotedMembers : List (List Char) :=
  ["a: number // \x7bmin: 1\x7d".toList, "// note\n b: string".toList]

/-- The fields of `renoted`: the later remark has no filters, so the first field has none. -/
def renotedFields : List (Field TypeExpr) := [
  ⟨"a", [.primitive "number" .number], "note", []⟩,
  ⟨"b", [.primitive "string" .string], "", []⟩]

/-- The filter of the first remark is lost to the second. -/
theorem remarked_renoted :
    MemberText true renoted renotedMembers ∧
    read renoted = .ok [.object (String.ofList renoted) renotedFields] ∧
    ∃ members fields, renotedMembers.mapM (Member.ofText true) = .ok members ∧
      [.object (String.ofList renoted) renotedFields] =
        [ofFields true (String.ofList (trim renoted)) fields] ∧
      List.Forall₂ Remarked (writtenFields members).2 fields := by
  have literal : MemberText true renoted renotedMembers := ⟨rfl, by decide, by decide⟩
  have first : Member.ofText true "a: number // \x7bmin: 1\x7d".toList =
      .ok ⟨[], some (['a'], "number".toList, "\x7bmin: 1\x7d".toList)⟩ := by rfl
  have second : Member.ofText true "// note\n b: string".toList =
      .ok ⟨"note".toList, some (['b'], "string".toList, [])⟩ := by rfl
  have number : read "number".toList = .ok [.primitive "number" .number] :=
    (TypeUnion.one (.primitive .number)).read_print.1
  have string : read "string".toList = .ok [.primitive "string" .string] :=
    (TypeUnion.one (.primitive .string)).read_print.1
  have noted : makeField true 0 ['a'] "\x7bmin: 1\x7d".toList [.primitive "number" .number] =
      .ok ⟨"a", [.primitive "number" .number], "", [⟨"min", .int 1, ""⟩]⟩ := by rfl
  have later : documentLast "note".toList
      [⟨"a", [.primitive "number" .number], "", [⟨"min", .int 1, ""⟩]⟩] =
        .ok [⟨"a", [.primitive "number" .number], "note", []⟩] := by rfl
  have fields : readFields true renotedMembers [] = .ok renotedFields := by
    rw [renotedMembers, readFields_cons, first]
    refine bind_eq_ok.2 ⟨_, rfl, bind_eq_ok.2 ⟨[], rfl, ?_⟩⟩
    refine bind_eq_ok.2 ⟨_, number, bind_eq_ok.2 ⟨_, noted, ?_⟩⟩
    rw [readFields_cons, second]
    refine bind_eq_ok.2 ⟨_, rfl, bind_eq_ok.2 ⟨_, later, ?_⟩⟩
    refine bind_eq_ok.2 ⟨_, string, bind_eq_ok.2 ⟨_, rfl, ?_⟩⟩
    rw [readFields]
    rfl
  have accepted : read renoted = .ok [.object (String.ofList renoted) renotedFields] := by
    rw [read_of_form literal.noWord literal.noUnion, literal.form]
    exact bind_eq_ok.2 ⟨_, fields, rfl⟩
  exact ⟨literal, accepted, exists_remarked_of_read literal accepted⟩

end TypeExpr

end Docblock
