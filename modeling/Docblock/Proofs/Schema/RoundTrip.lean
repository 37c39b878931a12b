import Docblock.Proofs.Schema.Forms
import Docblock.Proofs.Schema.Reading

/-!
# Reading what is printed

Reading the text of a type gives the type back (`read_print`), at any depth and with any form inside
any other. The proof goes along the tree: the text of a type is no shorthand and no union, it has
its own outermost form only, and the texts inside are read by induction.

The induction is on trees and not on texts, so none of the cases has to find out what a text is made
of. What the scanners do with it is known from its being solid, and the form from its first and last
characters. Besides, no printed text is one of the words that stand for a longer expression
(`TypeTree.not_shorthand`), which has to be shown of all forms because those words are looked for
first, in capital letters too.

Remarks, quoted keys, optional fields and parentheses are not printed. Each has its own theorem
about what reading makes of it.
-/

namespace Docblock

open Text

/-! ## No text is a shorthand -/

/-- The words that stand for longer expressions, in small letters. -/
def shorthandWords : List (List Char) := [
  [], ['a', 'n', 'y'], ['[', ']'], ['a', 'r', 'r', 'a', 'y'], ['{', '}'],
  ['o', 'b', 'j', 'e', 'c', 't']]

theorem TypeExpr.shorthand?_eq_none {cs : List Char} (h : asciiLower cs ∉ shorthandWords) :
    shorthand? cs = none := by
  simp only [shorthandWords, List.mem_cons, List.not_mem_nil, or_false, not_or] at h
  simp [shorthand?, h]

/-- A character that stands in no shorthand. -/
theorem asciiLower_not_mem {cs : List Char} {c : Char} (hc : c ∈ cs)
    (other : ∀ word ∈ shorthandWords, c.toLower ∉ word) : asciiLower cs ∉ shorthandWords :=
  fun hw => other _ hw (List.mem_map_of_mem hc)

theorem toLower_eq_self {c : Char} (h : ¬(65 ≤ c.toNat ∧ c.toNat ≤ 90)) : c.toLower = c :=
  dif_neg h

/-- No letter has a mark for its small letter. -/
theorem toLower_not_mem_marks {c : Char} (h : Plain c) : c.toLower ∉ marks := by
  by_cases upper : 65 ≤ c.toNat ∧ c.toNat ≤ 90
  · have letters : ∀ n < 26, (Char.ofNat (65 + n)).toLower ∉ marks := by decide
    have := letters (c.toNat - 65) (by omega)
    rwa [Nat.add_sub_cancel' upper.1, Char.ofNat_toNat] at this
  · rw [toLower_eq_self upper]
    exact h.mark

theorem toLower_of_isDigit {c : Char} (h : c.isDigit = true) :
    ∀ word ∈ shorthandWords, c.toLower ∉ word := by
  have same : c.toLower = c := by
    refine toLower_eq_self fun upper => ?_
    simp only [Char.isDigit, Bool.and_eq_true, decide_eq_true_eq, ge_iff_le] at h
    have low : 65 ≤ 57 := Nat.le_trans upper.1 h.2
    exact absurd low (by decide)
  have digits : ∀ word ∈ shorthandWords, ∀ d ∈ word, d.isDigit = false := by decide
  intro word hw hm
  rw [same] at hm
  rw [digits word hw c hm] at h
  cases h

theorem wholeText_not_shorthand (n : Int) :
    asciiLower (NumberLiteral.wholeText n) ∉ shorthandWords := by
  obtain ⟨c, hc⟩ : ∃ c, c ∈ Nat.toDigits 10 n.natAbs :=
    List.exists_mem_of_length_pos Nat.length_toDigits_pos
  have mem : c ∈ NumberLiteral.wholeText n := by
    unfold NumberLiteral.wholeText
    split
    · exact List.mem_cons_of_mem _ hc
    · exact hc
  exact asciiLower_not_mem mem
    (toLower_of_isDigit (Nat.isDigit_of_mem_toDigits (by decide) (by decide) hc))

theorem TypeName.not_shorthand (name : TypeName) : asciiLower name.chars ∉ shorthandWords := by
  intro hw
  have reserved := name.unreserved
  have bracket : ∀ mark ∈ marks, mark ∉ asciiLower name.chars := by
    intro mark hm h
    obtain ⟨c, hc, rfl⟩ := List.mem_map.1 h
    exact toLower_not_mem_marks (.of_isWord (name.word c hc)) hm
  simp only [shorthandWords, List.mem_cons, List.not_mem_nil, or_false] at hw
  rcases hw with h | h | h | h | h | h
  · exact name.nonempty (List.map_eq_nil_iff.1 h)
  · rw [h] at reserved
    exact reserved (by decide)
  · rw [h] at bracket
    exact bracket '[' (by decide) (by decide)
  · rw [h] at reserved
    exact reserved (by decide)
  · rw [h] at bracket
    exact bracket '{' (by decide) (by decide)
  · rw [h] at reserved
    exact reserved (by decide)

theorem TypeTree.not_shorthand (tree : TypeTree) : asciiLower tree.print ∉ shorthandWords := by
  cases tree with
  | any => exact (by decide : asciiLower ['*'] ∉ shorthandWords)
  | boolean b =>
    have word : ∀ b : Bool,
        asciiLower (if b then "true" else "false").toList ∉ shorthandWords := by decide
    exact word b
  | integer n short => exact wholeText_not_shorthand n
  | string body => exact asciiLower_not_mem (List.mem_cons_self : '\'' ∈ '\'' :: _) (by decide)
  | primitive name =>
    have word : asciiLower name.name.toList ∉ shorthandWords := by cases name <;> decide
    exact word
  | null => exact (by decide : asciiLower "null".toList ∉ shorthandWords)
  | undefined => exact (by decide : asciiLower "undefined".toList ∉ shorthandWords)
  | array element =>
    have mem : '<' ∈ enclosed "Array" '<' element.print '>' := by simp [enclosed]
    exact asciiLower_not_mem mem (by decide)
  | map key value =>
    have mem : '<' ∈ enclosed "Object" '<' (key.print ++ ',' :: ' ' :: value.print) '>' := by
      simp [enclosed]
    exact asciiLower_not_mem mem (by decide)
  | tuple items =>
    have lower : asciiLower ('[' :: (items.print ++ [']'])) ∉ shorthandWords := by
      simp [asciiLower, shorthandWords, items.solid.nonempty]
    exact lower
  | object fields =>
    have lower : asciiLower ('{' :: (fields.print ++ ['}'])) ∉ shorthandWords := by
      simp [asciiLower, shorthandWords, fields.solid.nonempty]
    exact lower
  | named name => exact name.not_shorthand

/-! ## Members -/

theorem unquote_of_solid {stops w : List Char} (h : Solid stops w)
    (quote : ∀ c ∈ w.head?, isQuote c = false) : unquote w = w := by
  unfold unquote
  rw [h.tight.trim_eq]
  split
  · rename_i c d rest
    rw [if_neg]
    intro hq
    rw [quote c (by simp)] at hq
    cases hq.1
  · rfl

theorem Member.ofText_item {stops text : List Char} (h : Solid stops text) :
    Member.ofText false text = .ok ⟨[], some ([], text, [])⟩ := by
  unfold Member.ofText
  rw [h.leadingRemark?_eq]
  simp [h.nonempty, keyAndType, h.trailingRemark_eq]

/-- A member with a key of any kind. -/
theorem Member.ofText_keyed {key : List Char} (h : Solid typeStops key) (type : TypeUnion) :
    Member.ofText true (key ++ ':' :: ' ' :: type.print) =
      .ok ⟨[], some (unquote (key.filter (· != ' ')), type.print, [])⟩ := by
  have solid := solid_keyed h type
  unfold Member.ofText
  rw [solid.leadingRemark?_eq]
  simp [keyAndType, splitKey, split_keyed h type, join, type.solid.trailingRemark_eq]

/-- A key without quotes comes out as it is written. -/
theorem Identifier.unquote_filter (key : Identifier) :
    unquote (key.chars.filter (· != ' ')) = key.chars := by
  have spaces : key.chars.filter (· != ' ') = key.chars := by
    refine List.filter_eq_self.2 fun c hc => ?_
    have := (key.plain c hc).blank
    simp only [bne_iff_ne, ne_eq]
    rintro rfl
    cases this
  rw [spaces]
  exact unquote_of_solid key.solid fun c hc => (key.plain c (List.mem_of_head? hc)).quote

theorem Member.ofText_field (key : Identifier) (type : TypeUnion) :
    Member.ofText true (fieldText key type) = .ok ⟨[], some (key.chars, type.print, [])⟩ := by
  rw [fieldText, Member.ofText_keyed key.solid, key.unquote_filter]

namespace TypeExpr

theorem documentLast_nil (done : List (Field TypeExpr)) : documentLast [] done = .ok done := by
  cases done <;> rfl

theorem makeField_item (place : Nat) (types : List TypeExpr) :
    makeField false place [] [] types = .ok ⟨toString place, types, "", []⟩ := rfl

/-- A field with a key without quotes has what its remark says. -/
theorem makeField_identifier (place : Nat) (key : Identifier) (trailing : List Char)
    (types : List TypeExpr) :
    makeField true place key.chars trailing types = (do
      let (description, filters) ← Filter.ofTail trailing types
      return ⟨String.ofList key.chars, types, description, filters⟩) := by
  have last : key.chars.getLast? ≠ some '?' := by
    intro hl
    have := key.word _ (List.mem_of_getLast? hl)
    exact absurd this (by decide)
  unfold makeField
  simp only [Bool.not_true, Bool.false_eq_true, if_false, if_neg last]

theorem makeField_field (place : Nat) (key : Identifier) (types : List TypeExpr) :
    makeField true place key.chars [] types = .ok ⟨String.ofList key.chars, types, "", []⟩ :=
  makeField_identifier place key [] types

/-- A text that is no shorthand and a piece of its own is read by its form. -/
theorem read_tree (tree : TypeTree) :
    read tree.print = readForm (String.ofList tree.print) tree.layer := by
  have solid := tree.solid
  have members : unionMembers? tree.print = none := by
    have pieces : split unionSeparators tree.print = [tree.print] :=
      (solid.mono (by decide)).split_eq
    simp [unionMembers?, pieces]
  rw [read_of_form (by rw [solid.tight.trim_eq]; exact shorthand?_eq_none tree.not_shorthand)
    (by rw [solid.tight.trim_eq]; exact members), solid.tight.trim_eq, solid.unwrap_eq,
    tree.ofText_print]

/-- Alternatives with a bar between them are a union. -/
theorem unionMembers?_more (type : TypeTree) (rest : TypeUnion) :
    unionMembers? (TypeUnion.more type rest).print = some (TypeUnion.more type rest).texts := by
  have pieces : split unionSeparators (TypeUnion.more type rest).print =
      (TypeUnion.more type rest).texts := TypeUnion.split_print _
  have several : 1 < (TypeUnion.more type rest).texts.length := by
    cases rest <;> simp [TypeUnion.texts]
  have nonempty : (TypeUnion.more type rest).texts.filter (!·.isEmpty) =
      (TypeUnion.more type rest).texts := by
    refine List.filter_eq_self.2 fun text ht => ?_
    simp [(TypeUnion.solid_texts _ text ht).nonempty]
  unfold unionMembers?
  rw [pieces]
  dsimp only
  rw [if_pos several, nonempty]

theorem read_more (type : TypeTree) (rest : TypeUnion)
    (h : readAll (TypeUnion.more type rest).texts = .ok (TypeUnion.more type rest).types) :
    read (TypeUnion.more type rest).print = .ok (TypeUnion.more type rest).types := by
  have lower : asciiLower (TypeUnion.more type rest).print ∉ shorthandWords :=
    asciiLower_not_mem (by simp [TypeUnion.print] : '|' ∈ _) (by decide)
  have tight := (TypeUnion.solid (.more type rest)).tight.trim_eq
  have nonempty : ¬(TypeUnion.more type rest).types.isEmpty = true := by simp [TypeUnion.types]
  rw [read_of_union (by rw [tight]; exact shorthand?_eq_none lower)
    (by rw [tight]; exact unionMembers?_more type rest), h]
  exact congrArg Except.ok (if_neg nonempty)

/-- A member whose key and types are read is one more field. -/
theorem readFields_member {keyed : Bool} {text key type : List Char} {types : List TypeExpr}
    {done : List (Field TypeExpr)} {field : Field TypeExpr} (rest : List (List Char))
    (hm : Member.ofText keyed text = .ok ⟨[], some (key, type, [])⟩) (ht : read type = .ok types)
    (hf : makeField keyed done.length key [] types = .ok field) :
    readFields keyed (text :: rest) done = readFields keyed rest (field :: done) := by
  have documented := documentLast_nil done
  rw [readFields_cons, hm]
  dsimp only [bind, Except.bind]
  rw [documented]
  dsimp only
  rw [ht]
  dsimp only
  rw [hf]

end TypeExpr

open TypeExpr

mutual

theorem TypeTree.read_print : (tree : TypeTree) → read tree.print = .ok [tree.type]
  | .any => read_tree _
  | .boolean b => read_tree _
  | .integer n short => read_tree _
  | .string body => read_tree _
  | .primitive name => read_tree _
  | .null => read_tree _
  | .undefined => read_tree _
  | .array element => by
    rw [read_tree, TypeTree.layer, readForm, element.read_print.1]
    rfl
  | .map key value => by
    rw [read_tree, TypeTree.layer, readForm, key.read_print.1, value.read_print.1]
    rfl
  | .tuple items => by
    rw [read_tree, TypeTree.layer, readForm, items.read_texts []]
    rfl
  | .object fields => by
    rw [read_tree, TypeTree.layer, readForm, fields.read_texts []]
    rfl
  | .named name => read_tree _

theorem TypeUnion.read_print : (union : TypeUnion) →
    read union.print = .ok union.types ∧ readAll union.texts = .ok union.types
  | .one type => by
    refine ⟨type.read_print, ?_⟩
    rw [TypeUnion.texts, readAll, type.read_print, readAll]
    rfl
  | .more type rest => by
    -- The text falls into those of the alternatives, which are read one by one.
    have all : readAll (TypeUnion.more type rest).texts = .ok (TypeUnion.more type rest).types := by
      rw [TypeUnion.texts, readAll, type.read_print, rest.read_print.2]
      rfl
    exact ⟨read_more type rest all, all⟩

theorem TypeItems.read_texts : (items : TypeItems) → (done : List (Field TypeExpr)) →
    readFields false items.texts done = .ok (done.reverse ++ items.fields done.length)
  | .one item, done => by
    rw [TypeItems.texts, readFields_member [] (Member.ofText_item item.solid) item.read_print.1
      (makeField_item _ _), readFields, List.reverse_cons]
    rfl
  | .more item rest, done => by
    rw [TypeItems.texts, readFields_member _ (Member.ofText_item item.solid) item.read_print.1
      (makeField_item _ _), rest.read_texts, List.reverse_cons, List.append_assoc]
    rfl

theorem TypeFields.read_texts : (fields : TypeFields) → (done : List (Field TypeExpr)) →
    readFields true fields.texts done = .ok (done.reverse ++ fields.fields)
  | .one key type, done => by
    rw [TypeFields.texts, readFields_member [] (Member.ofText_field key type) type.read_print.1
      (makeField_field _ key _), readFields, List.reverse_cons]
    rfl
  | .more key type rest, done => by
    rw [TypeFields.texts, readFields_member _ (Member.ofText_field key type) type.read_print.1
      (makeField_field _ key _), rest.read_texts, List.reverse_cons, List.append_assoc]
    rfl

end

/-- The text of alternatives is read as their types, one by one and in the same order. -/
theorem read_printed_types (union : TypeUnion) :
    TypeExpr.ofString (String.ofList union.print) = .ok union.types := by
  rw [TypeExpr.ofString, String.toList_ofList]
  exact union.read_print.1

end Docblock
