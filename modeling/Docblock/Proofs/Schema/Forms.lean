import Docblock.Proofs.Schema.Printed
import Docblock.Schema.Layer

/-!
# The outermost forms of printed types

The forms of a type are tried in a fixed order, and the first that a text has is its form. What a
text begins and ends with rules out all but its own form: a printed type is read as the form that
its tree has (`TypeTree.ofText_print`).

The order cannot be left out of account. A literal comes before a name, so that `true` is no name,
and an array suffix before a tuple, so that a tuple must not end in two brackets of its own. Every
proof below therefore names the forms that come before the right one and says what rules each out.
Most of them are ruled out for all texts with a mark in them at once (`Unworded`): a word has no
marks, and a number or a string begins otherwise.

Nothing is shown of texts that are not printed from a tree, except that braces around any text make
an object type (`Layer.ofText_braces`). What stands inside the forms is read elsewhere, and
parentheses are taken off before a form is asked for.
-/

namespace Docblock

open Text

variable {cs body : List Char}

/-! ## Forms that are ruled out

Each lemma asks for as little of the text as its form looks at: the first character, the last, or
the word that it begins with. They do not mention printed types, so they serve for other texts
too. -/

namespace NumberLiteral

/-- A literal begins with a digit, a sign or a point, or is the word for what is infinite. -/
theorem ofText?_eq_none {c : Char} {rest : List Char} (digit : isDigit c = false) (minus : c ≠ '-')
    (point : c ≠ '.') (infinity : c :: rest ≠ ['I', 'n', 'f', 'i', 'n', 'i', 't', 'y']) :
    ofText? (c :: rest) = none := by
  have span : spanDigits (c :: rest) = ([], c :: rest) := by
    rw [spanDigits, List.span_eq_takeWhile_dropWhile, List.takeWhile_cons_of_neg (by simp [digit]),
      List.dropWhile_cons_of_neg (by simp [digit])]
  -- No sign is read, and after that neither a point nor a digit is met.
  have read : read? (c :: rest) = readUnsigned false (c :: rest) := by
    unfold read?
    split
    · rename_i heq
      cases heq
      exact absurd rfl minus
    · rfl
  have unsigned : ∀ literal, readUnsigned false (c :: rest) ≠ some (literal, []) := by
    intro literal heq
    unfold readUnsigned at heq
    rw [span] at heq
    split at heq <;> rename_i hc
    · cases hc
      exact point rfl
    · cases heq
      cases hc
      exact infinity rfl
    · cases heq
    · cases hc
      exact point rfl
    · cases hc
      contradiction
  unfold ofText?
  rw [read]
  split
  · rename_i literal heq
    exact absurd heq (unsigned literal)
  · rfl

end NumberLiteral

namespace Layer

theorem word?_eq_none (h : cs ∉ [[], ['*'], ['a', 'n', 'y'], ['t', 'r', 'u', 'e'],
    ['f', 'a', 'l', 's', 'e']]) : word? cs = none := by
  simp only [List.mem_cons, List.not_mem_nil, or_false, not_or] at h
  simp [word?, h]

theorem stringBody?_eq_none (h : ∀ c ∈ cs.head?, isQuote c = false) : stringBody? cs = none := by
  have head : cs.head?.any isQuote = false := by
    cases hc : cs.head? with
    | none => rfl
    | some c => simp [h c (by simp [hc])]
  simp [stringBody?, head]

theorem primitive?_eq_none (h : asciiLower cs ∉ reservedWords) : primitive? cs = none := by
  have names : [Primitive.string, .number, .bigint, .boolean, .symbol].find?
      (fun primitive => primitive.name.toList = asciiLower cs) = none := by
    rw [List.find?_eq_none]
    intro primitive _ heq
    rw [decide_eq_true_eq] at heq
    rw [← heq] at h
    cases primitive <;> exact absurd h (by decide)
  simp only [reservedWords, List.mem_cons, List.not_mem_nil, or_false, not_or] at h
  simp [primitive?, h, names]

theorem between?_enclosed (o c : Char) (body : List Char) :
    between? o c (o :: (body ++ [c])) = some body := by
  simp [between?, List.getLast?_cons]

theorem between?_eq_none_of_head {o c : Char} (h : cs.head? ≠ some o) :
    between? o c cs = none := by
  simp [between?, h]

theorem between?_eq_none_of_last {o c : Char} (h : cs.getLast? ≠ some c) :
    between? o c cs = none := by
  simp [between?, h]

/-- The last character of what is left is the last of all. -/
theorem getLast?_drop_ne {c : Char} (h : cs.getLast? ≠ some c) (n : Nat) :
    (cs.drop n).getLast? ≠ some c := by
  rw [List.getLast?_drop]
  split
  · simp
  · exact h

theorem generic?_eq_none_of_last {word : List Char} (h : cs.getLast? ≠ some '>') :
    generic? word cs = none := by
  have between : ∀ n, between? '<' '>' (cs.drop n) = none :=
    fun n => between?_eq_none_of_last (getLast?_drop_ne h n)
  unfold generic?
  split
  · dsimp only
    split
    · rw [List.drop_drop, between]
      rfl
    · rw [between]
      rfl
  · rfl

theorem generic?_eq_none_of_word {word : List Char} (h : asciiLower (cs.take word.length) ≠ word) :
    generic? word cs = none := by
  simp [generic?, h]

theorem arraySuffix?_eq_none (h : cs.drop (cs.length - 2) ≠ ['[', ']']) : arraySuffix? cs = none :=
  if_neg h

theorem arraySuffix?_eq_none_of_last (h : cs.getLast? ≠ some ']') : arraySuffix? cs = none := by
  refine arraySuffix?_eq_none fun heq => ?_
  have := getLast?_drop_ne h (cs.length - 2)
  rw [heq] at this
  exact this rfl

/-- A word with angle brackets after it. -/
theorem generic?_enclosed {word written : List Char} (hw : asciiLower written = word)
    (hb : body ≠ []) : generic? word (written ++ '<' :: (body ++ ['>'])) = some body := by
  have length : word.length = written.length := by rw [← hw, asciiLower, List.length_map]
  have between : between? '<' '>' ('<' :: (body ++ ['>'])) = some body := between?_enclosed ..
  have nonempty : (!body.isEmpty) = true := by simp [hb]
  unfold generic?
  rw [length, List.take_left, List.drop_left, if_pos hw]
  dsimp only
  rw [if_neg (by simp), between]
  simp [nonempty]

theorem arraySuffix?_tuple (hb : body ≠ []) (ends : body.getLast? ≠ some '[') :
    arraySuffix? ('[' :: (body ++ [']'])) = none := by
  obtain ⟨start, c, rfl⟩ : ∃ start c, body = start ++ [c] :=
    ⟨body.dropLast, body.getLast hb, (List.dropLast_concat_getLast hb).symm⟩
  have last : ('[' :: (start ++ [c] ++ [']'])).drop
      (('[' :: (start ++ [c] ++ [']'])).length - 2) = [c, ']'] := by
    rw [List.append_assoc, ← List.cons_append]
    have : ('[' :: start ++ ([c] ++ [']'])).length - 2 = ('[' :: start).length := by
      simp
    rw [this, List.drop_left]
    rfl
  refine arraySuffix?_eq_none fun heq => ?_
  rw [last] at heq
  cases heq
  exact ends (by simp)

theorem stringBody?_quoted (hb : ∀ c ∈ body, c ≠ '\'' ∧ c ≠ '\\') :
    stringBody? ('\'' :: (body ++ ['\''])) = some body := by
  have quote : isQuote '\'' = true := rfl
  have offset := spanOffset_quoted quote hb []
  rw [List.append_nil, spanOffset, if_neg (by decide), if_pos quote] at offset
  unfold stringBody?
  rw [if_pos ⟨rfl, by rw [offset]; rfl⟩]
  simp

end Layer

/-! ## The form of every type

A tree determines its form without any text being scanned, and the texts inside the form are those
that its parts are printed as. -/

/-- The outermost form of a type. -/
def TypeTree.layer : TypeTree → Layer
  | .any => .any
  | .boolean b => .literal (.boolean b)
  | .integer n _ => .literal (.number (.exact n))
  | .string body => .literal (.string (String.ofList body.chars))
  | .primitive name => .primitive name
  | .null => .null
  | .undefined => .undefined
  | .array element => .array element.print
  | .map key value => .map key.print value.print
  | .tuple items => .tuple items.texts
  | .object fields => .object fields.texts
  | .named name => .named name.chars

/-- A text that is none of the words and literals. -/
structure Unworded (cs : List Char) : Prop where
  word : Layer.word? cs = none
  number : NumberLiteral.ofText? cs = none
  string : Layer.stringBody? cs = none
  primitive : Layer.primitive? cs = none

/-- A mark stands in none of the reserved words. -/
theorem unreserved_of_mark {m : Char} (hm : m ∈ marks) (h : m ∈ cs) :
    asciiLower cs ∉ reservedWords := by
  have same : ∀ m ∈ marks, m.toLower = m := by decide
  have free : ∀ word ∈ reservedWords, ∀ m ∈ marks, m ∉ word := by decide
  intro hw
  refine free _ hw m hm ?_
  rw [asciiLower, ← same m hm]
  exact List.mem_map_of_mem h

/-- A character that no blank, number or string begins with. -/
structure Leading (c : Char) : Prop where
  blank : isBlank c = false
  digit : isDigit c = false
  quote : isQuote c = false
  minus : c ≠ '-'
  point : c ≠ '.'

instance (c : Char) : Decidable (Leading c) :=
  decidable_of_iff (isBlank c = false ∧ isDigit c = false ∧ isQuote c = false ∧ c ≠ '-' ∧ c ≠ '.')
    ⟨fun ⟨b, d, q, m, p⟩ => ⟨b, d, q, m, p⟩, fun ⟨b, d, q, m, p⟩ => ⟨b, d, q, m, p⟩⟩

/-- A word begins with a letter or an underscore. -/
theorem Leading.of_word {c : Char} (word : isWord c = true) (starts : isLetter c = true ∨ c = '_') :
    Leading c where
  blank := (Plain.of_isWord word).blank
  digit := by
    rcases starts with letter | rfl
    · exact isDigit_eq_false_of_isLetter letter
    · decide
  quote := (Plain.of_isWord word).quote
  minus := by
    rintro rfl
    exact absurd starts (by decide)
  point := by
    rintro rfl
    exact absurd starts (by decide)

/-- A text that holds a mark and does not begin like a number or a string. -/
theorem Unworded.of_leading (m : Char) {c : Char} {rest : List Char} (leading : Leading c)
    (hm : m ∈ marks) (h : m ∈ c :: rest) : Unworded (c :: rest) := by
  have free : ∀ word ∈ [[], ['*'], ['a', 'n', 'y'], ['t', 'r', 'u', 'e'], ['f', 'a', 'l', 's', 'e'],
      ['I', 'n', 'f', 'i', 'n', 'i', 't', 'y']], ∀ m ∈ marks, m ∉ word := by decide
  constructor
  · refine Layer.word?_eq_none fun hw => free _ ?_ m hm h
    exact List.mem_append_left [['I', 'n', 'f', 'i', 'n', 'i', 't', 'y']] hw
  · refine NumberLiteral.ofText?_eq_none leading.digit leading.minus leading.point fun hw =>
      free _ ?_ m hm h
    simp [hw]
  · exact Layer.stringBody?_eq_none (by simp [leading.quote])
  · exact Layer.primitive?_eq_none (unreserved_of_mark hm h)

/-- The texts with brackets: they begin with none of the characters of numbers and strings. -/
theorem Unworded.of_mark (m : Char) {c : Char} {rest : List Char}
    (hc : c ∈ ['A', 'O', '(', '[', '{']) (hm : m ∈ marks) (h : m ∈ c :: rest) :
    Unworded (c :: rest) := by
  have leading : ∀ c ∈ ['A', 'O', '(', '[', '{'], Leading c := by decide
  exact .of_leading m (leading c hc) hm h

namespace Layer

theorem ofText_wholeText (n : Int) : ofText (NumberLiteral.wholeText n) =
    .literal (.number (.ofRatio (n < 0) n.natAbs 1)) := by
  have word : word? (NumberLiteral.wholeText n) = none := by
    refine word?_eq_none fun hw => ?_
    have none : ∀ word ∈ [[], ['*'], ['a', 'n', 'y'], ['t', 'r', 'u', 'e'],
        ['f', 'a', 'l', 's', 'e']], NumberLiteral.ofText? word = none := by decide
    have := none _ hw
    rw [NumberLiteral.ofText?_wholeText] at this
    cases this
  simp only [ofText, forms, word, NumberLiteral.ofText?_wholeText, Option.map_some,
    NumberLiteral.toDouble_whole, List.findSome?_cons, id, Option.getD_some]

theorem ofText_string (body : StringBody) :
    ofText ('\'' :: (body.chars ++ ['\''])) = .literal (.string (String.ofList body.chars)) := by
  have word : word? ('\'' :: (body.chars ++ ['\''])) = none := word?_eq_none (by simp)
  have number : NumberLiteral.ofText? ('\'' :: (body.chars ++ ['\''])) = none :=
    NumberLiteral.ofText?_eq_none (by decide) (by decide) (by decide) (by simp)
  have string : stringBody? ('\'' :: (body.chars ++ ['\''])) = some body.chars :=
    stringBody?_quoted fun c hc => ⟨(body.free c hc).1, (body.free c hc).2.1⟩
  simp only [ofText, forms, word, number, string, Option.map_none, Option.map_some,
    List.findSome?_cons, id, Option.getD_some]

theorem ofText_array (element : TypeUnion) :
    ofText (enclosed "Array" '<' element.print '>') = .array element.print := by
  have unworded : Unworded (enclosed "Array" '<' element.print '>') :=
    .of_mark '<' (by decide) (by decide) (by simp)
  have generic : generic? arrayWord (enclosed "Array" '<' element.print '>') =
    some element.print := generic?_enclosed rfl element.solid.nonempty
  simp only [ofText, forms, unworded.word, unworded.number, unworded.string, unworded.primitive,
    generic, Option.map_none, Option.map_some, List.findSome?_cons, id, Option.getD_some]

theorem ofText_map (key value : TypeUnion) :
    ofText (enclosed "Object" '<' (key.print ++ ',' :: ' ' :: value.print) '>') =
      .map key.print value.print := by
  have unworded : Unworded (enclosed "Object" '<' (key.print ++ ',' :: ' ' :: value.print) '>') :=
    .of_mark '<' (by decide) (by decide) (by simp)
  have array : generic? arrayWord (enclosed "Object" '<' (key.print ++ ',' :: ' ' :: value.print)
      '>') = none := generic?_eq_none_of_word (by
    rw [show (enclosed "Object" '<' (key.print ++ ',' :: ' ' :: value.print) '>').take
      arrayWord.length = ['O', 'b', 'j', 'e', 'c'] from rfl]
    decide)
  have suffix : arraySuffix? (enclosed "Object" '<' (key.print ++ ',' :: ' ' :: value.print)
      '>') = none := arraySuffix?_eq_none_of_last (by simp [enclosed, List.getLast?_cons])
  have braces : between? '{' '}' (enclosed "Object" '<' (key.print ++ ',' :: ' ' :: value.print)
      '>') = none := between?_eq_none_of_head (by simp [enclosed])
  have squares : between? '[' ']' (enclosed "Object" '<' (key.print ++ ',' :: ' ' :: value.print)
      '>') = none := between?_eq_none_of_head (by simp [enclosed])
  -- The two words with angle brackets differ in their first letters, so only the second is found.
  have generic : generic? objectWord (enclosed "Object" '<' (key.print ++ ',' :: ' ' :: value.print)
      '>') = some (key.print ++ ',' :: ' ' :: value.print) :=
    generic?_enclosed rfl (by simp)
  simp only [ofText, forms, unworded.word, unworded.number, unworded.string, unworded.primitive,
    array, suffix, braces, squares, generic, ofMapBody, split_mapBody, Option.map_none,
    Option.map_some, List.findSome?_cons, id, Option.getD_some]

theorem ofText_tuple (items : TypeItems) :
    ofText (enclosed "" '[' items.print ']') = .tuple items.texts := by
  have unworded : Unworded ('[' :: (items.print ++ [']'])) :=
    .of_mark '[' (by decide) (by decide) (by simp)
  have array : generic? arrayWord ('[' :: (items.print ++ [']'])) = none :=
    generic?_eq_none_of_last (by simp [List.getLast?_cons])
  -- An empty tuple, or one whose items end in a bracket that opens, would be an array of something.
  have suffix : arraySuffix? ('[' :: (items.print ++ [']'])) = none :=
    arraySuffix?_tuple items.solid.nonempty items.solid.ends
  have braces : between? '{' '}' ('[' :: (items.print ++ [']'])) = none :=
    between?_eq_none_of_head (by simp)
  rw [show enclosed "" '[' items.print ']' = '[' :: (items.print ++ [']']) from rfl]
  simp only [ofText, forms, unworded.word, unworded.number, unworded.string, unworded.primitive,
    array, suffix, braces, between?_enclosed, items.split_print, Option.map_none, Option.map_some,
    List.findSome?_cons, id, Option.getD_some]

/-- A text in braces is an object type, whatever stands in them. -/
theorem ofText_braces (body : List Char) :
    ofText ('{' :: (body ++ ['}'])) = .object (split [','] body) := by
  have unworded : Unworded ('{' :: (body ++ ['}'])) :=
    .of_mark '{' (by decide) (by decide) (by simp)
  have array : generic? arrayWord ('{' :: (body ++ ['}'])) = none :=
    generic?_eq_none_of_last (by simp [List.getLast?_cons])
  have suffix : arraySuffix? ('{' :: (body ++ ['}'])) = none :=
    arraySuffix?_eq_none_of_last (by simp [List.getLast?_cons])
  simp only [ofText, forms, unworded.word, unworded.number, unworded.string, unworded.primitive,
    array, suffix, between?_enclosed, Option.map_none, Option.map_some, List.findSome?_cons, id,
    Option.getD_some]

theorem ofText_object (fields : TypeFields) :
    ofText (enclosed "" '{' fields.print '}') = .object fields.texts := by
  rw [← fields.split_print]
  exact ofText_braces fields.print

theorem unworded_name (name : TypeName) : Unworded name.chars := by
  obtain ⟨c, rest, hname⟩ := List.exists_cons_of_ne_nil name.nonempty
  have word : isWord c = true := name.word c (by rw [hname]; simp)
  have leading : Leading c := .of_word word (name.starts c (by rw [hname]; rfl))
  have literal := name.noLiteral
  have reserved := name.unreserved
  rw [hname] at literal reserved ⊢
  constructor
  -- Each word is ruled out by another field of the name: it has a character, all of its characters
  -- are of words, and it is neither reserved nor a literal.
  · refine word?_eq_none fun hw => ?_
    simp only [List.mem_cons, List.not_mem_nil, or_false] at hw
    rcases hw with h | h | h | h | h
    · cases h
    · cases h
      exact absurd word (by decide)
    · rw [h] at reserved
      exact reserved (by decide)
    · rw [h] at literal
      exact literal (by decide)
    · rw [h] at literal
      exact literal (by decide)
  · exact NumberLiteral.ofText?_eq_none leading.digit leading.minus leading.point fun h =>
      literal (by rw [h]; decide)
  · exact stringBody?_eq_none (by simp [leading.quote])
  · exact primitive?_eq_none reserved

theorem ofText_name (name : TypeName) : ofText name.chars = .named name.chars := by
  have unworded := unworded_name name
  have last : ∀ mark ∈ marks, name.chars.getLast? ≠ some mark := fun mark hm hl =>
    (Plain.of_isWord (name.word _ (List.mem_of_getLast? hl))).ne hm rfl
  have head : ∀ mark ∈ marks, name.chars.head? ≠ some mark := fun mark hm hl =>
    (Plain.of_isWord (name.word _ (List.mem_of_head? hl))).ne hm rfl
  have generic : ∀ word, generic? word name.chars = none :=
    fun word => generic?_eq_none_of_last (last '>' (by decide))
  have suffix : arraySuffix? name.chars = none :=
    arraySuffix?_eq_none_of_last (last ']' (by decide))
  have braces : between? '{' '}' name.chars = none :=
    between?_eq_none_of_head (head '{' (by decide))
  have squares : between? '[' ']' name.chars = none :=
    between?_eq_none_of_head (head '[' (by decide))
  have word : (!name.chars.isEmpty && name.chars.all isWord) = true := by
    simp [name.nonempty, List.all_eq_true.2 name.word]
  simp only [ofText, forms, unworded.word, unworded.number, unworded.string, unworded.primitive,
    generic, suffix, braces, squares, word, if_true, Option.map_none, List.findSome?_cons, id,
    Option.getD_some]

end Layer

theorem Layer.ofText_primitive (name : Primitive) :
    Layer.ofText name.name.toList = .primitive name := by
  cases name <;> cbv

theorem Layer.ofText_boolean (b : Bool) :
    Layer.ofText (if b then "true" else "false").toList = .literal (.boolean b) := by
  cases b <;> cbv

/-- The outermost form of a printed type is its own. -/
theorem TypeTree.ofText_print (tree : TypeTree) : Layer.ofText tree.print = tree.layer := by
  cases tree with
  | any => exact (by cbv : Layer.ofText ['*'] = .any)
  | boolean b => exact Layer.ofText_boolean b
  | integer n short =>
    -- A literal is a floating-point number, which is the integer itself as long as that is small.
    have digits : n.natAbs < 2 ^ 53 := Nat.lt_trans short (by decide)
    exact (Layer.ofText_wholeText n).trans (by rw [Double.ofRatio_natAbs digits]; rfl)
  | string body => exact Layer.ofText_string body
  | primitive name => exact Layer.ofText_primitive name
  | null => exact (by cbv : Layer.ofText "null".toList = .null)
  | undefined => exact (by cbv : Layer.ofText "undefined".toList = .undefined)
  | array element => exact Layer.ofText_array element
  | map key value => exact Layer.ofText_map key value
  | tuple items => exact Layer.ofText_tuple items
  | object fields => exact Layer.ofText_object fields
  | named name => exact Layer.ofText_name name

end Docblock
