import Docblock.Proofs.Number.Whole
import Docblock.Proofs.Text.Plain
import Docblock.Schema.Basic

/-!
# The syntax of types

Types as trees, with their text (`print`) and the type that the text stands for (`type`). Trees
carry the proofs of what their words need: a name is none of the words with a meaning of their own,
and a string literal holds nothing that would end it. Lists of alternatives, items and fields are
never empty.

With the proofs inside the trees a text that means something else cannot be built, and the theorems
about printed types have no hypotheses. There is one text for each tree, the plainest one: `Array`
and `Object` for the generic forms, no blanks but those after commas and colons, no optional marks.
Numbers are whole and have at most fifteen digits, so that a floating-point number holds them
exactly.

A tree is not the result of parsing. It is only a way to say all types at once.
-/

namespace Docblock

open Text

/-- A key that needs no quotes: word characters of any script and dollar signs. -/
structure Identifier where
  chars : List Char
  nonempty : chars ≠ []
  word : ∀ c ∈ chars, isWord c = true ∨ c = '$'

/-- The words that mean a type of their own in any case. -/
def reservedWords : List (List Char) := [
  ['a', 'n', 'y'], ['a', 'r', 'r', 'a', 'y'], ['o', 'b', 'j', 'e', 'c', 't'],
  ['s', 't', 'r', 'i', 'n', 'g'], ['n', 'u', 'm', 'b', 'e', 'r'], ['b', 'i', 'g', 'i', 'n', 't'],
  ['b', 'o', 'o', 'l', 'e', 'a', 'n'], ['s', 'y', 'm', 'b', 'o', 'l'], ['n', 'u', 'l', 'l'],
  ['u', 'n', 'd', 'e', 'f', 'i', 'n', 'e', 'd']]

/-- The words that are literals. -/
def literalWords : List (List Char) := [
  ['t', 'r', 'u', 'e'], ['f', 'a', 'l', 's', 'e'], ['I', 'n', 'f', 'i', 'n', 'i', 't', 'y']]

/-- A word that can name a type: it begins with a letter or an underscore. -/
structure TypeName where
  chars : List Char
  nonempty : chars ≠ []
  word : ∀ c ∈ chars, isWord c = true
  starts : ∀ c ∈ chars.head?, isLetter c = true ∨ c = '_'
  unreserved : asciiLower chars ∉ reservedWords
  noLiteral : chars ∉ literalWords

/-- The contents of a string literal: no quote of its kind, no backslash and no bracket. -/
structure StringBody where
  chars : List Char
  free : ∀ c ∈ chars, c ≠ '\'' ∧ c ≠ '\\' ∧ isBracket c = false

mutual

/-- A type. -/
inductive TypeTree where
  | any
  | boolean (b : Bool)
  | integer (n : Int) (short : n.natAbs < 10 ^ 15)
  | string (body : StringBody)
  | primitive (name : Primitive)
  | null
  | undefined
  | array (element : TypeUnion)
  | map (key value : TypeUnion)
  | tuple (items : TypeItems)
  | object (fields : TypeFields)
  | named (name : TypeName)

/-- The alternatives of a type. -/
inductive TypeUnion where
  | one (type : TypeTree)
  | more (type : TypeTree) (rest : TypeUnion)

/-- The items of a tuple type. -/
inductive TypeItems where
  | one (item : TypeUnion)
  | more (item : TypeUnion) (rest : TypeItems)

/-- The fields of an object type. -/
inductive TypeFields where
  | one (key : Identifier) (type : TypeUnion)
  | more (key : Identifier) (type : TypeUnion) (rest : TypeFields)

end

/-- A word and what stands in brackets after it. -/
def enclosed (word : String) (opener : Char) (body : List Char) (closer : Char) : List Char :=
  word.toList ++ opener :: (body ++ [closer])

mutual

/-- The text of a type. -/
def TypeTree.print : TypeTree → List Char
  | .any => ['*']
  | .boolean b => (if b then "true" else "false").toList
  | .integer n _ => NumberLiteral.wholeText n
  | .string body => '\'' :: (body.chars ++ ['\''])
  | .primitive name => name.name.toList
  | .null => "null".toList
  | .undefined => "undefined".toList
  | .array element => enclosed "Array" '<' element.print '>'
  | .map key value => enclosed "Object" '<' (key.print ++ ',' :: ' ' :: value.print) '>'
  | .tuple items => enclosed "" '[' items.print ']'
  | .object fields => enclosed "" '{' fields.print '}'
  | .named name => name.chars

/-- The texts of alternatives, with bars between them. -/
def TypeUnion.print : TypeUnion → List Char
  | .one type => type.print
  | .more type rest => type.print ++ '|' :: rest.print

/-- The texts of items, with commas between them. -/
def TypeItems.print : TypeItems → List Char
  | .one item => item.print
  | .more item rest => item.print ++ ',' :: ' ' :: rest.print

/-- The texts of fields, with commas between them. -/
def TypeFields.print : TypeFields → List Char
  | .one key type => key.chars ++ ':' :: ' ' :: type.print
  | .more key type rest => key.chars ++ ':' :: ' ' :: (type.print ++ ',' :: ' ' :: rest.print)

end

mutual

/-- The type that a tree stands for. -/
def TypeTree.type (tree : TypeTree) : TypeExpr :=
  let text := String.ofList tree.print
  match tree with
  | .any => .any text
  | .boolean b => .literal text (.boolean b)
  | .integer n _ => .literal text (.number (.exact n))
  | .string body => .literal text (.string (String.ofList body.chars))
  | .primitive name => .primitive text name
  | .null => .null text
  | .undefined => .undefined text
  | .array element => .array text element.types
  | .map key value => .map text key.types value.types
  | .tuple items => .tuple text (items.fields 0)
  | .object fields => .object text fields.fields
  | .named name => .named text (String.ofList name.chars)

/-- The types of alternatives. -/
def TypeUnion.types : TypeUnion → List TypeExpr
  | .one type => [type.type]
  | .more type rest => type.type :: rest.types

/-- The fields of items, from a place on: the places are the keys. -/
def TypeItems.fields (place : Nat) : TypeItems → List (Field TypeExpr)
  | .one item => [⟨toString place, item.types, "", []⟩]
  | .more item rest => ⟨toString place, item.types, "", []⟩ :: rest.fields (place + 1)

/-- The fields of an object type. -/
def TypeFields.fields : TypeFields → List (Field TypeExpr)
  | .one key type => [⟨String.ofList key.chars, type.types, "", []⟩]
  | .more key type rest => ⟨String.ofList key.chars, type.types, "", []⟩ :: rest.fields

end

end Docblock
