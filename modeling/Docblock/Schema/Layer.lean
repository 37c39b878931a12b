import Docblock.Number.Literal
import Docblock.Schema.Basic
import Docblock.Text.Case
import Docblock.Text.Digit
import Docblock.Text.Remark
import Docblock.Text.Split

/-!
# The outermost layer of a type

What a type expression is at its outermost, with the texts of the types inside it left unread. The
forms are tried in a fixed order. Every text inside is shorter than the whole, so that reading types
ends (`length_lt_of_mem_inner`).

The order matters, since one text can have several of the forms at its ends and only the first is
taken. None of the forms says that a text is wrong: what has none of them is left to the reader.
-/

namespace Docblock

open Text

/-- The outermost form of a type expression. -/
inductive Layer where
  | any
  | literal (value : Literal)
  | primitive (name : Primitive)
  | null
  | undefined
  | array (element : List Char)
  | object (members : List (List Char))
  | tuple (members : List (List Char))
  | map (key value : List Char)
  | named (name : List Char)
  deriving DecidableEq, Repr

namespace Layer

/-- The texts inside a form. -/
def inner : Layer → List (List Char)
  | array element => [element]
  | object members | tuple members => members
  | map key value => [key, value]
  | _ => []

/-- A text in brackets, without them. -/
def between? (opener closer : Char) (cs : List Char) : Option (List Char) :=
  if 2 ≤ cs.length ∧ cs.head? = some opener ∧ cs.getLast? = some closer then
    some (cs.drop 1).dropLast
  else none

/-- What stands in angle brackets after a word in any case and an optional point. -/
def generic? (word : List Char) (cs : List Char) : Option (List Char) :=
  if asciiLower (cs.take word.length) = word then
    let rest := cs.drop word.length
    let rest := if rest.head? = some '.' then rest.drop 1 else rest
    (between? '<' '>' rest).filter fun body => !body.isEmpty
  else none

/-- The element type of a type with the array suffix. One in parentheses stands for all that is
between them; any other may neither begin nor end with a parenthesis of that side. -/
def arraySuffix? (cs : List Char) : Option (List Char) :=
  if cs.drop (cs.length - 2) = ['[', ']'] then
    let body := cs.take (cs.length - 2)
    if !body.isEmpty && body.head? != some '(' && body.getLast? != some ')' then some body
    else between? '(' ')' body
  else none

/-- The contents of a string literal: quoted up to its end. A quote alone is an empty one. -/
def stringBody? (cs : List Char) : Option (List Char) :=
  if cs.head?.any isQuote ∧ (closingQuote? cs).getD 0 = cs.length - 1 then
    some (cs.drop 1).dropLast
  else none

/-- The form that a name in any case has of its own. -/
def primitive? (cs : List Char) : Option Layer :=
  let name := asciiLower cs
  if name = ['n', 'u', 'l', 'l'] then some .null
  else if name = ['u', 'n', 'd', 'e', 'f', 'i', 'n', 'e', 'd'] then some .undefined
  else
    ([Primitive.string, .number, .bigint, .boolean, .symbol].find?
      fun primitive => primitive.name.toList = name).map .primitive

/-- The form of a map, from what stands in its angle brackets: the first two members. -/
def ofMapBody (body : List Char) : Layer :=
  match split [','] body with
  | key :: value :: _ => .map key value
  | [key] => .map key []
  | [] => .map [] []

/-- The words that any value or a truth value is written with. -/
def word? (cs : List Char) : Option Layer :=
  if cs = [] ∨ cs = ['*'] ∨ cs = ['a', 'n', 'y'] then some .any
  else if cs = ['t', 'r', 'u', 'e'] then some (.literal (.boolean true))
  else if cs = ['f', 'a', 'l', 's', 'e'] then some (.literal (.boolean false))
  else none

/-- The words before the angle brackets of an array and of a map. -/
def arrayWord : List Char := ['a', 'r', 'r', 'a', 'y']

@[inherit_doc arrayWord]
def objectWord : List Char := ['o', 'b', 'j', 'e', 'c', 't']

@[inherit_doc arrayWord]
def recordWord : List Char := ['r', 'e', 'c', 'o', 'r', 'd']

/-- The forms in the order in which they are tried. -/
def forms (cs : List Char) : List (Option Layer) := [
  word? cs,
  (NumberLiteral.ofText? cs).map fun number => .literal (.number number.toDouble),
  (stringBody? cs).map fun body => .literal (.string (String.ofList body)),
  primitive? cs,
  (generic? arrayWord cs).map .array,
  (arraySuffix? cs).map .array,
  (between? '{' '}' cs).map fun body => .object (split [','] body),
  (between? '[' ']' cs).map fun body => .tuple (split [','] body),
  (generic? objectWord cs).map ofMapBody,
  (generic? recordWord cs).map ofMapBody,
  if !cs.isEmpty && cs.all isWord then some (.named cs) else none]

/-- The outermost form of a text without wrapping parentheses. What has none of the forms admits
any value. -/
def ofText (cs : List Char) : Layer := ((forms cs).findSome? id).getD .any

/-! ## Texts inside are shorter -/

theorem length_between_lt {opener closer : Char} {cs body : List Char}
    (h : between? opener closer cs = some body) : body.length < cs.length := by
  unfold between? at h
  split at h
  · rename_i hl
    cases h
    simp only [List.length_dropLast, List.length_drop]
    omega
  · cases h

theorem length_generic_lt {word cs body : List Char} (h : generic? word cs = some body) :
    body.length < cs.length := by
  unfold generic? at h
  split at h
  · dsimp only at h
    obtain ⟨b, hb, _⟩ : ∃ b, between? '<' '>' (if (cs.drop word.length).head? = some '.'
        then (cs.drop word.length).drop 1 else cs.drop word.length) = some b ∧ b = body := by
      rw [Option.filter_eq_some_iff] at h
      exact ⟨body, h.1, rfl⟩
    subst_vars
    have := length_between_lt hb
    split at this <;> simp only [List.length_drop] at this <;> omega
  · cases h

theorem length_arraySuffix_lt {cs body : List Char} (h : arraySuffix? cs = some body) :
    body.length < cs.length := by
  unfold arraySuffix? at h
  split at h
  · rename_i hs
    have h2 : 2 ≤ cs.length := by
      have := congrArg List.length hs
      simp only [List.length_drop, List.length_cons, List.length_nil] at this
      omega
    dsimp only at h
    split at h
    · cases h
      simp only [List.length_take]
      omega
    · have := length_between_lt h
      simp only [List.length_take] at this
      omega
  · cases h

theorem length_member_lt {cs body member : List Char} (hb : body.length < cs.length)
    (h : member ∈ split [','] body) : member.length < cs.length := by
  have := length_le_longest h
  have := longest_split_le [','] body
  omega

theorem length_mapBody_lt {cs body t : List Char} (hb : body.length < cs.length)
    (h : t ∈ (ofMapBody body).inner) : t.length < cs.length := by
  unfold ofMapBody at h
  split at h
  · rename_i key value rest heq
    simp only [inner, List.mem_cons, List.not_mem_nil, or_false] at h
    rcases h with rfl | rfl
    · exact length_member_lt hb (by rw [heq]; simp)
    · exact length_member_lt hb (by rw [heq]; simp)
  · rename_i key heq
    simp only [inner, List.mem_cons, List.not_mem_nil, or_false] at h
    rcases h with rfl | rfl
    · exact length_member_lt hb (by rw [heq]; simp)
    · simp only [List.length_nil]
      omega
  · simp only [inner, List.mem_cons, List.not_mem_nil, or_false, or_self] at h
    subst h
    simp only [List.length_nil]
    omega

theorem inner_of_primitive {cs : List Char} {layer : Layer} (h : primitive? cs = some layer) :
    layer.inner = [] := by
  unfold primitive? at h
  dsimp only at h
  split at h
  · cases h; rfl
  · split at h
    · cases h; rfl
    · obtain ⟨p, _, rfl⟩ := Option.map_eq_some_iff.1 h
      rfl

theorem inner_of_word {cs : List Char} {layer : Layer} (h : word? cs = some layer) :
    layer.inner = [] := by
  unfold word? at h
  split at h
  · cases h; rfl
  · split at h
    · cases h; rfl
    · split at h
      · cases h; rfl
      · cases h

theorem length_lt_of_mem_forms {cs t : List Char} {layer : Layer}
    (h : some layer ∈ forms cs) (ht : t ∈ layer.inner) : t.length < cs.length := by
  simp only [forms, List.mem_cons, List.not_mem_nil, or_false] at h
  rcases h with h | h | h | h | h | h | h | h | h | h | h
  · rw [inner_of_word h.symm] at ht
    cases ht
  · obtain ⟨n, _, rfl⟩ := Option.map_eq_some_iff.1 h.symm
    cases ht
  · obtain ⟨n, _, rfl⟩ := Option.map_eq_some_iff.1 h.symm
    cases ht
  · rw [inner_of_primitive h.symm] at ht
    cases ht
  · obtain ⟨body, hb, rfl⟩ := Option.map_eq_some_iff.1 h.symm
    simp only [inner, List.mem_cons, List.not_mem_nil, or_false] at ht
    exact ht ▸ length_generic_lt hb
  · obtain ⟨body, hb, rfl⟩ := Option.map_eq_some_iff.1 h.symm
    simp only [inner, List.mem_cons, List.not_mem_nil, or_false] at ht
    exact ht ▸ length_arraySuffix_lt hb
  · obtain ⟨body, hb, rfl⟩ := Option.map_eq_some_iff.1 h.symm
    exact length_member_lt (length_between_lt hb) ht
  · obtain ⟨body, hb, rfl⟩ := Option.map_eq_some_iff.1 h.symm
    exact length_member_lt (length_between_lt hb) ht
  · obtain ⟨body, hb, rfl⟩ := Option.map_eq_some_iff.1 h.symm
    exact length_mapBody_lt (length_generic_lt hb) ht
  · obtain ⟨body, hb, rfl⟩ := Option.map_eq_some_iff.1 h.symm
    exact length_mapBody_lt (length_generic_lt hb) ht
  · split at h
    · cases h
      cases ht
    · cases h

/-- Every text inside a type expression is shorter than the expression. -/
theorem length_lt_of_mem_inner {cs t : List Char} (h : t ∈ (ofText cs).inner) :
    t.length < cs.length := by
  unfold ofText at h
  cases hf : (forms cs).findSome? id with
  | none =>
    rw [hf] at h
    cases h
  | some layer =>
    rw [hf] at h
    obtain ⟨o, ho, ho'⟩ := List.exists_of_findSome?_eq_some hf
    simp only [id] at ho'
    subst ho'
    exact length_lt_of_mem_forms ho h

end Layer

end Docblock
