import Docblock.Filter.Tail
import Docblock.Schema.Layer

/-!
# Reading types

A type expression is read into its alternatives, in source order. Text that has none of the known
forms admits any value, so only remarks can make reading fail: a lone slash where a remark could
stand, or filters that are not allowed.

The readers are one recursion on the length of the text. Each field is read by itself but for its
remark, which may stand at the start of the text of the next field, and so fields are read in order
with those before them at hand.
-/

namespace Docblock

open Text

/-! ## Members of objects and tuples -/

/-- A member of an object or tuple type: the remark in front of it, and its key, the text of its
type and the remark after it when it is more than that remark. -/
structure Member where
  leading : List Char
  content : Option (List Char × List Char × List Char)
  deriving DecidableEq, Repr

namespace Member

/-- The key and the text of the type of a member with a key. Spaces in the key do not count. -/
def splitKey (content : List Char) : List Char × List Char :=
  match split [':'] content with
  | [] => ([], [])
  | key :: rest => (unquote (key.filter (· != ' ')), join [':'] rest)

/-- The key and the text of the type of a member; `keyed` tells that it has a key. -/
def keyAndType (keyed : Bool) (content : List Char) : List Char × List Char :=
  if keyed then splitKey content else ([], content)

/-- The parts of a member. -/
def ofText (keyed : Bool) (text : List Char) : Except Fault Member :=
  match leadingRemark? text with
  | none => refuse (.loneSlash (String.ofList text))
  | some (leading, content) =>
    if content.isEmpty then .ok ⟨leading, none⟩
    else
      let (key, type) := keyAndType keyed content
      let (type, trailing) := trailingRemark type
      .ok ⟨leading, some (key, type, trailing)⟩

theorem length_join_le (separator : Char) (texts : List (List Char)) :
    (join [separator] texts).length ≤ totalLength texts + (texts.length - 1) := by
  induction texts with
  | nil => exact Nat.zero_le _
  | cons t rest ih =>
    cases rest with
    | nil => exact Nat.le_add_right _ _
    | cons u rest =>
      simp only [join, List.length_append, List.length_cons, List.length_nil, totalLength] at ih ⊢
      omega

theorem length_splitKey_le (content : List Char) :
    (splitKey content).2.length ≤ content.length := by
  have h := split_lengths_le [':'] content
  unfold splitKey
  split
  · simp
  · rename_i key rest heq
    rw [heq] at h
    simp only [totalLength, List.length_cons] at h
    have := length_join_le ':' rest
    simp only
    omega

theorem length_keyAndType_le (keyed : Bool) (content : List Char) :
    (keyAndType keyed content).2.length ≤ content.length := by
  cases keyed
  · exact Nat.le_refl _
  · exact length_splitKey_le content

/-- The text of a member's type is no longer than the member. -/
theorem length_type_le {keyed : Bool} {text key type trailing : List Char} {member : Member}
    (h : ofText keyed text = .ok member) (hc : member.content = some (key, type, trailing)) :
    type.length ≤ text.length := by
  unfold ofText at h
  split at h
  · cases h
  · rename_i leading content heq
    have hl := length_leadingRemark_le heq
    split at h
    · cases h
      cases hc
    · cases h
      simp only [Option.some.injEq, Prod.mk.injEq] at hc
      rw [← hc.2.1]
      exact Nat.le_trans (length_trailingRemark_le _)
        (Nat.le_trans (length_keyAndType_le keyed content) hl)

end Member

/-! ## Types -/

namespace TypeExpr

/-- The types of the words that stand for longer expressions; any case will do. -/
def shorthand? (cs : List Char) : Option (List TypeExpr) :=
  let word := asciiLower cs
  if word = [] ∨ word = ['a', 'n', 'y'] then some [.any "*"]
  else if word = ['[', ']'] ∨ word = ['a', 'r', 'r', 'a', 'y'] then
    some [.array "*[]" [.any "*"]]
  else if word = ['{', '}'] ∨ word = ['o', 'b', 'j', 'e', 'c', 't'] then
    some [.map "Object<*,*>" [.any "*"] [.any "*"]]
  else none

/-- A trimmed expression, with the words that stand for longer expressions written out. -/
def canonical (cs : List Char) : List Char :=
  match shorthand? (trim cs) with
  | some [type] => type.text.toList
  | _ => trim cs

/-- The characters between alternatives. -/
def unionSeparators : List Char := ['|', '&']

/-- The members of an expression that is a union: those that are not empty. -/
def unionMembers? (cs : List Char) : Option (List (List Char)) :=
  let members := split unionSeparators cs
  if 1 < members.length then some (members.filter fun member => !member.isEmpty) else none

theorem longest_filter_le (p : List Char → Bool) (texts : List (List Char)) :
    longest (texts.filter p) ≤ longest texts :=
  longest_le fun _ h => length_le_longest (List.mem_filter.1 h).1

theorem longest_unionMembers_lt {cs : List Char} {members : List (List Char)}
    (h : unionMembers? cs = some members) : longest members < cs.length := by
  unfold unionMembers? at h
  dsimp only at h
  split at h
  · rename_i hl
    cases h
    exact Nat.lt_of_le_of_lt (longest_filter_le _ _) (longest_split_lt hl)
  · cases h

/-- Put the description and filters of a remark on the last of the fields read so far, which are
given last first. -/
def documentLast (remark : List Char) : List (Field TypeExpr) →
    Except Fault (List (Field TypeExpr))
  | [] => .ok []
  | field :: before =>
    if remark.isEmpty then .ok (field :: before)
    else do
      let (description, filters) ← Filter.ofTail remark field.types
      return { field with description, filters } :: before

/-- A field from the parts of its member and its types. A question mark at the end of a key makes
the field optional; a field without a key has its place for one. -/
def makeField (keyed : Bool) (place : Nat) (key trailing : List Char) (types : List TypeExpr) :
    Except Fault (Field TypeExpr) := do
  let (key, types) :=
    if !keyed then (Nat.toDigits 10 place, types)
    else if key.getLast? = some '?' then (key.dropLast, types ++ [.undefined "undefined"])
    else (key, types)
  let (description, filters) ← Filter.ofTail trailing types
  return ⟨String.ofList key, types, description, filters⟩

mutual

/-- The alternatives of a type expression. -/
def read (cs : List Char) : Except Fault (List TypeExpr) :=
  match shorthand? (trim cs) with
  | some types => .ok types
  | none =>
    let text := String.ofList (trim cs)
    match _hu : unionMembers? (trim cs) with
    | some members => do
      let types ← readAll members
      return if types.isEmpty then [.any text] else types
    | none =>
      match _hl : Layer.ofText (unwrap (trim cs)) with
      | .any => .ok [.any text]
      | .literal value => .ok [.literal text value]
      | .primitive name => .ok [.primitive text name]
      | .null => .ok [.null text]
      | .undefined => .ok [.undefined text]
      | .array element => do return [.array text (← read element)]
      | .object members => do return [.object text (← readFields true members [])]
      | .tuple members => do return [.tuple text (← readFields false members [])]
      | .map key value => do return [.map text (← read key) (← read value)]
      | .named name => .ok [.named text (String.ofList name)]
termination_by (cs.length, 0, 0)
decreasing_by
  all_goals
    have htrim := length_trim_le cs
    have hunwrap := length_unwrap_le (trim cs)
  -- The members of a union are shorter, and so are the texts inside any other form.
  · have := longest_unionMembers_lt _hu
    exact Prod.Lex.left _ _ (by omega)
  · have := Layer.length_lt_of_mem_inner (t := element) (by rw [_hl]; simp [Layer.inner])
    exact Prod.Lex.left _ _ (by omega)
  · have : longest members ≤ (unwrap (trim cs)).length - 1 := longest_le fun t ht => by
      have := Layer.length_lt_of_mem_inner (t := t) (by rw [_hl]; exact ht)
      omega
    have : 0 < (unwrap (trim cs)).length := by
      cases he : unwrap (trim cs) with
      | nil => rw [he] at _hl; cases _hl
      | cons => simp
    exact Prod.Lex.left _ _ (by omega)
  · have : longest members ≤ (unwrap (trim cs)).length - 1 := longest_le fun t ht => by
      have := Layer.length_lt_of_mem_inner (t := t) (by rw [_hl]; exact ht)
      omega
    have : 0 < (unwrap (trim cs)).length := by
      cases he : unwrap (trim cs) with
      | nil => rw [he] at _hl; cases _hl
      | cons => simp
    exact Prod.Lex.left _ _ (by omega)
  · have := Layer.length_lt_of_mem_inner (t := key) (by rw [_hl]; simp [Layer.inner])
    exact Prod.Lex.left _ _ (by omega)
  · have := Layer.length_lt_of_mem_inner (t := value) (by rw [_hl]; simp [Layer.inner])
    exact Prod.Lex.left _ _ (by omega)

/-- The alternatives of several expressions, one after the other. -/
def readAll : List (List Char) → Except Fault (List TypeExpr)
  | [] => .ok []
  | text :: rest => do
    let types ← read text
    return types ++ (← readAll rest)
termination_by texts => (longest texts, 1, texts.length)
decreasing_by
  · simp only [longest]
    rcases Nat.lt_or_ge text.length (max text.length (longest rest)) with h | h
    · exact Prod.Lex.left _ _ h
    · have : text.length = max text.length (longest rest) :=
        Nat.le_antisymm (Nat.le_max_left _ _) h
      rw [← this]
      exact Prod.Lex.right _ (Prod.Lex.left _ _ (by omega))
  · simp only [longest]
    rcases Nat.lt_or_ge (longest rest) (max text.length (longest rest)) with h | h
    · exact Prod.Lex.left _ _ h
    · have : longest rest = max text.length (longest rest) :=
        Nat.le_antisymm (Nat.le_max_right _ _) h
      rw [← this]
      exact Prod.Lex.right _ (Prod.Lex.right _ (by simp))

/-- The fields of members, after those read so far, which are given last first. A remark in front
of a member documents the field before it. -/
def readFields (keyed : Bool) : List (List Char) → List (Field TypeExpr) →
    Except Fault (List (Field TypeExpr))
  | [], done => .ok done.reverse
  | text :: rest, done =>
    match _hm : Member.ofText keyed text with
    | .error fault => .error fault
    | .ok member => do
      let done ← documentLast member.leading done
      match _hc : member.content with
      | none => readFields keyed rest done
      | some (key, type, trailing) => do
        let types ← read type
        let field ← makeField keyed done.length key trailing types
        readFields keyed rest (field :: done)
termination_by texts => (longest texts, 1, texts.length)
decreasing_by
  all_goals simp only [longest]
  · rcases Nat.lt_or_ge (longest rest) (max text.length (longest rest)) with h | h
    · exact Prod.Lex.left _ _ h
    · have : longest rest = max text.length (longest rest) :=
        Nat.le_antisymm (Nat.le_max_right _ _) h
      rw [← this]
      exact Prod.Lex.right _ (Prod.Lex.right _ (by simp))
  · have hle := Nat.le_trans (Member.length_type_le _hm _hc) (Nat.le_max_left _ (longest rest))
    rcases Nat.lt_or_ge type.length (max text.length (longest rest)) with h | h
    · exact Prod.Lex.left _ _ h
    · rw [← Nat.le_antisymm hle h]
      exact Prod.Lex.right _ (Prod.Lex.left _ _ (by omega))
  · rcases Nat.lt_or_ge (longest rest) (max text.length (longest rest)) with h | h
    · exact Prod.Lex.left _ _ h
    · have : longest rest = max text.length (longest rest) :=
        Nat.le_antisymm (Nat.le_max_right _ _) h
      rw [← this]
      exact Prod.Lex.right _ (Prod.Lex.right _ (by simp))

end

/-- The alternatives of a type expression. -/
def ofString (s : String) : Except Fault (List TypeExpr) := read s.toList

end TypeExpr

end Docblock
