import Docblock.Value.Text

/-!
# Members of values

Which values are arrays or objects, which keys an object has of its own, and what is found under a
key. What is not there reads as the absent value. A member always has a smaller rank than the value
that it is found in, and so a check that goes into members ends.

Only what a value itself holds is looked at. A class gives members to all its values, methods above
all, and none of them is found here.
-/

namespace Docblock.Value

/-- A number; truth values are none. -/
def isNumber (value : Value) : Bool := value.number?.isSome

/-- The items of an array. -/
def items? : Value → Option (List Value)
  | .list items | .tuple items => some items
  | _ => none

/-- A list or a tuple. -/
def isArray (value : Value) : Bool := value.items?.isSome

/-- The keys of an object and what is found under them, in order. Names that begin with an
underscore are not shown. -/
def ownEntries? : Value → Option (List (Value × Value))
  | .mapping entries => some entries
  | .record _ attributes _ =>
    some ((attributes.filter fun entry => entry.1.toList.head? ≠ some '_').map fun entry =>
      (.string entry.1, entry.2))
  | .symbol .. | .function => some []
  | _ => none

/-- A value with members under names. -/
def isObject (value : Value) : Bool := value.ownEntries?.isSome

/-- The keys that an object has of its own. -/
def ownKeys (value : Value) : List Value := (value.ownEntries?.getD []).map (·.1)

/-- A value that can be called. -/
def isCallable : Value → Bool
  | .function | .builtin | .type _ => true
  | .record _ _ callable => callable
  | _ => false

/-- The place in an array that a key names. -/
def index? : Value → Option Nat
  | .int n => if n < 0 then none else some n.toNat
  | .bool b => some (if b then 1 else 0)
  | _ => none

/-- The value under a key of a mapping. -/
def lookup (key : Value) : List (Value × Value) → Value
  | [] => .undefined
  | (k, value) :: rest => if k.eqv key then value else lookup key rest

/-- The value of an attribute. -/
def field (name : String) : List (String × Value) → Value
  | [] => .undefined
  | (n, value) :: rest => if n = name then value else field name rest

/-- The value at a place of an array. -/
def item (place : Nat) (items : List Value) : Value := items[place]?.getD .undefined

/-- What is found in a value under a key. What a class gives to all its values is not looked at: the
methods of a record, or the name that a function has as its attribute, read as the absent value. -/
def member (value key : Value) : Value :=
  match value, key with
  | .mapping entries, key => lookup key entries
  | .list items, key | .tuple items, key =>
    match key.index? with
    | some place => item place items
    | none => .undefined
  | .record _ attributes _, .string name => field name attributes
  -- A symbol has members under two names, but no keys of its own.
  | .symbol _ name value, .string key =>
    if key = "name" then .string name else if key = "value" then value else .undefined
  | _, _ => .undefined

/-- The record with these attributes, put in one after the other. -/
def ofAttributes (kind : String) (attributes : List (String × Value)) (callable : Bool) : Value :=
  let insert (done : List (String × Value)) (entry : String × Value) :=
    if done.any (·.1 = entry.1) then
      done.map fun other => if other.1 = entry.1 then entry else other
    else done ++ [entry]
  .record kind (attributes.foldl insert []) callable

/-- The name of the type of a value. -/
def typeName : Value → String
  | .null => "NoneType"
  | .undefined => "_Undefined"
  | .bool _ => "bool"
  | .int _ => "int"
  | .double _ => "float"
  | .string _ => "str"
  | .list _ => "list"
  | .tuple _ => "tuple"
  | .set _ => "set"
  | .mapping _ => "dict"
  | .record kind _ _ => kind
  | .symbol kind _ _ => kind
  | .function => "function"
  | .builtin => "builtin_function_or_method"
  | .type _ => "type"
  | .pattern _ => "Pattern"
  | .date _ => "date"
  | .dateTime .. => "datetime"
  | .decimal _ => "Decimal"
  | .bytes _ => "bytes"

/-- What a value is, for the end of a message. -/
def describe : Value → String
  | .null => "value is null"
  | .undefined => "value is undefined"
  | .bool _ => "type is boolean"
  | .int _ | .double _ => "type is number"
  | .string _ => "type is string"
  | .list _ | .tuple _ | .mapping _ => "type is object"
  | value => "value is an instance of " ++ value.typeName

/-- A key of a path: a place in an array stands in square brackets. -/
def stepText (first : Bool) (key : Value) : Except Fault String := do
  let shown ← key.text
  return match key with
  | .int _ | .bool _ => "[" ++ shown ++ "]"
  | _ => if first then shown else "." ++ shown

/-- The keys that lead to a value, as one text. A leading key leaves no trace of the point. -/
def pathText (path : List Value) : Except Fault String :=
  match path with
  | [] => .ok ""
  | key :: rest => do
    return (← stepText true key) ++ String.join (← rest.mapM (stepText false))

/-! ## Ranks of members -/

theorem rank_lt_rankAll {x : Value} {items : List Value} (h : x ∈ items) :
    rank x < rankAll items := by
  induction items with
  | nil => cases h
  | cons y rest ih =>
    rw [rankAll_cons]
    rcases List.mem_cons.1 h with rfl | h
    · omega
    · have := ih h
      omega

theorem rank_lt_rankEntries {entry : Value × Value} {entries : List (Value × Value)}
    (h : entry ∈ entries) : rank entry.2 < rankEntries entries := by
  induction entries with
  | nil => cases h
  | cons e rest ih =>
    obtain ⟨k, v⟩ := e
    rw [rankEntries_cons]
    rcases List.mem_cons.1 h with rfl | h
    · simp only
      omega
    · have := ih h
      omega

theorem rank_lt_rankAttributes {entry : String × Value} {attributes : List (String × Value)}
    (h : entry ∈ attributes) : rank entry.2 < rankAttributes attributes := by
  induction attributes with
  | nil => cases h
  | cons e rest ih =>
    obtain ⟨n, v⟩ := e
    rw [rankAttributes_cons]
    rcases List.mem_cons.1 h with rfl | h
    · simp only
      omega
    · have := ih h
      omega

theorem lookup_eq_undefined_or_mem (key : Value) (entries : List (Value × Value)) :
    lookup key entries = .undefined ∨ ∃ entry ∈ entries, lookup key entries = entry.2 := by
  induction entries with
  | nil => exact .inl rfl
  | cons e rest ih =>
    obtain ⟨k, v⟩ := e
    simp only [lookup]
    split
    · exact .inr ⟨(k, v), by simp, rfl⟩
    · rcases ih with h | ⟨entry, hm, h⟩
      · exact .inl h
      · exact .inr ⟨entry, by simp [hm], h⟩

theorem field_eq_undefined_or_mem (name : String) (attributes : List (String × Value)) :
    field name attributes = .undefined ∨
      ∃ entry ∈ attributes, field name attributes = entry.2 := by
  induction attributes with
  | nil => exact .inl rfl
  | cons e rest ih =>
    obtain ⟨n, v⟩ := e
    simp only [field]
    split
    · exact .inr ⟨(n, v), by simp, rfl⟩
    · rcases ih with h | ⟨entry, hm, h⟩
      · exact .inl h
      · exact .inr ⟨entry, by simp [hm], h⟩

theorem item_eq_undefined_or_mem (place : Nat) (items : List Value) :
    item place items = .undefined ∨ item place items ∈ items := by
  unfold item
  cases h : items[place]? with
  | none => exact .inl rfl
  | some x => exact .inr (List.mem_of_getElem? h)

/-- An array or an object has a rank above nothing. -/
theorem rank_pos_of_isArray {value : Value} (h : value.isArray = true) : 0 < value.rank := by
  refine rank_pos ?_
  rintro rfl
  cases h

theorem rank_pos_of_isObject {value : Value} (h : value.isObject = true) : 0 < value.rank := by
  refine rank_pos ?_
  rintro rfl
  cases h

theorem rank_lookup_le (key : Value) (entries : List (Value × Value)) :
    (lookup key entries).rank ≤ rankEntries entries := by
  rcases lookup_eq_undefined_or_mem key entries with h | ⟨entry, hm, h⟩
  · rw [h]
    exact Nat.zero_le _
  · rw [h]
    exact Nat.le_of_lt (rank_lt_rankEntries hm)

theorem rank_field_le (name : String) (attributes : List (String × Value)) :
    (field name attributes).rank ≤ rankAttributes attributes := by
  rcases field_eq_undefined_or_mem name attributes with h | ⟨entry, hm, h⟩
  · rw [h]
    exact Nat.zero_le _
  · rw [h]
    exact Nat.le_of_lt (rank_lt_rankAttributes hm)

theorem rank_item_le (place : Nat) (items : List Value) :
    (item place items).rank ≤ rankAll items := by
  rcases item_eq_undefined_or_mem place items with h | h
  · rw [h]
    exact Nat.zero_le _
  · exact Nat.le_of_lt (rank_lt_rankAll h)

/-- A member of a value that counts has a smaller rank. -/
theorem rank_member_lt {value key : Value} (h : 0 < value.rank) :
    (value.member key).rank < value.rank := by
  have none : Value.undefined.rank < value.rank := h
  unfold member
  split
  · rw [rank_mapping, Nat.add_comm]
    exact Nat.lt_succ_of_le (rank_lookup_le _ _)
  · split
    · rw [rank_list, Nat.add_comm]
      exact Nat.lt_succ_of_le (rank_item_le _ _)
    · exact none
  · split
    · rw [rank_tuple, Nat.add_comm]
      exact Nat.lt_succ_of_le (rank_item_le _ _)
    · exact none
  · rw [rank_record, Nat.add_comm]
    exact Nat.lt_succ_of_le (rank_field_le _ _)
  · rw [rank_symbol]
    split
    · rw [rank_string]
      omega
    · split
      · omega
      · exact Nat.lt_of_lt_of_le Nat.zero_lt_two (Nat.le_add_right 2 _)
  · exact none

/-- No member has a greater rank, whatever it is looked for in. -/
theorem rank_member_le (value key : Value) : (value.member key).rank ≤ value.rank := by
  by_cases h : value = .undefined
  · subst h
    exact Nat.le_refl 0
  · exact Nat.le_of_lt (rank_member_lt (rank_pos h))

theorem rank_item_lt {value x : Value} {items : List Value} (h : value.items? = some items)
    (hx : x ∈ items) : x.rank < value.rank := by
  have := rank_lt_rankAll hx
  cases value with
  | list =>
    cases h
    rw [rank_list]
    omega
  | tuple =>
    cases h
    rw [rank_tuple]
    omega
  | _ => cases h

/-- What stands under an own key has a smaller rank, and there is room for the key's text. -/
theorem rank_ownEntry_lt {value : Value} {entries : List (Value × Value)}
    {entry : Value × Value} (h : value.ownEntries? = some entries) (he : entry ∈ entries) :
    entry.2.rank + 1 < value.rank := by
  cases value with
  | mapping =>
    cases h
    have := rank_lt_rankEntries he
    rw [rank_mapping]
    omega
  | record =>
    cases h
    obtain ⟨entry, ha, rfl⟩ := List.mem_map.1 he
    have := rank_lt_rankAttributes (List.mem_filter.1 ha).1
    show entry.2.rank + 1 < _
    rw [rank_record]
    omega
  | symbol | function =>
    cases h
    cases he
  | _ => cases h

end Docblock.Value
