import Docblock.Block.Tag

/-!
# What a type demands of a value

At its outermost a type either rules a value out or demands something of the value's members. The
demands name the members with the keys that lead to them. Every member that is spoken of has a
smaller rank than the value (`rank_lt_of_mem_demands`), so a check that follows demands ends.

Whether the demands are met is not asked here, and no name is resolved: a name demands nothing by
itself. The keys that are too much are part of a shape because they are known at once, although they
are told only after all demands were met.
-/

namespace Docblock

/-- A value that has to be of one of some types, and the keys that lead to it. -/
structure Demand where
  steps : List Value
  value : Value
  types : List TypeExpr
  filters : List Filter

/-- What a type says of a value at its outermost. `extra` holds the keys that must not be there. It
is asked for when the demands are met, and is a fault where a key follows that has no text. -/
inductive Shape where
  | mismatch
  | members (demands : List Demand) (extra : Except Fault (List Value))

namespace Shape

/-- A shape that only says yes or no. -/
def ofBool (holds : Bool) : Shape := if holds then members [] (.ok []) else mismatch

/-- The demands of a shape. -/
def demands : Shape → List Demand
  | mismatch => []
  | members demands _ => demands

end Shape

/-- The absent value. -/
def Value.isUndefined : Value → Bool
  | undefined => true
  | _ => false

/-- The own keys of a value that are not declared. -/
def Value.undeclared (declared : List String) (value : Value) : List Value :=
  value.ownKeys.filter fun key =>
    match key with
    | string name => !declared.contains name
    | _ => true

/-- Whether a value is of a primitive type. -/
def Primitive.admits : Primitive → Value → Bool
  | string, .string _ => true
  | number, value => value.isNumber
  | bigint, .int _ => true
  | boolean, .bool _ => true
  | symbol, .symbol .. => true
  | _, _ => false

/-- Whether a value is the literal one. -/
def Literal.admits : Literal → Value → Bool
  | boolean b, .bool c => b == c
  | number x, value => value.number?.any (·.eqv (.double x))
  | string s, .string t => s == t
  | _, _ => false

/-- Whether a value is of the built-in sort that a name stands for, or else of the type that has
the name. -/
def Value.isNamed (name : String) (value : Value) : Bool :=
  if name = "Function" then value.isCallable
  else if name = "Date" then
    match value with
    | date _ | dateTime .. => true
    | _ => false
  else if name = "RegExp" then
    match value with
    | pattern _ => true
    | _ => false
  else if name = "Map" then
    match value with
    | mapping _ => true
    | _ => false
  else if name = "Set" then
    match value with
    | set _ => true
    | _ => false
  else value.typeName == name

/-- The texts of the keys of an object, unless one of them has none. -/
def Value.keyTexts (entries : List (Value × Value)) : Except Fault (List String) :=
  entries.mapM fun entry => entry.1.text

namespace Demand

/-- Every item of an array has to be of one of the types. -/
def ofItems (types : List TypeExpr) (items : List Value) : List Demand :=
  items.zipIdx.map fun (item, place) => ⟨[.int place], item, types, []⟩

/-- Every field speaks of the item at its place. -/
def ofPlaces (fields : List (Field TypeExpr)) (value : Value) : List Demand :=
  fields.zipIdx.map fun (field, place) =>
    ⟨[.int place], value.member (.int place), field.types, field.filters⟩

/-- Every own key, as a text, and what stands under it have to be of their types. Nothing is asked
from the first key on that has no text. -/
def ofEntries (keys values : List TypeExpr) : List (Value × Value) → List Demand
  | [] => []
  | (key, value) :: rest =>
    match key.text with
    | .ok text =>
      ⟨[key], .string text, keys, []⟩ :: ⟨[key], value, values, []⟩ :: ofEntries keys values rest
    | .error _ => []


/-- Every field speaks of what stands under its key. -/
def ofFields (fields : List (Field TypeExpr)) (value : Value) : List Demand :=
  fields.map fun field =>
    ⟨[.string field.key], value.member (.string field.key), field.types, field.filters⟩

/-- The keys that lead to the member that a tag speaks of. -/
def tagSteps (tag : Tag) : List Value :=
  match tag.member with
  | some (owner, member) => [.string owner, .string member]
  | none => [.string tag.name]

/-- A tag speaks of the member that it names. An optional one may be missing. -/
def ofTag? (value : Value) (tag : Tag) : Option Demand :=
  let steps := tagSteps tag
  let member := steps.foldl Value.member value
  if tag.optional && member.isUndefined then none
  else some ⟨steps, member, tag.types, tag.filters⟩

end Demand

namespace TypeExpr

/-- What a type says of a value at its outermost. A name stands for itself here; where it is
resolved this is not asked. -/
def shape (type : TypeExpr) (value : Value) (strict : Bool) : Shape :=
  match type with
  | any _ => .ofBool true
  | literal _ expected => .ofBool (expected.admits value)
  | primitive _ name => .ofBool (name.admits value)
  | null _ => .ofBool (value matches .null)
  | undefined _ => .ofBool value.isUndefined
  | array _ types =>
    match value.items? with
    | some items => .members (Demand.ofItems types items) (.ok [])
    | none => .mismatch
  | tuple _ fields =>
    if value.isArray then .members (Demand.ofPlaces fields value) (.ok []) else .mismatch
  | map _ keys values =>
    match value.ownEntries? with
    | some entries =>
      -- Every key may be there, but one that has no text is a fault once the others are done with.
      .members (Demand.ofEntries keys values entries) ((Value.keyTexts entries).map fun _ => [])
    | none => .mismatch
  | object _ fields =>
    if value.isObject then
      .members (Demand.ofFields fields value)
        (.ok (if strict then value.undeclared (fields.map (·.key)) else []))
    else .mismatch
  | named _ name => .ofBool (value.isNamed name)

end TypeExpr

/-- The key that a tag declares. -/
def Tag.declaredKey (tag : Tag) : String :=
  match tag.member with
  | some (owner, _) => owner
  | none => tag.name

/-- What tags that describe members say of a value. -/
def Tag.shape (tags : List Tag) (value : Value) (strict : Bool) : Shape :=
  if value.isObject then
    .members (tags.filterMap (Demand.ofTag? value))
      (.ok (if strict then value.undeclared (tags.map declaredKey) else []))
  else .mismatch

/-! ## Ranks -/

theorem Shape.demands_ofBool (holds : Bool) : (ofBool holds).demands = [] := by
  cases holds <;> rfl

namespace Demand

theorem rank_of_mem_ofItems {types : List TypeExpr} {value : Value} {items : List Value}
    {demand : Demand} (hv : value.items? = some items) (h : demand ∈ ofItems types items) :
    demand.value.rank < value.rank := by
  obtain ⟨⟨item, place⟩, hm, rfl⟩ := List.mem_map.1 h
  exact Value.rank_item_lt hv (List.mem_of_getElem? (List.mem_zipIdx_iff_getElem?.1 hm))

theorem rank_of_mem_ofPlaces {fields : List (Field TypeExpr)} {value : Value} {demand : Demand}
    (hv : value.isArray = true) (h : demand ∈ ofPlaces fields value) :
    demand.value.rank < value.rank := by
  obtain ⟨_, _, rfl⟩ := List.mem_map.1 h
  exact Value.rank_member_lt (Value.rank_pos_of_isArray hv)

/-- What is asked of an entry: its key has a text, and that is asked about or what stands under the
key. -/
theorem exists_of_mem_ofEntries {keys values : List TypeExpr} {entries : List (Value × Value)}
    {demand : Demand} (h : demand ∈ ofEntries keys values entries) :
    ∃ entry ∈ entries, ∃ text, entry.1.text = .ok text ∧
      (demand = ⟨[entry.1], .string text, keys, []⟩ ∨
        demand = ⟨[entry.1], entry.2, values, []⟩) := by
  induction entries with
  | nil => cases h
  | cons entry rest ih =>
    obtain ⟨key, value⟩ := entry
    rw [ofEntries] at h
    split at h
    · rename_i text written
      simp only [List.mem_cons] at h
      rcases h with rfl | rfl | h
      · exact ⟨(key, value), by simp, text, written, .inl rfl⟩
      · exact ⟨(key, value), by simp, text, written, .inr rfl⟩
      · obtain ⟨other, ho, told⟩ := ih h
        exact ⟨other, by simp [ho], told⟩
    · cases h

theorem rank_of_mem_ofEntries {keys values : List TypeExpr} {value : Value}
    {entries : List (Value × Value)} {demand : Demand} (hv : value.ownEntries? = some entries)
    (h : demand ∈ ofEntries keys values entries) : demand.value.rank < value.rank := by
  obtain ⟨entry, hm, text, -, hd⟩ := exists_of_mem_ofEntries h
  have := Value.rank_ownEntry_lt hv hm
  rcases hd with rfl | rfl
  · rw [Value.rank_string]
    omega
  · simp only
    omega

theorem rank_of_mem_ofFields {fields : List (Field TypeExpr)} {value : Value} {demand : Demand}
    (hv : value.isObject = true) (h : demand ∈ ofFields fields value) :
    demand.value.rank < value.rank := by
  obtain ⟨_, _, rfl⟩ := List.mem_map.1 h
  exact Value.rank_member_lt (Value.rank_pos_of_isObject hv)

theorem rank_of_ofTag {tag : Tag} {value : Value} {demand : Demand} (hv : value.isObject = true)
    (h : ofTag? value tag = some demand) : demand.value.rank < value.rank := by
  unfold ofTag? at h
  dsimp only at h
  split at h
  · cases h
  · cases h
    have hpos := Value.rank_pos_of_isObject hv
    unfold tagSteps
    split
    · exact Nat.lt_of_le_of_lt (Value.rank_member_le _ _) (Value.rank_member_lt hpos)
    · exact Value.rank_member_lt hpos

end Demand

theorem TypeExpr.rank_lt_of_mem_demands {type : TypeExpr} {value : Value} {strict : Bool}
    {demand : Demand} (h : demand ∈ (type.shape value strict).demands) :
    demand.value.rank < value.rank := by
  cases type <;> simp only [shape, Shape.demands_ofBool, List.not_mem_nil] at h
  · split at h
    · exact Demand.rank_of_mem_ofItems (by assumption) h
    · cases h
  · split at h
    · exact Demand.rank_of_mem_ofPlaces (by assumption) h
    · cases h
  · split at h
    · exact Demand.rank_of_mem_ofEntries (by assumption) h
    · cases h
  · split at h
    · exact Demand.rank_of_mem_ofFields (by assumption) h
    · cases h

theorem Tag.rank_lt_of_mem_demands {tags : List Tag} {value : Value} {strict : Bool}
    {demand : Demand} (h : demand ∈ (shape tags value strict).demands) :
    demand.value.rank < value.rank := by
  unfold shape at h
  split at h
  · obtain ⟨tag, _, ht⟩ := List.mem_filterMap.1 h
    exact Demand.rank_of_ofTag (by assumption) ht
  · cases h

end Docblock
