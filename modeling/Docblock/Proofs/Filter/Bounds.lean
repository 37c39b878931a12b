import Docblock.Filter.Literal
import Docblock.Proofs.Filter.Break
import Docblock.Proofs.Number.Order

/-!
# Bounds of numbers

A number is within a bound when its exact value is (`BoundFilter.Met`). Filters that set bounds let
a number through when it is within all of them, and they let the absent number through too, which is
within none (`passes_iff`): each asks whether a number is out of bounds, and the absent one does not
compare.

The bound of a filter is a literal, so it has a value. This is no restriction of the filters that
there are: what is read as a number from the text of a filter is the number of some literal
(`Filter.exists_literal_of_readNumber`), and the absent number cannot be written. Values that are
checked are any numbers.

A number that passes has no message written about it, so how long the numbers are plays no part
here. What happens to one that does not pass is told where filters break off.
-/

namespace Docblock

/-- A number as a value. -/
def Number.toValue : Number → Value
  | .int n => .int n
  | .double x => .double x

@[simp] theorem Number.number?_toValue (x : Number) : x.toValue.number? = some x := by
  cases x <;> rfl

/-- A bound that is read from a filter is the number of a literal. -/
theorem Filter.exists_literal_of_readNumber {literal cs rest : List Char} {value : Value}
    (h : readNumber literal cs = .ok (value, rest)) :
    ∃ number : NumberLiteral, value = number.toNumber.toValue := by
  unfold readNumber at h
  split at h
  · cases h
  · rename_i number _ _
    refine ⟨number, ?_⟩
    dsimp only at h
    split at h
    · cases h
    · split at h
      · rename_i n whole
        cases h
        rw [whole]
        rfl
      · rename_i x broken
        cases h
        rw [broken]
        rfl

/-- The names of filters that set bounds. -/
def boundNames : List (String × Bound) :=
  [("min", .least), ("gte", .least), ("max", .most), ("lte", .most), ("gt", .above), ("lt", .below)]

/-- A filter that sets a bound, with a literal for the bound. -/
structure BoundFilter where
  name : String
  bound : Bound
  limit : NumberLiteral
  message : String
  known : (name, bound) ∈ boundNames

/-- How the value of a number has to stand to that of a bound. -/
def Bound.Admits : Bound → Line → Line → Prop
  | least, x, limit => limit ≤ x
  | most, x, limit => x ≤ limit
  | above, x, limit => limit < x
  | below, x, limit => x < limit

/-- A number that does not compare with a bound is as demanded. -/
theorem Bound.holds_iff {bound : Bound} {x limit : Number} : bound.holds x limit = true ↔
    ∀ v ∈ x.value?, ∀ l ∈ limit.value?, bound.Admits v l := by
  cases bound with
  | least => rw [holds, Bool.not_eq_true', Number.lt_eq_false_iff]; rfl
  | above => rw [holds, Bool.not_eq_true', Number.le_eq_false_iff]; rfl
  | most =>
    rw [holds, Bool.not_eq_true', Number.lt_eq_false_iff]
    exact ⟨fun h v hv l hl => h l hl v hv, fun h l hl v hv => h v hv l hl⟩
  | below =>
    rw [holds, Bool.not_eq_true', Number.le_eq_false_iff]
    exact ⟨fun h v hv l hl => h l hl v hv, fun h l hl v hv => h v hv l hl⟩

/-- Whether a bound lets a number through does not hang on the message. -/
theorem Filter.boundFault?_eq_none_iff {bound : Bound} {x limit : Number} :
    boundFault? bound x limit = .ok none ↔ bound.holds x limit = true :=
  demand_eq_none_iff

namespace BoundFilter

/-- The filter as it is held. -/
def toFilter (filter : BoundFilter) : Filter :=
  ⟨filter.name, filter.limit.toNumber.toValue, filter.message⟩

/-- A number is within the bound. -/
def Met (filter : BoundFilter) (x : Number) : Prop :=
  ∃ v ∈ x.value?, ∃ l ∈ filter.limit.toNumber.value?, filter.bound.Admits v l

theorem rule?_eq (filter : BoundFilter) :
    Category.number.rule? filter.toFilter.name = some (.bound filter.bound) := by
  obtain ⟨name, bound, limit, message, known⟩ := filter
  simp only [boundNames, List.mem_cons, Prod.mk.injEq, List.not_mem_nil, or_false] at known
  rcases known with ⟨rfl, rfl⟩ | ⟨rfl, rfl⟩ | ⟨rfl, rfl⟩ | ⟨rfl, rfl⟩ | ⟨rfl, rfl⟩ | ⟨rfl, rfl⟩ <;>
    rfl

variable [AddressTest]

/-- A filter lets a number through that is within the bound, and the absent one. -/
theorem fault?_eq_none_iff (filter : BoundFilter) (x : Number) :
    (Rule.bound filter.bound).fault? filter.toFilter.value x.toValue = .ok none ↔
      x = .double .nan ∨ filter.Met x := by
  have asked : (Rule.bound filter.bound).fault? filter.toFilter.value x.toValue =
      Filter.boundFault? filter.bound x filter.limit.toNumber := by
    simp [Rule.fault?, toFilter]
  obtain ⟨l, hl⟩ := filter.limit.exists_value
  rw [asked, Filter.boundFault?_eq_none_iff, Bound.holds_iff, Met, hl]
  cases hx : x.value? with
  | none => simp [Number.value?_eq_none_iff.1 hx]
  | some v =>
    have present : x ≠ .double .nan := by
      rintro rfl
      cases hx
    simp [present]

/-- Filters that set bounds let a number through when it is within all of them, and they let the
absent number through. So they mean what they say of every other number, and of the absent number
only when there are none. -/
theorem passes_iff (x : Number) (filters : List BoundFilter) :
    (Filter.firstFault? .number x.toValue (filters.map (·.toFilter)) = .ok none ↔
      x = .double .nan ∨ ∀ filter ∈ filters, filter.Met x) ∧
    ((Filter.firstFault? .number x.toValue (filters.map (·.toFilter)) = .ok none ↔
        ∀ filter ∈ filters, filter.Met x) ↔
      x ≠ .double .nan ∨ filters = []) := by
  have passes : Filter.firstFault? .number x.toValue (filters.map (·.toFilter)) = .ok none ↔
      x = .double .nan ∨ ∀ filter ∈ filters, filter.Met x := by
    induction filters with
    | nil => simp [Filter.firstFault?]
    | cons filter rest ih =>
      rw [List.map_cons, Filter.firstFault?_cons_eq_none_iff filter.rule?_eq,
        filter.fault?_eq_none_iff, ih, ← or_and_left, List.forall_mem_cons]
  refine ⟨passes, ?_⟩
  rw [passes]
  by_cases absent : x = .double .nan
  · subst absent
    have outside : ∀ filter : BoundFilter, ¬filter.Met (.double .nan) := by
      rintro filter ⟨v, ⟨⟩, -⟩
    cases filters with
    | nil => simp
    | cons filter rest =>
      refine iff_of_false (fun same => ?_) (by simp)
      exact outside filter (same.1 (.inl rfl) filter (by simp))
  · simp [absent]

example : Filter.firstFault? .number (.double .nan) [⟨"min", .int 5, ""⟩] = .ok none := by rfl

end BoundFilter

end Docblock
