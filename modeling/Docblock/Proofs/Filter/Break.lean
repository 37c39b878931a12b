import Docblock.Filter.Check
import Docblock.Proofs.Number.Range
import Docblock.Proofs.Value.Unwritable

/-!
# Filters that break off

A filter breaks off for one of three reasons (`Rule.Breaks`). Two filters turn whole numbers into
floating-point ones: whether a number is finite, and whether it is a multiple of another when one of
the two is a floating-point number already. A whole number that is too far from zero for that breaks
off the check. A value that does not meet its filter breaks it off as well if the message has to
show a whole number that has no text; a value that meets the filter never does, however long its
numbers are. Last, the test for web addresses may break off, which is left to the test.

`Rule.fault?_eq_error_iff` is exact for one rule, `Filter.firstFault?_eq_error_iff` for filters in
order. Each rule says in what cases its message is missing, and the cases are collected in one
relation, so a new filter would add one case and leave the theorems about several filters alone.

Regular expressions never break off: they were compiled when the filter was read. Which messages are
written where nothing breaks off is not looked at here.
-/

namespace Docblock

/-- A whole number beyond all finite floating-point numbers. -/
def Vast (n : Int) : Prop := 2 ^ 1024 - 2 ^ 970 ≤ n.natAbs

theorem vast_iff {n : Int} : Vast n ↔ Double.ofInt? n = none := Double.ofInt?_eq_none_iff.symm

theorem vast_natCast {n : Nat} (h : 2 ^ 1024 - 2 ^ 970 ≤ n) : Vast n := by
  unfold Vast
  rwa [Int.natAbs_natCast]

namespace Number

theorem multiple?_eq_none_iff {x step : Number} : x.multiple? step = none ↔
    (∃ n d, x = .int n ∧ step = .double d ∧ Vast n) ∨
      ∃ d n, x = .double d ∧ step = .int n ∧ Vast n := by
  cases x with
  | int n =>
    cases step with
    | int m => simp [multiple?]
    | double d => cases h : Double.ofInt? n <;> simp [multiple?, toDouble?, vast_iff, h]
  | double d =>
    cases step with
    | int n => cases h : Double.ofInt? n <;> simp [multiple?, toDouble?, vast_iff, h]
    | double d => simp [multiple?, toDouble?]

end Number

/-- A number, or the one that a rule wants it to be a multiple of, is too large for the rule. -/
inductive Rule.Overflows : Rule → Value → Value → Prop
  | finite {wanted : Bool} {n : Int} (vast : Vast n) : Overflows .finite (.bool wanted) (.int n)
  | multiple {n : Int} {d : Double} (vast : Vast n) : Overflows .step (.double d) (.int n)
  | step {n : Int} {d : Double} (vast : Vast n) : Overflows .step (.int n) (.double d)

/-- A value does not meet a rule, and the message about that has to show a number that has no text.
A number whose text is too long is also too large to be asked whether it is finite. -/
inductive Rule.Unwritten : Rule → Value → Value → Prop
  | array {extent : Extent} {expected value : Value} {limit : Number} {items : List Value}
      (bound : expected.number? = some limit) (inside : value.items? = some items)
      (wrong : extent.holds items.length limit = false)
      (long : (∃ item ∈ items, item.Unwritable) ∨ limit.Unwritable) :
      Unwritten (.arrayLength extent) expected value
  | bound {kind : Bound} {expected value : Value} {x limit : Number}
      (bound : expected.number? = some limit) (asked : value.number? = some x)
      (wrong : kind.holds x limit = false) (long : x.Unwritable ∨ limit.Unwritable) :
      Unwritten (.bound kind) expected value
  | step {expected value : Value} {x step : Number} (bound : expected.number? = some step)
      (asked : value.number? = some x) (wrong : x.multiple? step = some false)
      (long : x.Unwritable ∨ step.Unwritable) : Unwritten .step expected value
  | int {n : Int} (long : Lengthy n) : Unwritten .int (.bool false) (.int n)
  | safeInt {n : Int} (long : Lengthy n) : Unwritten .safeInt (.bool true) (.int n)
  | length {extent : Extent} {expected : Value} {s : String} {limit : Number}
      (bound : expected.number? = some limit) (wrong : extent.holds s.length limit = false)
      (long : limit.Unwritable) : Unwritten (.stringLength extent) expected (.string s)

/-- Asking a rule breaks off with a fault. -/
inductive Rule.Breaks [AddressTest] : Rule → Value → Value → Fault → Prop
  | tooLarge {rule : Rule} {expected value : Value} (overflows : rule.Overflows expected value) :
      Breaks rule expected value .integerTooLarge
  | tooLong {rule : Rule} {expected value : Value} (unwritten : rule.Unwritten expected value) :
      Breaks rule expected value (.integerTooLong none)
  | address {s : String} {wanted : Bool} (silent : AddressTest.isUrl? s.toList = none) :
      Breaks (.format .url) (.bool wanted) (.string s) .addressTest

/-- A fault that lies in the size of a number. -/
inductive Fault.OfNumber : Fault → Prop
  | tooLarge : OfNumber .integerTooLarge
  | tooLong : OfNumber (.integerTooLong none)

/-- A fault with which checks break off. -/
inductive Fault.OfCheck : Fault → Prop
  | number {fault : Fault} (number : fault.OfNumber) : OfCheck fault
  | address : OfCheck .addressTest

theorem Rule.Breaks.ofCheck [AddressTest] {rule : Rule} {expected value : Value} {fault : Fault}
    (h : rule.Breaks expected value fault) : fault.OfCheck := by
  cases h with
  | tooLarge => exact .number .tooLarge
  | tooLong => exact .number .tooLong
  | address => exact .address

/-- A test that never breaks off leaves the two reasons that lie in numbers. -/
theorem Rule.Breaks.ofNumber [AddressTest] (answers : AddressTest.Answers) {rule : Rule}
    {expected value : Value} {fault : Fault} (h : rule.Breaks expected value fault) :
    fault.OfNumber := by
  cases h with
  | tooLarge => exact .tooLarge
  | tooLong => exact .tooLong
  -- A test that answers is not silent about the text of the value.
  | @address s _ silent =>
    have told := answers s.toList
    rw [silent] at told
    cases told

theorem Lengthy.le_natAbs {n : Int} (h : Lengthy n) {digits : Nat} (few : digits ≤ Text.digitLimit) :
    10 ^ digits ≤ n.natAbs :=
  Nat.le_trans (Nat.pow_le_pow_right (by omega) few) h

theorem Lengthy.vast {n : Int} (h : Lengthy n) : Vast n := by
  have below : ∀ a b : Nat, 2 ^ a - 2 ^ b ≤ 10 ^ a := fun a b =>
    Nat.le_trans (Nat.sub_le _ _) (Nat.pow_le_pow_left (by omega) a)
  exact Nat.le_trans (below 1024 970) (h.le_natAbs (by decide))

theorem Lengthy.not_safe {n : Int} (h : Lengthy n) : ¬(-safeLimit ≤ n ∧ n ≤ safeLimit) := by
  have far : 10 ^ 16 ≤ n.natAbs := h.le_natAbs (by decide)
  unfold safeLimit
  omega

namespace Filter

variable {fault : Fault} {holds : Bool} {message : Except Fault String} {long : Prop}

/-- Whether a demand is met does not hang on the message. -/
theorem demand_eq_none_iff : demand holds message = .ok none ↔ holds = true := by
  cases holds with
  | true => simp [demand]
  | false => cases message <;> simp [demand, Except.map]

theorem missingIff_demand (h : MissingIff message long) :
    MissingIff (demand holds message) (holds = false ∧ long) := by
  cases holds with
  | true => exact (MissingIff.ok none).congr (by simp)
  | false => exact (h.map some).congr (by simp)

theorem missingIff_arrayFault? (extent : Extent) (items : List Value) (bound : Number) :
    MissingIff (arrayFault? extent items bound) (extent.holds items.length bound = false ∧
      ((∃ item ∈ items, item.Unwritable) ∨ bound.Unwritable)) :=
  missingIff_demand ((Value.missingIff_arrayText items).bind fun _ => bound.missingIff_text.map _)

theorem missingIff_boundFault? (bound : Bound) (x limit : Number) :
    MissingIff (boundFault? bound x limit)
      (bound.holds x limit = false ∧ (x.Unwritable ∨ limit.Unwritable)) :=
  missingIff_demand (x.missingIff_text.bind fun _ => limit.missingIff_text.map _)

theorem missingIff_sortFault? (holds wanted : Bool) (x : Number) (sort : String) :
    MissingIff (sortFault? holds wanted x sort) (holds ≠ wanted ∧ x.Unwritable) :=
  (missingIff_demand (x.missingIff_text.map _)).congr (by simp)

theorem missingIff_lengthFault? (extent : Extent) (s : String) (bound : Number) :
    MissingIff (lengthFault? extent s bound)
      (extent.holds s.length bound = false ∧ bound.Unwritable) :=
  missingIff_demand (bound.missingIff_text.map _)

theorem stepFault?_eq_error_iff {x step : Number} : stepFault? x step = .error fault ↔
    (fault = .integerTooLarge ∧ x.multiple? step = none) ∨
      fault = .integerTooLong none ∧ x.multiple? step = some false ∧
        (x.Unwritable ∨ step.Unwritable) := by
  unfold stepFault?
  cases x.multiple? step with
  | none => simp [eq_comm]
  | some holds =>
    have written : MissingIff (demand holds (do
        return "Expected number " ++ (← x.text) ++ " to be multiple of " ++ (← step.text)))
        (holds = false ∧ (x.Unwritable ∨ step.Unwritable)) :=
      missingIff_demand (x.missingIff_text.bind fun _ => step.missingIff_text.map _)
    simpa using written fault

/-- A number that has no text is too large to be asked whether it is finite. -/
theorem finiteFault?_eq_error_iff {x : Number} {wanted : Bool} :
    finiteFault? x wanted = .error fault ↔
      fault = .integerTooLarge ∧ ∃ n, x = .int n ∧ Vast n := by
  unfold finiteFault?
  cases x with
  | int n =>
    cases h : Double.ofInt? n with
    | none => simp [Number.toDouble?, vast_iff, h, eq_comm]
    | some d =>
      have small : ¬Vast n := by simp [vast_iff, h]
      have short : ¬Lengthy n := mt Lengthy.vast small
      simp [Number.toDouble?, h, small, short, missingIff_sortFault? _ _ _ _ fault, Number.Unwritable]
  | double d =>
    simp [Number.toDouble?, missingIff_sortFault? _ _ _ _ fault, Number.Unwritable]

theorem missingIff_safeFault? (x : Number) (wanted : Bool) :
    MissingIff (safeFault? x wanted) (wanted = true ∧ x.Unwritable) := by
  unfold safeFault?
  cases x with
  | int n =>
    refine (missingIff_sortFault? _ _ _ _).congr (and_congr_left fun long => ?_)
    have far : ¬(-safeLimit ≤ n ∧ n ≤ safeLimit) := Lengthy.not_safe long
    simp [far]
  | double d =>
    have written : ∀ holds wanted sort,
        MissingIff (sortFault? holds wanted (.double d) sort) False := fun holds wanted sort =>
      (missingIff_sortFault? _ _ _ _).congr (by simp [Number.Unwritable])
    cases (Number.double d).toInt? with
    | none => exact (written _ _ _).congr (by simp [Number.Unwritable])
    | some n => exact (written _ _ _).congr (by simp [Number.Unwritable])

theorem formatFault?_eq_error_iff [AddressTest] {format : Format} {s : String} {wanted : Bool} :
    formatFault? format s wanted = .error fault ↔
      fault = .addressTest ∧ format = .url ∧ AddressTest.isUrl? s.toList = none := by
  have demanded : ∀ holds text, ¬demand holds (.ok text) = .error fault := fun holds text h =>
    ((missingIff_demand (MissingIff.ok text) fault).1 h).2.2
  unfold formatFault?
  simp only [bind_eq_error, demanded, and_false, exists_false, or_false]
  cases format with
  | url => cases told : AddressTest.isUrl? s.toList <;> simp [Format.holds, told, eq_comm]
  | _ => simp [Format.holds]

end Filter

theorem Value.number?_eq_int {value : Value} {n : Int} :
    value.number? = some (.int n) ↔ value = .int n := by
  cases value <;> simp [number?]

theorem Value.number?_eq_double {value : Value} {x : Double} :
    value.number? = some (.double x) ↔ value = .double x := by
  cases value <;> simp [number?]

/-- The filters that may be written are those that are checked, each by its own rule. -/
theorem Category.checker?_eq_rule? (category : Category) (name : String) :
    category.checker? name = category.rule? name := by
  by_cases known : name ∈ category.rules.map Prod.fst
  · cases category <;>
      simp only [rules, List.map_cons, List.map_nil, List.mem_cons, List.not_mem_nil,
        or_false] at known
    case array => rcases known with rfl | rfl | rfl <;> rfl
    case number => rcases known with rfl | rfl | rfl | rfl | rfl | rfl | rfl | rfl | rfl | rfl <;> rfl
    case string =>
      rcases known with rfl | rfl | rfl | rfl | rfl | rfl | rfl | rfl | rfl | rfl | rfl | rfl |
        rfl | rfl | rfl | rfl | rfl <;> rfl
  · have unread : category.rule? name = none := by
      rw [rule?, List.lookup_eq_none_iff]
      intro entry he
      exact bne_iff_ne.2 fun h => known (h ▸ List.mem_map_of_mem he)
    have unchecked : category.checker? name = none := by
      cases category <;> simp_all [rules, checker?, checkers]
    rw [unread, unchecked]

variable [AddressTest]

namespace Rule

variable {rule : Rule} {expected value : Value} {fault : Fault}

theorem breaks_of_fault (h : rule.fault? expected value = .error fault) :
    rule.Breaks expected value fault := by
  unfold fault? at h
  -- One case for each rule in the order of the definition, with lists and tuples apart. The last
  -- one is for values that the rule says nothing about.
  split at h
  case h_1 bound =>
    obtain ⟨rfl, wrong, long⟩ := (Filter.missingIff_arrayFault? _ _ _ _).1 h
    exact .tooLong (.array bound rfl wrong long)
  case h_2 bound =>
    obtain ⟨rfl, wrong, long⟩ := (Filter.missingIff_arrayFault? _ _ _ _).1 h
    exact .tooLong (.array bound rfl wrong long)
  case h_3 bound asked =>
    obtain ⟨rfl, wrong, long⟩ := (Filter.missingIff_boundFault? _ _ _ _).1 h
    exact .tooLong (.bound bound asked wrong long)
  case h_4 bound asked =>
    rcases Filter.stepFault?_eq_error_iff.1 h with ⟨rfl, large⟩ | ⟨rfl, wrong, long⟩
    · rcases Number.multiple?_eq_none_iff.1 large with ⟨n, d, rfl, rfl, vast⟩ | ⟨d, n, rfl, rfl, vast⟩
      · rw [Value.number?_eq_int.1 asked, Value.number?_eq_double.1 bound]
        exact .tooLarge (.multiple vast)
      · rw [Value.number?_eq_double.1 asked, Value.number?_eq_int.1 bound]
        exact .tooLarge (.step vast)
    · exact .tooLong (.step bound asked wrong long)
  case h_5 x wanted asked =>
    obtain ⟨rfl, wrong, long⟩ := (Filter.missingIff_sortFault? _ _ _ _ _).1 h
    cases x with
    | double d => exact long.elim
    | int n =>
      rw [Value.number?_eq_int.1 asked]
      cases wanted with
      | true => exact absurd rfl wrong
      | false => exact .tooLong (.int long)
  case h_6 asked =>
    obtain ⟨rfl, n, rfl, vast⟩ := Filter.finiteFault?_eq_error_iff.1 h
    rw [Value.number?_eq_int.1 asked]
    exact .tooLarge (.finite vast)
  case h_7 x wanted asked =>
    obtain ⟨rfl, rfl, long⟩ := (Filter.missingIff_safeFault? _ _ _).1 h
    cases x with
    | double d => exact long.elim
    | int n =>
      rw [Value.number?_eq_int.1 asked]
      exact .tooLong (.safeInt long)
  case h_8 bound =>
    obtain ⟨rfl, wrong, long⟩ := (Filter.missingIff_lengthFault? _ _ _ _).1 h
    exact .tooLong (.length bound wrong long)
  case h_9 => exact ((Filter.missingIff_demand (.ok _) _).1 h).2.2.elim
  case h_10 => exact ((Filter.missingIff_demand (.ok _) _).1 h).2.2.elim
  case h_11 =>
    obtain ⟨rfl, rfl, silent⟩ := Filter.formatFault?_eq_error_iff.1 h
    exact .address silent
  case h_12 => cases h

theorem fault_of_unwritten (h : rule.Unwritten expected value) :
    rule.fault? expected value = .error (.integerTooLong none) := by
  cases h with
  | @array extent _ _ limit items bound inside wrong long =>
    have faulty := (Filter.missingIff_arrayFault? extent items limit _).2 ⟨rfl, wrong, long⟩
    cases value <;> cases inside
    · simpa [fault?, bound] using faulty
    · simpa [fault?, bound] using faulty
  | bound bound asked wrong long =>
    simpa [fault?, bound, asked] using
      (Filter.missingIff_boundFault? _ _ _ _).2 ⟨rfl, wrong, long⟩
  | step bound asked wrong long =>
    simpa [fault?, bound, asked] using
      Filter.stepFault?_eq_error_iff.2 (.inr ⟨rfl, wrong, long⟩)
  | int long => exact (Filter.missingIff_sortFault? _ _ (.int _) _ _).2 ⟨rfl, nofun, long⟩
  | safeInt long => exact (Filter.missingIff_safeFault? (.int _) _ _).2 ⟨rfl, rfl, long⟩
  | length bound wrong long =>
    simpa [fault?, bound] using (Filter.missingIff_lengthFault? _ _ _ _).2 ⟨rfl, wrong, long⟩

/-- A rule breaks off where a number is too large for it, where its message cannot be written, or
where the test for web addresses does. -/
theorem fault?_eq_error_iff :
    rule.fault? expected value = .error fault ↔ rule.Breaks expected value fault := by
  refine ⟨breaks_of_fault, fun h => ?_⟩
  cases h with
  | tooLarge overflows =>
    cases overflows with
    | finite vast => exact Filter.finiteFault?_eq_error_iff.2 ⟨rfl, _, rfl, vast⟩
    | @multiple n d vast =>
      have large := Number.multiple?_eq_none_iff.2 (.inl ⟨n, d, rfl, rfl, vast⟩)
      exact Filter.stepFault?_eq_error_iff.2 (.inl ⟨rfl, large⟩)
    | @step n d vast =>
      have large := Number.multiple?_eq_none_iff.2 (.inr ⟨d, n, rfl, rfl, vast⟩)
      exact Filter.stepFault?_eq_error_iff.2 (.inl ⟨rfl, large⟩)
  | tooLong unwritten => exact fault_of_unwritten unwritten
  | address silent => exact Filter.formatFault?_eq_error_iff.2 ⟨rfl, rfl, silent⟩

end Rule

/-! ## Several filters -/

namespace Filter

variable {category : Category} {value : Value} {filter : Filter} {filters : List Filter}

/-- Asking a filter of a category breaks off with a fault. -/
def Breaks (category : Category) (value : Value) (filter : Filter) (fault : Fault) : Prop :=
  ∃ rule, category.rule? filter.name = some rule ∧ rule.Breaks filter.value value fault

/-- One filter is asked; the others are, when it lets the value through. -/
theorem firstFault?_cons_eq_error_iff {rule : Rule} {fault : Fault}
    (known : category.rule? filter.name = some rule) :
    firstFault? category value (filter :: filters) = .error fault ↔
      rule.fault? filter.value value = .error fault ∨
        rule.fault? filter.value value = .ok none ∧
          firstFault? category value filters = .error fault := by
  rw [firstFault?]
  simp only [category.checker?_eq_rule?, known]
  rcases rule.fault? filter.value value with other | _ | message <;>
    simp [bind, Except.bind, pure, Except.pure]

theorem firstFault?_cons_eq_none_iff {rule : Rule}
    (known : category.rule? filter.name = some rule) :
    firstFault? category value (filter :: filters) = .ok none ↔
      rule.fault? filter.value value = .ok none ∧ firstFault? category value filters = .ok none := by
  rw [firstFault?]
  simp only [category.checker?_eq_rule?, known]
  rcases rule.fault? filter.value value with other | _ | message <;>
    simp [bind, Except.bind, pure, Except.pure]

/-- Filters of a category break off where one of them does, and those before it let the value
through. -/
theorem firstFault?_eq_error_iff {fault : Fault}
    (known : ∀ filter ∈ filters, (category.rule? filter.name).isSome = true) :
    firstFault? category value filters = .error fault ↔
      ∃ before filter after, filters = before ++ filter :: after ∧
        firstFault? category value before = .ok none ∧ filter.Breaks category value fault := by
  induction filters with
  | nil => simp [firstFault?]
  | cons filter rest ih =>
    obtain ⟨rule, hrule⟩ := Option.isSome_iff_exists.1 (known filter (by simp))
    have later := ih fun other ho => known other (by simp [ho])
    have one : filter.Breaks category value fault ↔ rule.Breaks filter.value value fault := by
      simp [Breaks, hrule]
    rw [firstFault?_cons_eq_error_iff hrule, Rule.fault?_eq_error_iff, ← one, later]
    constructor
    · rintro (breaks | ⟨asked, before, other, after, rfl, passed, breaks⟩)
      · exact ⟨[], filter, rest, rfl, rfl, breaks⟩
      · have through := (firstFault?_cons_eq_none_iff hrule).2 ⟨asked, passed⟩
        exact ⟨filter :: before, other, after, rfl, through, breaks⟩
    · rintro ⟨before, other, after, split, passed, breaks⟩
      cases before with
      | nil =>
        cases split
        exact .inl breaks
      | cons first before =>
        cases split
        obtain ⟨asked, passed⟩ := (firstFault?_cons_eq_none_iff hrule).1 passed
        exact .inr ⟨asked, before, other, after, rfl, passed, breaks⟩

end Filter

end Docblock
