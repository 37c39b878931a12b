import Docblock.Number.Literal
import Mathlib

/-!
# Exact values

Every number but the absent one has an exact value: a rational number, or one of the two ends of the
line. Numbers compare by these values, so no whole number is rounded for it (`compare?_eq`).

The definition compares integers only: it brings two numbers to the smaller of their exponents and
compares what is left. Rational numbers come in with the proof. They are not needed to run anything,
and a bound can be stated with them as it is meant.

The absent number compares with nothing, not even with itself. Each lemma about a comparison says
what becomes of it: a comparison that holds gives values on both sides, and one that does not hold
says something of them only if they are there (`lt_eq_false_iff`).
-/

namespace Docblock

/-- The rational numbers with an end on either side. -/
abbrev Line : Type := WithBot (WithTop ℚ)

namespace Line

/-- An end of the line. -/
def infinity (negative : Bool) : Line := if negative then ⊥ else ⊤

/-- A place on the line. -/
def finite (q : ℚ) : Line := (q : WithTop ℚ)

theorem finite_strictMono : StrictMono finite :=
  WithBot.coe_strictMono.comp WithTop.coe_strictMono

theorem infinity_ne_finite (negative : Bool) (q : ℚ) : infinity negative ≠ finite q := by
  cases negative
  · exact fun same => (WithTop.coe_ne_top (WithBot.coe_inj.1 same).symm).elim
  · exact WithBot.bot_ne_coe

theorem compare_finite (p q : ℚ) : compare (finite p) (finite q) = compare p q := by
  rw [← cmp_eq_compare, ← cmp_eq_compare]
  exact finite_strictMono.cmp_map_eq p q

theorem compare_infinity (a b : Bool) :
    compare (infinity a) (infinity b) = compare (!a) (!b) := by
  cases a <;> cases b
  · exact compare_eq_iff_eq.2 rfl
  · exact compare_gt_iff_gt.2 bot_lt_top
  · exact compare_lt_iff_lt.2 bot_lt_top
  · exact compare_eq_iff_eq.2 rfl

theorem compare_infinity_finite (negative : Bool) (q : ℚ) :
    compare (infinity negative) (finite q) = if negative then .lt else .gt := by
  cases negative
  · exact compare_gt_iff_gt.2 (WithBot.coe_lt_coe.2 (WithTop.coe_lt_top q))
  · exact compare_lt_iff_lt.2 (WithBot.bot_lt_coe _)

theorem compare_finite_infinity (negative : Bool) (q : ℚ) :
    compare (finite q) (infinity negative) = if negative then .gt else .lt := by
  cases negative
  · exact compare_lt_iff_lt.2 (WithBot.coe_lt_coe.2 (WithTop.coe_lt_top q))
  · exact compare_gt_iff_gt.2 (WithBot.bot_lt_coe _)

end Line

namespace Number

/-- A whole number times a power of two. -/
def ratio (scaled : Int × Int) : ℚ := scaled.1 * 2 ^ scaled.2

/-- The exact value of a number. The absent number has none. -/
def value? : Number → Option Line
  | .int n => some (.finite n)
  | .double .nan => none
  | .double (.infinity negative) => some (.infinity negative)
  | .double (.finite negative mantissa exponent) =>
    some (.finite (ratio (if negative then -(mantissa : Int) else mantissa, exponent)))

theorem value?_eq_none_iff {x : Number} : x.value? = none ↔ x = .double .nan := by
  cases x with
  | int n => simp [value?]
  | double d => cases d <;> simp [value?]

/-! ## Comparing -/

/-- A whole number times a power of two is one times any smaller power. -/
theorem ratio_eq {scaled : Int × Int} {exponent : Int} (h : exponent ≤ scaled.2) :
    ratio scaled =
      ((scaled.1 * Nat.pow 2 (scaled.2 - exponent).toNat : Int) : ℚ) * 2 ^ exponent := by
  have places : scaled.2 = ((scaled.2 - exponent).toNat : Int) + exponent := by omega
  rw [ratio]
  conv_lhs => rw [places, zpow_add₀ (by norm_num), zpow_natCast]
  rw [Nat.pow_eq]
  push_cast
  ring

theorem compareScaled_eq (a b : Int × Int) : compareScaled a b = compare (ratio a) (ratio b) := by
  have pos : (0 : ℚ) < 2 ^ min a.2 b.2 := by positivity
  rw [compareScaled, ratio_eq (min_le_left a.2 b.2), ratio_eq (min_le_right a.2 b.2),
    ← cmp_eq_compare, ← cmp_eq_compare, cmp_mul_pos_right pos]
  exact (Int.cast_strictMono.cmp_map_eq _ _).symm

theorem ratio_int (n : Int) : ratio (n, 0) = n := by simp [ratio]

/-- Numbers compare by their exact values. -/
theorem compare?_eq (a b : Number) :
    compare? a b = a.value?.bind fun x => b.value?.map (compare x) := by
  cases a with
  | int n =>
    cases b with
    | int m => simp [compare?, scaled?, value?, compareScaled_eq, ratio_int, Line.compare_finite]
    | double y =>
      cases y with
      | nan => rfl
      | infinity negative => simp [compare?, value?, Line.compare_finite_infinity]
      | finite negative mantissa exponent =>
        simp [compare?, scaled?, Double.scaled?, value?, compareScaled_eq, ratio_int,
          Line.compare_finite]
  | double x =>
    cases x with
    | nan => rfl
    | infinity negative =>
      cases b with
      | int m => simp [compare?, value?, Line.compare_infinity_finite]
      | double y =>
        cases y with
        | nan => rfl
        | infinity other => simp [compare?, value?, Line.compare_infinity]
        | finite negative mantissa exponent =>
          simp [compare?, value?, Line.compare_infinity_finite]
    | finite negative mantissa exponent =>
      cases b with
      | int m =>
        simp [compare?, scaled?, Double.scaled?, value?, compareScaled_eq, ratio_int,
          Line.compare_finite]
      | double y =>
        cases y with
        | nan => rfl
        | infinity other => simp [compare?, value?, Line.compare_finite_infinity]
        | finite negative' mantissa' exponent' =>
          simp [compare?, scaled?, Double.scaled?, value?, compareScaled_eq, Line.compare_finite]

theorem lt_iff {a b : Number} : lt a b = true ↔ ∃ x ∈ a.value?, ∃ y ∈ b.value?, x < y := by
  rw [lt, beq_iff_eq, compare?_eq]
  simp [Option.bind_eq_some_iff, compare_lt_iff_lt]

theorem eqv_iff {a b : Number} : eqv a b = true ↔ ∃ x ∈ a.value?, x ∈ b.value? := by
  rw [eqv, beq_iff_eq, compare?_eq]
  simp [Option.bind_eq_some_iff]

theorem le_iff {a b : Number} : le a b = true ↔ ∃ x ∈ a.value?, ∃ y ∈ b.value?, x ≤ y := by
  rw [le, Bool.or_eq_true, lt_iff, eqv_iff]
  constructor
  · rintro (⟨x, hx, y, hy, less⟩ | ⟨x, hx, hy⟩)
    · exact ⟨x, hx, y, hy, less.le⟩
    · exact ⟨x, hx, x, hy, le_rfl⟩
  · rintro ⟨x, hx, y, hy, at_most⟩
    rcases at_most.lt_or_eq with less | rfl
    · exact .inl ⟨x, hx, y, hy, less⟩
    · exact .inr ⟨x, hx, hy⟩

/-- What is not less is at least as much, or one of the two has no value. -/
theorem lt_eq_false_iff {a b : Number} :
    lt a b = false ↔ ∀ x ∈ a.value?, ∀ y ∈ b.value?, y ≤ x := by
  rw [← Bool.not_eq_true, lt_iff]
  simp

theorem le_eq_false_iff {a b : Number} :
    le a b = false ↔ ∀ x ∈ a.value?, ∀ y ∈ b.value?, y < x := by
  rw [← Bool.not_eq_true, le_iff]
  simp

end Number

/-! ## Literals -/

theorem Double.ofRatio_ne_nan (negative : Bool) (numerator denominator : Nat) :
    ofRatio negative numerator denominator ≠ .nan := by
  unfold ofRatio
  split
  · simp
  · dsimp only
    split <;> split <;> split <;> simp

theorem Double.ofDecimal_ne_nan (negative : Bool) (digits : Nat) (power : Int) :
    ofDecimal negative digits power ≠ .nan := by
  unfold ofDecimal
  dsimp only
  split
  · simp
  · split
    · simp
    · exact ofRatio_ne_nan _ _ _

/-- A literal denotes a number with a value. -/
theorem NumberLiteral.exists_value (literal : NumberLiteral) :
    ∃ x, literal.toNumber.value? = some x := by
  have present : literal.toNumber ≠ .double .nan := by
    unfold toNumber
    split
    · simp
    · unfold toDouble
      split
      · simp
      · simp [Double.ofDecimal_ne_nan]
  exact Option.ne_none_iff_exists'.1 (mt Number.value?_eq_none_iff.1 present)

end Docblock
