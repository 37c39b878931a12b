import Docblock.Number.Double
import Mathlib.Algebra.Ring.Nat

/-!
# Whole numbers beyond all floating-point numbers

A whole number has a nearest finite number unless it is as far from zero as the middle between the
largest finite number and the next power of two (`ofInt?_eq_none_iff`).

The middle itself is out of range, because it is rounded to the even mantissa, which is that of the
power. Only the numbers between two powers need the rounding to be looked at
(`isFinite_ofRatio_iff`). Those below have small exponents whichever way they are rounded, and those
above have none that is allowed.

Which finite number is the nearest is another question, and whole numbers that are written with an
exponent or a point are not meant here.
-/

namespace Docblock.Double

/-- The exponent that is tried first for a whole number. -/
theorem guess_whole (n : Nat) :
    max minExponent ((n.log2 : Int) - ((1 : Nat).log2 : Int) - 53) = (n.log2 : Int) - 53 := by
  rw [show (1 : Nat).log2 = 0 by decide, minExponent]
  omega

theorem divideScaled_whole (n places : Nat) :
    divideScaled n 1 (places : Int) = (n / 2 ^ places, n % 2 ^ places, 2 ^ places) := by
  have up : (-(places : Int)).toNat = 0 := by omega
  simp [divideScaled, up]

/-- The first quotient is never too small: the exponent that is tried first is one too low. -/
theorem filled_whole {n places : Nat} (h : n.log2 = places + 53) :
    ¬n / 2 ^ places < 2 * leastMantissa := by
  have h0 : n ≠ 0 := by
    rintro rfl
    rw [Nat.log2_zero] at h
    omega
  have lower : 2 ^ 53 * 2 ^ places ≤ n := by
    rw [← Nat.pow_add, Nat.add_comm, ← h]
    exact Nat.log2_self_le h0
  have := (Nat.le_div_iff_mul_le (Nat.pow_pos (by omega))).2 lower
  simp only [leastMantissa]
  omega

/-- Small whole numbers have a nearest finite number, whichever mantissa it has. -/
theorem isFinite_ofRatio_of_lt {n : Nat} (negative : Bool) (h : n < 2 ^ 1023) :
    (ofRatio negative n 1).isFinite = true := by
  by_cases h0 : n = 0
  · subst h0
    rfl
  · have below : ∀ k, n < 2 ^ k → n.log2 < k := fun k hk => (Nat.log2_lt h0).2 hk
    have hlog := below 1023 h
    unfold ofRatio
    simp only [if_neg h0, guess_whole, maxExponent]
    -- The exponent is at most two above the first guess.
    split <;> split <;> split <;> first | rfl | omega

/-- Large whole numbers have none. -/
theorem ofRatio_of_le {n : Nat} (negative : Bool) (h : 2 ^ 1024 ≤ n) :
    ofRatio negative n 1 = .infinity negative := by
  have h0 : n ≠ 0 := by omega
  have hlog := (Nat.le_log2 h0).2 h
  obtain ⟨places, hp⟩ : ∃ places : Nat, n.log2 = places + 53 := ⟨n.log2 - 53, by omega⟩
  have guess : (n.log2 : Int) - 53 = (places : Int) := by omega
  unfold ofRatio
  simp only [if_neg h0, guess_whole, guess, divideScaled_whole, if_neg (filled_whole hp),
    maxExponent]
  split <;> rw [if_pos (by omega)]

/-- Between, it depends on whether the mantissa is rounded up to the next power of two. -/
theorem isFinite_ofRatio_iff {n : Nat} (negative : Bool) (lower : 2 ^ 1023 ≤ n)
    (upper : n < 2 ^ 1024) :
    (ofRatio negative n 1).isFinite = true ↔ n < 2 ^ 1024 - 2 ^ 970 := by
  have h0 : n ≠ 0 := by omega
  have hlog : n.log2 = 1023 := by
    have := (Nat.le_log2 h0).2 lower
    have := (Nat.log2_lt h0).2 upper
    omega
  have guess : (n.log2 : Int) - 53 = ((970 : Nat) : Int) := by rw [hlog]; rfl
  have next : ((970 : Nat) : Int) + 1 = ((971 : Nat) : Int) := rfl
  have filled : ¬n / 2 ^ 970 < 2 * leastMantissa := by
    simp only [leastMantissa]
    omega
  have rounded : nearestEven (n / 2 ^ 971) (n % 2 ^ 971) (2 ^ 971) = 2 * leastMantissa ↔
      ¬n < 2 ^ 1024 - 2 ^ 970 := by
    unfold nearestEven
    simp only [leastMantissa]
    split
    · omega
    · split <;> omega
  unfold ofRatio
  simp only [if_neg h0, guess_whole, guess, divideScaled_whole, if_neg filled, next, maxExponent]
  split
  · rename_i carried
    rw [if_pos (by omega)]
    constructor
    · intro finite
      cases finite
    · intro below
      exact absurd below (rounded.1 carried)
  · rename_i kept
    rw [if_neg (by omega)]
    exact ⟨fun _ => Classical.not_not.1 (mt rounded.2 kept), fun _ => rfl⟩

/-- The whole numbers with a nearest finite number. -/
theorem isFinite_ofRatio_whole_iff (n : Nat) (negative : Bool) :
    (ofRatio negative n 1).isFinite = true ↔ n < 2 ^ 1024 - 2 ^ 970 := by
  by_cases small : n < 2 ^ 1023
  · rw [isFinite_ofRatio_of_lt _ small, eq_self_iff_true, true_iff]
    omega
  · by_cases large : 2 ^ 1024 ≤ n
    · simp only [ofRatio_of_le _ large, isFinite, Bool.false_eq_true, false_iff]
      omega
    · exact isFinite_ofRatio_iff _ (by omega) (by omega)

/-- The whole numbers without a nearest finite number. -/
theorem ofInt?_eq_none_iff {n : Int} :
    ofInt? n = none ↔ 2 ^ 1024 - 2 ^ 970 ≤ n.natAbs := by
  have finite : ofInt? n = none ↔ ¬(ofRatio (n < 0) n.natAbs 1).isFinite = true := by
    unfold ofInt?
    split
    · rename_i h
      simp [h, isFinite]
    · rename_i h
      cases hr : ofRatio (n < 0) n.natAbs 1 with
      | finite negative mantissa exponent => exact absurd hr (h negative mantissa exponent)
      | nan => simp [isFinite]
      | infinity negative => simp [isFinite]
  rw [finite, isFinite_ofRatio_whole_iff]
  omega

end Docblock.Double
