import Docblock.Proofs.Number.Order
import Docblock.Proofs.Number.Range
import Docblock.Proofs.Number.Whole

/-!
# Whole numbers that are rounded

Not every whole number is a floating-point number: it has to be one of 53 binary digits times a
power of two (`Representable`). Any other goes to the nearest one that is, and from the middle of
two to the one with the even mantissa (`nearest_rounded`), unless it lies beyond all of them.

The nearest number is defined by distances alone, without the spacing that rounding works with, and
there is only one (`Nearest.unique`). So the theorem about equal numbers (`eqv_ofRatio_iff`) says
what rounding does and not how. That the mantissa of the middle is even is put as a condition on the
number itself: the distance of the two candidates goes into it an even number of times.

Fractions are not treated. They are rounded by the same function, but nothing that is proved of
types and filters depends on which floating-point number a fraction becomes.
-/

namespace Docblock.Double

/-! ## Rounding -/

/-- A whole number that is a floating-point number: 53 binary digits and then zeros. -/
def Representable (n : Int) : Prop :=
  n.natAbs < 2 ^ 1024 ∧ ∃ m k : Nat, m < 2 ^ 53 ∧ n.natAbs = m * 2 ^ k

/-- A floating-point number is nearer than all others, or as near as one other and even: the
distance of the two goes into it an even number of times. -/
def Nearest (n v : Int) : Prop :=
  Representable v ∧ ∀ w, Representable w → w ≠ v →
    (v - n).natAbs < (w - n).natAbs ∨ (v - n).natAbs = (w - n).natAbs ∧ 2 * (w - v) ∣ v

/-- The distance of floating-point numbers of the size of a whole number. -/
def spacing (n : Nat) : Nat := 2 ^ (n.log2 - 52)

/-- The multiple of the spacing that a whole number is rounded to. -/
def rounded (n : Nat) : Nat := nearestEven (n / spacing n) (n % spacing n) (spacing n) * spacing n

theorem spacing_pos (n : Nat) : 0 < spacing n := Nat.two_pow_pos _

theorem Representable.neg {n : Int} (h : Representable n) : Representable (-n) := by
  rwa [Representable, Int.natAbs_neg]

theorem Nearest.neg {n v : Int} (h : Nearest n v) : Nearest (-n) (-v) := by
  refine ⟨h.1.neg, fun w hw ne => ?_⟩
  have swap : (-w - n).natAbs = (w - -n).natAbs := by omega
  have own : (-v - -n).natAbs = (v - n).natAbs := by omega
  have even : 2 * (w - -v) ∣ -v ↔ 2 * (-w - v) ∣ v := by
    rw [show 2 * (w - -v) = -(2 * (-w - v)) by ring, neg_dvd, dvd_neg]
  rw [own, even, ← swap]
  exact h.2 (-w) hw.neg (by omega)

/-- There is one nearest number. -/
theorem Nearest.unique {n v w : Int} (hv : Nearest n v) (hw : Nearest n w) : v = w := by
  by_contra ne
  have one := hv.2 w hw.1 (Ne.symm ne)
  have other := hw.2 v hv.1 ne
  have evenV : 2 * (w - v) ∣ v := by omega
  have evenW : 2 * (w - v) ∣ w := by
    have : 2 * (v - w) ∣ w := by omega
    rwa [show 2 * (v - w) = -(2 * (w - v)) by ring, neg_dvd] at this
  obtain ⟨c, hc⟩ := dvd_sub evenW evenV
  have cancelled : (w - v) * 1 = (w - v) * (2 * c) := by linarith
  have := mul_left_cancel₀ (sub_ne_zero.2 (Ne.symm ne)) cancelled
  omega

/-- A number that is a floating-point number is nearest to itself. -/
theorem Representable.nearest {n : Int} (h : Representable n) : Nearest n n :=
  ⟨h, fun w _ ne => .inl (by omega)⟩

section

variable {n w : Nat}

/-- The count of spacings in a number has 53 binary digits. -/
theorem div_spacing_lt (n : Nat) : n / spacing n < 2 ^ 53 := by
  refine (Nat.div_lt_iff_lt_mul (spacing_pos n)).2 (Nat.lt_log2_self.trans_le ?_)
  rw [spacing, ← Nat.pow_add]
  exact Nat.pow_le_pow_right (by omega) (by omega)

theorem le_div_spacing (h : 2 ^ 52 ≤ n) : 2 ^ 52 ≤ n / spacing n := by
  have places : 52 ≤ n.log2 := (Nat.le_log2 (by omega)).2 h
  refine (Nat.le_div_iff_mul_le (spacing_pos n)).2 ?_
  rw [spacing, ← Nat.pow_add, Nat.add_sub_cancel' places]
  exact Nat.log2_self_le (by omega)

theorem places_le {k : Nat} (h : n < 2 ^ (53 + k)) : n.log2 - 52 ≤ k := by
  by_cases h0 : n = 0
  · simp [h0]
  · have := (Nat.log2_lt h0).2 h
    omega

theorem spacing_of_lt (h : n < 2 ^ 53) : spacing n = 1 := by
  rw [spacing, Nat.le_zero.1 (places_le h), Nat.pow_zero]

/-- Between two multiples of the spacing there is no floating-point number. -/
theorem le_or_le_of_digits {m k : Nat} (digits : m < 2 ^ 53) (n : Nat) :
    m * 2 ^ k ≤ n / spacing n * spacing n ∨ (n / spacing n + 1) * spacing n ≤ m * 2 ^ k := by
  by_cases small : n < 2 ^ 53
  · rw [spacing_of_lt small, Nat.div_one]
    omega
  by_cases below : m * 2 ^ k ≤ n / spacing n * spacing n
  · exact .inl below
  -- A number of this size has as many zeros as the spacing, so the spacing divides it.
  have zeros : n.log2 - 52 ≤ k := by
    by_contra few
    have : m * 2 ^ k < n / spacing n * spacing n := calc
      m * 2 ^ k < 2 ^ 53 * 2 ^ k := Nat.mul_lt_mul_of_pos_right digits (Nat.two_pow_pos k)
      _ = 2 ^ 52 * 2 ^ (k + 1) := by ring
      _ ≤ 2 ^ 52 * spacing n := Nat.mul_le_mul_left _ (Nat.pow_le_pow_right (by omega) (by omega))
      _ ≤ n / spacing n * spacing n := Nat.mul_le_mul_right _ (le_div_spacing (by omega))
    exact below this.le
  have split : m * 2 ^ k = m * 2 ^ (k - (n.log2 - 52)) * spacing n := by
    rw [spacing, Nat.mul_assoc, ← Nat.pow_add, Nat.sub_add_cancel zeros]
  rw [split] at below ⊢
  exact .inr (Nat.mul_le_mul_right _ (Nat.lt_of_mul_lt_mul_right (Nat.lt_of_not_le below)))

theorem nearestEven_le (quotient remainder divisor : Nat) :
    nearestEven quotient remainder divisor ≤ quotient + 1 := by
  unfold nearestEven
  split
  · exact le_rfl
  · split <;> omega

theorem spacing_le {k : Nat} (h : n < 2 ^ (53 + k)) : spacing n ≤ 2 ^ k :=
  Nat.pow_le_pow_right Nat.two_pos (places_le h)

/-- What is not rounded up to the next power of two is below it. -/
theorem rounded_lt (h : n < 2 ^ 1024 - 2 ^ 970) : rounded n < 2 ^ 1024 := by
  have quotient := div_spacing_lt n
  have digits := nearestEven_le (n / spacing n) (n % spacing n) (spacing n)
  by_cases small : n < 2 ^ 1023
  · have gap : spacing n ≤ 2 ^ 970 := spacing_le (by omega)
    calc rounded n ≤ 2 ^ 53 * 2 ^ 970 := Nat.mul_le_mul (by omega) gap
      _ < 2 ^ 1024 := by omega
  · have gap : spacing n = 2 ^ 971 := by
      have upper := (Nat.log2_lt (n := n) (k := 1024) (by omega)).2 (by omega)
      have lower := (Nat.le_log2 (n := n) (k := 1023) (by omega)).2 (by omega)
      rw [spacing]
      congr 1
      omega
    rw [rounded, gap, nearestEven]
    split
    · omega
    · split <;> omega

/-- A whole number is rounded to a floating-point number when it does not lie beyond all of them. -/
theorem representable_rounded (h : n < 2 ^ 1024 - 2 ^ 970) : Representable (rounded n) := by
  have quotient := div_spacing_lt n
  have digits := nearestEven_le (n / spacing n) (n % spacing n) (spacing n)
  refine ⟨rounded_lt h, ?_⟩
  rw [Int.natAbs_natCast]
  by_cases full : nearestEven (n / spacing n) (n % spacing n) (spacing n) = 2 ^ 53
  · -- Rounding up has filled the last digit: one digit fewer and one zero more.
    refine ⟨2 ^ 52, n.log2 - 52 + 1, by omega, ?_⟩
    rw [rounded, full, spacing]
    ring
  · exact ⟨_, n.log2 - 52, by omega, rfl⟩

/-- No floating-point number is as near, but for one where a number lies in the middle. -/
theorem near_of_ne (between : w ≤ n / spacing n * spacing n ∨ (n / spacing n + 1) * spacing n ≤ w)
    (ne : w ≠ rounded n) : ((rounded n : Int) - n).natAbs < ((w : Int) - n).natAbs ∨
      ((rounded n : Int) - n).natAbs = ((w : Int) - n).natAbs ∧
        2 * ((w : Int) - rounded n) ∣ rounded n := by
  have whole : n / spacing n * spacing n + n % spacing n = n := Nat.div_add_mod' n (spacing n)
  have left : n % spacing n < spacing n := Nat.mod_lt n (spacing_pos n)
  rw [Nat.succ_mul] at between
  rw [rounded, nearestEven] at ne ⊢
  generalize hq : n / spacing n = q at *
  generalize hs : spacing n = s at *
  generalize hr : n % s = r at *
  split
  · rename_i more
    rw [if_pos more, Nat.succ_mul] at ne
    rw [Nat.succ_mul]
    omega
  · rename_i less
    rw [if_neg less] at ne
    split
    · rename_i half
      rw [if_pos half] at ne
      rcases Nat.mod_two_eq_zero_or_one q with even | odd
      · -- In the middle, and the multiple below is even.
        rw [even, Nat.add_zero] at ne ⊢
        obtain ⟨c, rfl⟩ := Nat.dvd_of_mod_eq_zero even
        by_cases other : w = 2 * c * s + s
        · refine .inr ⟨by omega, c, ?_⟩
          rw [other]
          push_cast
          ring
        · omega
      · -- In the middle, and the multiple above is even.
        rw [odd, Nat.succ_mul] at ne ⊢
        by_cases other : w = q * s
        · obtain ⟨c, even⟩ : 2 ∣ q + 1 := by omega
          have even : (q : Int) + 1 = 2 * c := by omega
          refine .inr ⟨by omega, -c, ?_⟩
          rw [other]
          push_cast
          linear_combination (s : Int) * even
        · omega
    · rename_i other
      rw [if_neg other] at ne
      omega

theorem nearest_rounded_natCast (h : n < 2 ^ 1024 - 2 ^ 970) : Nearest n (rounded n) := by
  refine ⟨representable_rounded h, fun w hw ne => ?_⟩
  obtain ⟨-, m, k, digits, size⟩ := hw
  rcases le_or_gt 0 w with positive | negative
  · obtain ⟨w, rfl⟩ := Int.eq_ofNat_of_zero_le positive
    rw [Int.natAbs_natCast] at size
    exact near_of_ne (size ▸ le_or_le_of_digits digits n) (by omega)
  · -- Zero is nearer than any number with the other sign.
    have origin : rounded n = 0 ∨ ((rounded n : Int) - n).natAbs ≤ n := by
      by_cases h0 : rounded n = 0
      · exact .inl h0
      · have := near_of_ne (n := n) (.inl (Nat.zero_le _)) (Ne.symm h0)
        omega
    omega

end

/-- A whole number with the sign of another. -/
def signed (n : Int) (m : Nat) : Int := if n < 0 then -(m : Int) else m

/-- A whole number is rounded to the nearest floating-point number. -/
theorem nearest_rounded {n : Int} (h : n.natAbs < 2 ^ 1024 - 2 ^ 970) :
    Nearest n (signed n (rounded n.natAbs)) := by
  have positive := nearest_rounded_natCast h
  unfold signed
  split
  · have same : -(n.natAbs : Int) = n := by omega
    have negative := positive.neg
    rwa [same] at negative
  · have same : (n.natAbs : Int) = n := by omega
    rwa [same] at positive

example : rounded 9007199254740993 = 9007199254740992 := by decide

/-! ## The floating-point number of a whole number -/

/-- A large whole number with a nearest finite number has the rounded value. -/
theorem exists_ofRatio_of_ge {n : Nat} {negative : Bool} (h : 2 ^ 53 ≤ n)
    (finite : (ofRatio negative n 1).isFinite = true) :
    ∃ m k : Nat, ofRatio negative n 1 = .finite negative m k ∧ m * 2 ^ k = rounded n := by
  have h0 : n ≠ 0 := by omega
  obtain ⟨places, hp⟩ : ∃ places : Nat, n.log2 = places + 53 :=
    ⟨n.log2 - 53, by have := (Nat.le_log2 h0).2 h; omega⟩
  have guess : (n.log2 : Int) - 53 = (places : Int) := by omega
  have next : (places : Int) + 1 = ((places + 1 : Nat) : Int) := rfl
  have gap : spacing n = 2 ^ (places + 1) := by
    rw [spacing]
    congr 1
    omega
  unfold ofRatio at finite ⊢
  simp only [if_neg h0, guess_whole, guess, divideScaled_whole, if_neg (filled_whole hp), next]
    at finite ⊢
  rw [rounded, gap]
  generalize nearestEven (n / 2 ^ (places + 1)) (n % 2 ^ (places + 1)) (2 ^ (places + 1)) = m
    at finite ⊢
  by_cases full : m = 2 * leastMantissa
  · simp only [if_pos full] at finite ⊢
    split at finite
    · cases finite
    · rename_i inside
      refine ⟨leastMantissa, places + 1 + 1, if_neg inside, ?_⟩
      rw [full, Nat.pow_succ _ (places + 1)]
      ring
  · simp only [if_neg full] at finite ⊢
    split at finite
    · cases finite
    · rename_i inside
      exact ⟨m, places + 1, if_neg inside, rfl⟩

/-- A whole number of up to 53 binary digits is not rounded. -/
theorem exists_ofRatio_of_lt {n : Nat} (negative : Bool) (h : n < 2 ^ 53) :
    ∃ (m : Nat) (e : Int), ofRatio negative n 1 = .finite negative m e ∧
      (m : ℚ) * 2 ^ e = rounded n := by
  have own : rounded n = n := by
    rw [rounded, spacing_of_lt h]
    simp [nearestEven, Nat.mod_one]
  rw [own]
  by_cases h0 : n = 0
  · subst h0
    exact ⟨0, minExponent, rfl, by simp⟩
  · have digits : n.log2 < 53 := (Nat.log2_lt h0).2 h
    refine ⟨_, _, ofRatio_one negative h0 h, ?_⟩
    have places : (n.log2 : Int) - 52 = -((52 - n.log2 : Nat) : Int) := by omega
    rw [places, zpow_neg, zpow_natCast]
    push_cast
    exact mul_inv_cancel_right₀ (by positivity) _

/-- A whole number with a nearest finite number has the rounded value. -/
theorem value?_ofRatio {n : Nat} (negative : Bool) (h : n < 2 ^ 1024 - 2 ^ 970) :
    (Number.double (ofRatio negative n 1)).value? =
      some (.finite ((if negative then -(rounded n : Int) else rounded n : Int) : ℚ)) := by
  obtain ⟨m, e, split, value⟩ : ∃ (m : Nat) (e : Int),
      ofRatio negative n 1 = .finite negative m e ∧ (m : ℚ) * 2 ^ e = rounded n := by
    by_cases small : n < 2 ^ 53
    · exact exists_ofRatio_of_lt negative small
    · obtain ⟨m, k, split, value⟩ :=
        exists_ofRatio_of_ge (by omega) ((isFinite_ofRatio_whole_iff n negative).2 h)
      exact ⟨m, k, split, by rw [← value]; push_cast; rw [zpow_natCast]⟩
  rw [split, Number.value?, Number.ratio]
  cases negative
  · simp [value]
  · simp [value]

/-- A whole number equals the floating-point number of another when it is nearest to that. Beyond
all finite numbers there is none. -/
theorem eqv_ofRatio_iff (n v : Int) :
    Number.eqv (.int v) (.double (ofRatio (n < 0) n.natAbs 1)) = true ↔
      n.natAbs < 2 ^ 1024 - 2 ^ 970 ∧ Nearest n v := by
  rw [Number.eqv_iff]
  by_cases inside : n.natAbs < 2 ^ 1024 - 2 ^ 970
  · have nearest := nearest_rounded inside
    have near : Nearest n v ↔ v = signed n (rounded n.natAbs) :=
      ⟨fun near => near.unique nearest, fun same => same ▸ nearest⟩
    rw [value?_ofRatio _ inside, near, and_iff_right inside, signed]
    simp only [Number.value?, Option.mem_def, Option.some.injEq, exists_eq_left',
      Line.finite_strictMono.injective.eq_iff, Int.cast_inj, decide_eq_true_eq]
    exact eq_comm
  · have beyond := mt (isFinite_ofRatio_whole_iff n.natAbs (n < 0)).1 inside
    refine iff_of_false ?_ fun h => inside h.1
    cases result : ofRatio (n < 0) n.natAbs 1 with
    | nan => simp [Number.value?]
    | infinity negative => simp [Number.value?, Line.infinity_ne_finite]
    | finite negative mantissa exponent =>
      rw [result] at beyond
      exact absurd rfl beyond

/-- A floating-point number does not lie beyond all of them. -/
theorem Representable.inside {n : Int} (h : Representable n) : n.natAbs < 2 ^ 1024 - 2 ^ 970 := by
  obtain ⟨upper, m, k, digits, size⟩ := h
  by_cases zeros : 971 ≤ k
  · have split : n.natAbs = m * 2 ^ (k - 971) * 2 ^ 971 := by
      rw [size, Nat.mul_assoc, ← Nat.pow_add, Nat.sub_add_cancel zeros]
    omega
  · have zeros : k ≤ 970 := by omega
    have := Nat.mul_le_mul_left m (Nat.pow_le_pow_right Nat.two_pos zeros)
    omega

end Docblock.Double
