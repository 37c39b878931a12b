import Docblock.Number.Literal
import Docblock.Proofs.Number.Range
import Mathlib

/-!
# Whole numbers in binary

A whole number below 2^53 has an exact binary form (`Double.exact`), with its mantissa filled up to
53 bits. The decimal digits of any whole number are read as the nearest binary number
(`toDouble_whole`), which is this form for one below 2^53 (`ofRatio_natAbs`).

Digits alone make an integer where a number is read, and a floating-point number where a literal
type is. This file is about the second. The digits need not be few: a very long number is rounded,
or is beyond all finite numbers, and is read as infinite then. What a printed integer is read as is
needed for printed types and for printed filters alike, so the text of it is defined here
(`wholeText`).
-/

namespace Docblock

namespace Double

/-- The binary form of a whole number below 2^53, with a mantissa of 53 bits. -/
def exact (n : Int) : Double :=
  if n = 0 then zero
  else .finite (n < 0) (n.natAbs * 2 ^ (52 - n.natAbs.log2)) ((n.natAbs.log2 : Int) - 52)

/-- A whole number times a power of two. -/
theorem divideScaled_one (n places : Nat) :
    divideScaled n 1 (-(places : Int)) = (n * 2 ^ places, 0, 1) := by
  have down : (-(places : Int)).toNat = 0 := by omega
  simp [divideScaled, down, Nat.mod_one]

/-- A whole number is its own nearest number. -/
theorem ofRatio_one (negative : Bool) {n : Nat} (h0 : n ≠ 0) (h : n < 2 ^ 53) :
    ofRatio negative n 1 = .finite negative (n * 2 ^ (52 - n.log2)) ((n.log2 : Int) - 52) := by
  have hlog : n.log2 < 53 := (Nat.log2_lt h0).2 h
  have lower : 2 ^ 53 ≤ n * 2 ^ (53 - n.log2) := calc
    2 ^ 53 = 2 ^ n.log2 * 2 ^ (53 - n.log2) := by rw [← Nat.pow_add]; congr 1; omega
    _ ≤ n * 2 ^ (53 - n.log2) := Nat.mul_le_mul_right _ (Nat.log2_self_le h0)
  have upper : n * 2 ^ (52 - n.log2) < 2 ^ 53 := calc
    n * 2 ^ (52 - n.log2) < 2 ^ (n.log2 + 1) * 2 ^ (52 - n.log2) :=
      Nat.mul_lt_mul_of_pos_right Nat.lt_log2_self (Nat.pow_pos (by omega))
    _ = 2 ^ 53 := by rw [← Nat.pow_add]; congr 1; omega
  have guess : max minExponent ((n.log2 : Int) - ((1 : Nat).log2 : Int) - 53) =
      -((53 - n.log2 : Nat) : Int) := by
    rw [show (1 : Nat).log2 = 0 by decide, minExponent]
    omega
  have next : -((53 - n.log2 : Nat) : Int) + 1 = -((52 - n.log2 : Nat) : Int) := by omega
  have filled : ¬n * 2 ^ (53 - n.log2) < 2 * leastMantissa := by
    simp only [leastMantissa]
    omega
  have short : n * 2 ^ (52 - n.log2) ≠ 2 * leastMantissa := by
    simp only [leastMantissa]
    omega
  have nearest : ∀ quotient, nearestEven quotient 0 1 = quotient := by
    intro quotient
    simp [nearestEven]
  unfold ofRatio
  simp only [if_neg h0, guess, divideScaled_one, if_neg filled, next, nearest, if_neg short]
  rw [if_neg (by simp only [maxExponent]; omega)]
  congr 1
  omega

theorem two_pow_le_ten_pow {m k : Nat} (h : m ≤ 3 * k) : 2 ^ m ≤ 10 ^ k := calc
  2 ^ m ≤ 2 ^ (3 * k) := Nat.pow_le_pow_right (by omega) h
  _ = 8 ^ k := Nat.pow_mul 2 3 k
  _ ≤ 10 ^ k := Nat.pow_le_pow_left (by omega) k

/-- Decimal digits alone are rounded like any whole number, however many there are. -/
theorem ofDecimal_whole (negative : Bool) (n : Nat) :
    ofDecimal negative n 0 = ofRatio negative n 1 := by
  unfold ofDecimal
  by_cases h0 : n = 0
  · subst h0
    rfl
  · have inside : ¬((Nat.toDigits 10 n).length : Int) + 0 < -400 := by omega
    simp only [h0, inside, decide_false, Bool.or_self, Bool.false_eq_true, if_false]
    split
    · rename_i long
      obtain ⟨k, length⟩ : ∃ k, (Nat.toDigits 10 n).length = k + 1 :=
        ⟨(Nat.toDigits 10 n).length - 1, by omega⟩
      have large : 10 ^ k ≤ n := by
        by_contra small
        have := (Nat.length_toDigits_le_iff (b := 10) (n := n) (k := k) (by omega) (by omega)).2
          (Nat.lt_of_not_le small)
        omega
      have beyond : 2 ^ 1024 ≤ n := (two_pow_le_ten_pow (by omega)).trans large
      rw [ofRatio_of_le negative beyond]
    · simp only [Int.toNat_zero, Int.neg_zero, Nat.pow_eq, Nat.pow_zero, Nat.mul_one]

/-- A whole number of up to 53 binary digits is a floating-point number. -/
theorem ofRatio_natAbs {n : Int} (h : n.natAbs < 2 ^ 53) :
    ofRatio (n < 0) n.natAbs 1 = exact n := by
  rw [exact]
  split
  · rename_i h0
    subst h0
    rfl
  · rename_i h0
    exact ofRatio_one _ (by omega) h

end Double

namespace NumberLiteral

open Text

/-- The value of an ASCII digit. -/
theorem digitValue?_of_isDigit {c : Char} (h : c.isDigit = true) :
    digitValue? c = some (c.toNat - 48) := by
  have range : 48 ≤ c.toNat ∧ c.toNat < 58 := by
    simp only [Char.isDigit, Bool.and_eq_true, decide_eq_true_eq, ge_iff_le] at h
    constructor
    · exact h.1
    · have := h.2
      exact Nat.lt_succ_of_le this
  simp [digitValue?, zeros, range]

theorem valueOf_toDigits (n : Nat) : valueOf (Nat.toDigits 10 n) = n := by
  have fold : ∀ (digits : List Char) (start : Nat), (∀ c ∈ digits, c.isDigit = true) →
      digits.foldl (fun n c => 10 * n + (digitValue? c).getD 0) start =
        Nat.ofDigitChars 10 digits start := by
    intro digits
    induction digits with
    | nil => exact fun _ _ => rfl
    | cons c rest ih =>
      intro start h
      rw [List.foldl_cons, digitValue?_of_isDigit (h c (by simp)), Nat.ofDigitChars_cons]
      exact ih _ fun d hd => h d (by simp [hd])
  rw [valueOf, fold _ _ fun c hc => Nat.isDigit_of_mem_toDigits (by decide) (by decide) hc]
  exact Nat.ofDigitChars_ten_toDigits

theorem isDigit_of_mem_toDigits {n : Nat} {c : Char} (hc : c ∈ Nat.toDigits 10 n) :
    isDigit c = true := by
  rw [isDigit, digitValue?_of_isDigit (Nat.isDigit_of_mem_toDigits (by decide) (by decide) hc)]
  rfl

/-- A whole number has a first decimal digit. -/
theorem exists_toDigits (n : Nat) :
    ∃ d ds, Nat.toDigits 10 n = d :: ds ∧ d.isDigit = true := by
  obtain ⟨d, ds, digits⟩ :=
    List.exists_cons_of_length_pos (Nat.length_toDigits_pos (b := 10) (n := n))
  have mem : d ∈ Nat.toDigits 10 n := by simp [digits]
  exact ⟨d, ds, digits, Nat.isDigit_of_mem_toDigits (by decide) (by decide) mem⟩

/-- The decimal digits of a whole number are one literal. -/
theorem readUnsigned_toDigits (negative : Bool) (n : Nat) :
    readUnsigned negative (Nat.toDigits 10 n) =
      some (.decimal negative (Nat.toDigits 10 n) none none, []) := by
  have all : ∀ c ∈ Nat.toDigits 10 n, isDigit c = true := fun _ => isDigit_of_mem_toDigits
  have span : spanDigits (Nat.toDigits 10 n) = (Nat.toDigits 10 n, []) := by
    rw [spanDigits, List.span_eq_takeWhile_dropWhile, List.takeWhile_eq_self_iff.2 all,
      List.dropWhile_eq_nil_iff.2 all]
  obtain ⟨d, ds, digits, -⟩ := exists_toDigits n
  rw [digits] at span ⊢
  rw [readUnsigned, span]
  rfl

/-- The literal of a whole number: its decimal digits, after a minus when it is negative. -/
def wholeText (n : Int) : List Char :=
  if n < 0 then '-' :: Nat.toDigits 10 n.natAbs else Nat.toDigits 10 n.natAbs

/-- Digits begin with no sign. -/
theorem read?_toDigits_append (n : Nat) (rest : List Char) :
    read? (Nat.toDigits 10 n ++ rest) = readUnsigned false (Nat.toDigits 10 n ++ rest) := by
  obtain ⟨d, ds, digits, digit⟩ := exists_toDigits n
  rw [digits, List.cons_append]
  unfold read?
  split
  · rename_i heq
    cases heq
    cases digit
  · rfl

theorem read?_toDigits (n : Nat) :
    read? (Nat.toDigits 10 n) = readUnsigned false (Nat.toDigits 10 n) := by
  have alone := read?_toDigits_append n []
  rwa [List.append_nil] at alone

theorem ofText?_wholeText (n : Int) :
    ofText? (wholeText n) = some (.decimal (n < 0) (Nat.toDigits 10 n.natAbs) none none) := by
  unfold wholeText ofText?
  by_cases hneg : n < 0
  · rw [if_pos hneg, show read? ('-' :: Nat.toDigits 10 n.natAbs) =
      readUnsigned true (Nat.toDigits 10 n.natAbs) from rfl, readUnsigned_toDigits]
    simp [hneg]
  · rw [if_neg hneg, read?_toDigits, readUnsigned_toDigits]
    simp [hneg]

/-- The decimal digits of a whole number are read as the nearest floating-point number. -/
theorem toDouble_whole (n : Int) :
    toDouble (.decimal (n < 0) (Nat.toDigits 10 n.natAbs) none none) =
      .ofRatio (n < 0) n.natAbs 1 := by
  rw [toDouble]
  simp only [Option.getD_none, List.append_nil, List.length_nil, valueOf_toDigits]
  exact Double.ofDecimal_whole _ _

end NumberLiteral

end Docblock
