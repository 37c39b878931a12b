import Docblock.Proofs.Text.Scan
import Docblock.Text.Case
import Docblock.Text.Digit
import Mathlib

/-!
# Plain characters

A plain character means nothing to any scanner: it is no blank, bracket, quote, slash or separator.
The characters of words are plain, in every script (`Plain.of_isWord`). A name is therefore a run
that every scan passes over, it is balanced, and trimming leaves it as it is (`Plain.run`,
`Plain.balanced`, `Plain.tight`).

That no character of a word is a blank or a mark is a fact about the tables of letters and digits,
and these have hundreds of ranges. It is not decided character by character: two lists of ranges
that are in order are compared in one pass (`apart`), and what the pass finds holds of all code
points (`lt_or_lt_of_apart`). Nothing else is proved of the tables. They are the data of the Unicode
standard, and no definition here says what a letter should be.

The converse does not hold. An equals sign and a star are plain as well, and neither stands in a
name.
-/

namespace Docblock.Text

/-- What is said of the characters of a text is decided by going through the text, and not through
all characters. -/
instance decidableForallMem (cs : List Char) (p : Char → Prop) [DecidablePred p] :
    Decidable (∀ c ∈ cs, p c) := List.decidableBAll p cs

/-- The characters that mean something to a scanner, apart from blanks. -/
def marks : List Char :=
  ['(', ')', '[', ']', '<', '>', '{', '}', '\'', '"', '\x60', '/', '|', '&', ',', ':']

/-- A character that means nothing to any scanner. -/
structure Plain (c : Char) : Prop where
  mark : c ∉ marks
  blank : isBlank c = false

instance (c : Char) : Decidable (Plain c) :=
  decidable_of_iff (c ∉ marks ∧ isBlank c = false) ⟨fun h => ⟨h.1, h.2⟩, fun h => ⟨h.mark, h.blank⟩⟩

namespace Plain

variable {c : Char}

theorem bracket (h : Plain c) : isBracket c = false := by
  have := h.mark
  simp only [marks, List.mem_cons, List.not_mem_nil, or_false, not_or] at this
  simp [isBracket, this]

theorem quote (h : Plain c) : isQuote c = false := by
  have := h.mark
  simp only [marks, List.mem_cons, List.not_mem_nil, or_false, not_or] at this
  simp [isQuote, this]

theorem ne (h : Plain c) {mark : Char} (hm : mark ∈ marks) : c ≠ mark := by
  rintro rfl
  exact h.mark hm

theorem run {stops w : List Char} (hs : ∀ c ∈ stops, c ∈ marks) (h : ∀ c ∈ w, Plain c) :
    Run stops w := by
  induction w with
  | nil => exact .nil
  | cons c rest ih =>
    have hc := h c (by simp)
    exact .single (fun hm => hc.mark (hs c hm)) (hc.ne (by decide)) hc.bracket hc.quote
      (ih fun d hd => h d (by simp [hd]))

theorem balanced {w : List Char} (h : ∀ c ∈ w, Plain c) : Balanced w :=
  .of_all fun c hc => (h c hc).bracket

theorem tight {w : List Char} (h : ∀ c ∈ w, Plain c) : Tight w where
  starts c hc := (h c (List.mem_of_head? hc)).blank
  ends c hc := (h c (List.mem_of_getLast? hc)).blank

end Plain

/-! ## Ranges that do not meet

The two lists are walked together as in a merge, so the check is linear in their lengths. With one
test for every pair of ranges the kernel would be asked for tens of thousands of comparisons. -/

/-- Ranges in the order in which they begin. -/
def Ordered (ranges : List (Nat × Nat)) : Prop := ranges.IsChain fun r s => r.1 ≤ s.1

instance (ranges : List (Nat × Nat)) : Decidable (Ordered ranges) :=
  inferInstanceAs (Decidable (ranges.IsChain _))

theorem Ordered.le {range : Nat × Nat} {ranges : List (Nat × Nat)} (h : Ordered (range :: ranges)) :
    ∀ other ∈ ranges, range.1 ≤ other.1 := by
  induction ranges generalizing range with
  | nil => simp
  | cons next ranges ih =>
    have step := List.isChain_cons_cons.1 h
    intro other ho
    rcases List.mem_cons.1 ho with rfl | ho
    · exact step.1
    · exact Nat.le_trans step.1 (ih step.2 other ho)

/-- Whether no range of a list meets one of another list, both in order. Each list is gone through
once. -/
def apart : List (Nat × Nat) → List (Nat × Nat) → Bool
  | _, [] => true
  | first, range :: ranges =>
    let later := first.dropWhile fun other => Nat.blt other.2 range.1
    (later.head?.all fun other => Nat.blt range.2 other.1) && apart later ranges

theorem lt_or_lt_of_apart {first second : List (Nat × Nat)} (h : apart first second = true)
    (hf : Ordered first) (hs : Ordered second) :
    ∀ r ∈ first, ∀ s ∈ second, r.2 < s.1 ∨ s.2 < r.1 := by
  induction second generalizing first with
  | nil => simp
  | cons range ranges ih =>
    rw [apart, Bool.and_eq_true] at h
    intro r hr s hm
    -- Ranges that end before this one begins are left behind: those that follow begin later still.
    rw [← List.takeWhile_append_dropWhile (p := fun other => Nat.blt other.2 range.1) (l := first)]
      at hr
    rcases List.mem_append.1 hr with before | later
    · have found := List.mem_takeWhile_imp before
      have ends : r.2 < range.1 := Nat.le_of_ble_eq_true found
      rcases List.mem_cons.1 hm with rfl | hm
      · exact .inl ends
      · exact .inl (Nat.lt_of_lt_of_le ends (hs.le s hm))
    · have rest : Ordered (first.dropWhile fun other => Nat.blt other.2 range.1) :=
        List.IsChain.suffix hf (List.dropWhile_suffix _)
      rcases List.mem_cons.1 hm with rfl | hm
      · -- Of the others only the first is compared, since it begins before the rest of them.
        obtain ⟨head, tail, split⟩ := List.exists_cons_of_ne_nil (List.ne_nil_of_mem later)
        rw [split] at h later rest
        have begins : s.2 < head.1 := Nat.le_of_ble_eq_true h.1
        rcases List.mem_cons.1 later with rfl | later
        · exact .inr begins
        · exact .inr (Nat.lt_of_lt_of_le begins (rest.le r later))
      · exact ih h.2 rest hs.tail r later s hm

theorem ordered_letterRanges : Ordered letterRanges := by decide +kernel

theorem ordered_numeralRanges : Ordered numeralRanges := by decide +kernel

/-! ## Blanks, digits and words

The blanks are few, so they are listed as ranges of one code point each and compared with the tables
of letters and numerals like any others. ASCII has its own tests in front of the tables, and is
decided apart. -/

/-- The code points of the blanks. -/
def blankCodes : List Nat :=
  [9, 10, 11, 12, 13, 28, 29, 30, 31, 32, 0x85, 0xa0, 0x1680, 0x2000, 0x2001, 0x2002, 0x2003,
    0x2004, 0x2005, 0x2006, 0x2007, 0x2008, 0x2009, 0x200a, 0x2028, 0x2029, 0x202f, 0x205f, 0x3000]

theorem mem_blankCodes {c : Char} (h : isBlank c = true) : c.toNat ∈ blankCodes := by
  simp only [isBlank, Bool.or_eq_true, Bool.and_eq_true, decide_eq_true_eq, beq_iff_eq] at h
  simp only [blankCodes, List.mem_cons, List.not_mem_nil, or_false]
  omega

/-- No blank is in ranges that are apart from the blanks. -/
theorem inRanges_eq_false_of_isBlank {c : Char} {ranges : List (Nat × Nat)} (h : isBlank c = true)
    (ordered : Ordered ranges) (free : apart (blankCodes.map fun code => (code, code)) ranges) :
    inRanges ranges c.toNat = false := by
  have blanks : Ordered (blankCodes.map fun code => (code, code)) := by decide
  refine Bool.eq_false_iff.2 fun inside => ?_
  obtain ⟨range, hr, low, high⟩ := inRanges_iff.1 inside
  have code : (c.toNat, c.toNat) ∈ blankCodes.map fun code => (code, code) :=
    List.mem_map.2 ⟨_, mem_blankCodes h, rfl⟩
  have := lt_or_lt_of_apart free blanks ordered _ code range hr
  omega

theorem isWord_eq_false_of_isBlank {c : Char} (h : isBlank c = true) : isWord c = false := by
  have codes : ∀ code ∈ blankCodes, (Char.ofNat code).isAlpha = false ∧
      (Char.ofNat code).isDigit = false ∧ (Char.ofNat code == '_') = false := by decide
  have ascii := codes _ (mem_blankCodes h)
  rw [Char.ofNat_toNat] at ascii
  have letters := inRanges_eq_false_of_isBlank h ordered_letterRanges (by decide +kernel)
  have numerals := inRanges_eq_false_of_isBlank h ordered_numeralRanges (by decide +kernel)
  simp [isWord, isLetter, isNumeral, ascii, letters, numerals]

/-- No letter is a digit. -/
theorem isDigit_eq_false_of_isLetter {c : Char} (h : isLetter c = true) : isDigit c = false := by
  have free : apart (zeros.map fun start => (start, start + 9)) letterRanges = true := by
    decide +kernel
  have ordered : Ordered (zeros.map fun start => (start, start + 9)) := by decide +kernel
  have ascii : ∀ start ∈ zeros, start = 48 ∨ 128 ≤ start := by decide
  cases hd : isDigit c with
  | false => rfl
  | true =>
    simp only [isDigit, digitValue?, Option.isSome_map, List.find?_isSome, Bool.and_eq_true,
      decide_eq_true_eq] at hd
    obtain ⟨start, hs, hlow, hhigh⟩ := hd
    unfold isLetter at h
    split at h
    · -- The only digits of ASCII come before its letters.
      rename_i hascii
      have hstart : start = 48 := (ascii start hs).resolve_right (by omega)
      simp only [Char.isAlpha, Char.isUpper, Char.isLower, Bool.or_eq_true, Bool.and_eq_true,
        decide_eq_true_eq, ge_iff_le] at h
      have big : 65 ≤ c.toNat := by
        rcases h with h | h
        · exact h.1
        · exact Nat.le_trans (by decide : 65 ≤ 97) h.1
      omega
    · obtain ⟨range, hr, hrlow, hrhigh⟩ := inRanges_iff.1 h
      have digits : (start, start + 9) ∈ zeros.map fun start => (start, start + 9) :=
        List.mem_map.2 ⟨start, hs, rfl⟩
      have := lt_or_lt_of_apart free ordered ordered_letterRanges _ digits range hr
      omega

/-- The characters of words are plain. -/
theorem Plain.of_isWord {c : Char} (h : isWord c = true) : Plain c where
  mark hm := by
    have marked : ∀ mark ∈ marks, isWord mark = false := by decide
    rw [marked c hm] at h
    cases h
  blank := by
    cases hb : isBlank c with
    | false => rfl
    | true =>
      rw [isWord_eq_false_of_isBlank hb] at h
      cases h

theorem Plain.of_isDigit {c : Char} (h : c.isDigit = true) : Plain c := by
  have ascii : c.toNat < 128 := by
    simp only [Char.isDigit, Bool.and_eq_true, decide_eq_true_eq] at h
    exact Nat.lt_of_le_of_lt h.2 (by decide)
  refine .of_isWord ?_
  simp [isWord, isNumeral, ascii, h]

end Docblock.Text
