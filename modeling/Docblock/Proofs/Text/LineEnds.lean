import Docblock.Proofs.Text.Trim
import Mathlib.Data.List.Induction

/-!
# Lines that end in a return

The same text is written with a return in front of every line feed (`withReturns`). What reads a
text up to a character that is no line end reads it alike in both forms, and a return at the end of
a line is a blank, so trimming leaves the two forms of one text (`trim_withReturns`).

A text may hold returns of its own, and another one is put in front of a line feed that has one
already. The lemmas need no exception for that, except where the first character of a text is asked
for (`eq_cons_of_withReturns`). That the scanners of comments are told the same by both forms is not
shown here but with the comments, where it takes texts without returns.
-/

namespace Docblock.Text

/-- The text with a return in front of every line feed. -/
def withReturns (cs : List Char) : List Char :=
  cs.flatMap fun c => if c = '\n' then ['\r', '\n'] else [c]

variable {cs rest more : List Char} {p : Char → Bool} {c : Char}

@[simp] theorem withReturns_nil : withReturns [] = [] := rfl

@[simp] theorem withReturns_newline (cs : List Char) :
    withReturns ('\n' :: cs) = '\r' :: '\n' :: withReturns cs := rfl

theorem withReturns_cons (hc : c ≠ '\n') (cs : List Char) :
    withReturns (c :: cs) = c :: withReturns cs := by
  simp [withReturns, hc]

@[simp] theorem withReturns_append (cs more : List Char) :
    withReturns (cs ++ more) = withReturns cs ++ withReturns more := List.flatMap_append

theorem withReturns_of_not_mem (h : '\n' ∉ cs) : withReturns cs = cs := by
  induction cs with
  | nil => rfl
  | cons c cs ih =>
    have hc : c ≠ '\n' := fun same => h (same ▸ List.mem_cons_self)
    rw [withReturns_cons hc, ih fun hm => h (List.mem_cons_of_mem c hm)]

theorem withReturns_eq_nil_iff : withReturns cs = [] ↔ cs = [] := by
  cases cs with
  | nil => simp
  | cons c cs =>
    by_cases hc : c = '\n'
    · simp [hc]
    · simp [withReturns_cons hc]

/-- The first character is the same unless a line ends there. -/
theorem eq_cons_of_withReturns (h : withReturns cs = c :: more) (hc : c ≠ '\r') :
    ∃ rest, cs = c :: rest ∧ withReturns rest = more := by
  cases cs with
  | nil => cases h
  | cons d cs =>
    by_cases hd : d = '\n'
    · rw [hd, withReturns_newline] at h
      exact absurd (List.cons.inj h).1.symm hc
    · rw [withReturns_cons hd] at h
      obtain ⟨rfl, rfl⟩ := List.cons.inj h
      exact ⟨cs, rfl, rfl⟩

theorem count_withReturns (cs : List Char) : (withReturns cs).count '\n' = cs.count '\n' := by
  induction cs with
  | nil => rfl
  | cons c cs ih =>
    by_cases hc : c = '\n'
    · simp [hc, ih]
    · simp [withReturns_cons hc, hc, ih]

theorem newline_mem_withReturns : '\n' ∈ withReturns cs ↔ '\n' ∈ cs := by
  rw [← List.count_pos_iff, count_withReturns, List.count_pos_iff]

theorem head?_withReturns_iff (hr : c ≠ '\r') (hn : c ≠ '\n') (cs : List Char) :
    (withReturns cs).head? = some c ↔ cs.head? = some c := by
  cases cs with
  | nil => rfl
  | cons d cs =>
    by_cases hd : d = '\n'
    · simp [hd, hr.symm, hn.symm]
    · simp [withReturns_cons hd]

theorem getLast?_withReturns (cs : List Char) : (withReturns cs).getLast? = cs.getLast? := by
  rcases List.eq_nil_or_concat cs with rfl | ⟨cs, c, rfl⟩
  · rfl
  · by_cases hc : c = '\n'
    · simp [hc]
    · simp [withReturns_cons hc]

/-! ## Reading up to a character -/

/-- What is read up to a character is the same text, if both parts of a line end are read or neither
is. -/
theorem takeWhile_withReturns (hp : p '\r' = p '\n') (cs : List Char) :
    (withReturns cs).takeWhile p = withReturns (cs.takeWhile p) := by
  induction cs with
  | nil => rfl
  | cons c cs ih =>
    by_cases hc : c = '\n'
    · subst hc
      cases hn : p '\n' with
      | false => simp [hp, hn]
      | true => simp [hp, hn, ih]
    · rw [withReturns_cons hc, List.takeWhile_cons, List.takeWhile_cons]
      split
      · rw [withReturns_cons hc, ih]
      · rfl

theorem dropWhile_withReturns (hp : p '\r' = p '\n') (cs : List Char) :
    (withReturns cs).dropWhile p = withReturns (cs.dropWhile p) := by
  induction cs with
  | nil => rfl
  | cons c cs ih =>
    by_cases hc : c = '\n'
    · subst hc
      cases hn : p '\n' with
      | false => simp [hp, hn]
      | true => simp [hp, hn, ih]
    · rw [withReturns_cons hc, List.dropWhile_cons, List.dropWhile_cons]
      split
      · exact ih
      · rw [withReturns_cons hc]

theorem takeWhile_withReturns_of_stop (hr : p '\r' = false) (hn : p '\n' = false)
    (cs : List Char) : (withReturns cs).takeWhile p = cs.takeWhile p := by
  rw [takeWhile_withReturns (hr.trans hn.symm), withReturns_of_not_mem]
  intro hm
  rw [List.all_eq_true.1 List.all_takeWhile _ hm] at hn
  cases hn

theorem takeWhile_reverse_withReturns (cs : List Char) :
    (withReturns cs).reverse.takeWhile (· != '\n') = cs.reverse.takeWhile (· != '\n') := by
  induction cs using List.reverseRecOn with
  | nil => rfl
  | append_singleton cs c ih =>
    by_cases hc : c = '\n'
    · simp [hc]
    · simp [withReturns_cons hc, hc, ih]

/-! ## Blanks -/

theorem Blanks.withReturns (h : Blanks cs) : Blanks (withReturns cs) := by
  intro c hc
  obtain ⟨d, hd, inside⟩ := List.mem_flatMap.1 hc
  split at inside
  · rcases List.mem_cons.1 inside with rfl | inside
    · rfl
    · rw [List.mem_singleton.1 inside]
      rfl
  · rw [List.mem_singleton.1 inside]
    exact h d hd

theorem Tight.withReturns (h : Tight cs) : Tight (withReturns cs) where
  starts c hc := by
    cases cs with
    | nil => cases hc
    | cons d cs =>
      have hd : isBlank d = false := h.starts d rfl
      have ne : d ≠ '\n' := by
        rintro rfl
        cases hd
      rw [withReturns_cons ne] at hc
      cases hc
      exact hd
  ends c hc := h.ends c (by rwa [getLast?_withReturns] at hc)

/-- Trimming leaves the two forms of one text. -/
theorem trim_withReturns (cs : List Char) : trim (withReturns cs) = withReturns (trim cs) := by
  obtain ⟨before, after, hb, ha, split⟩ := exists_trim cs
  calc trim (withReturns cs)
      = trim (withReturns before ++ withReturns (trim cs) ++ withReturns after) := by
        rw [← withReturns_append, ← withReturns_append, ← split]
    _ = withReturns (trim cs) :=
        trim_between hb.withReturns ha.withReturns (tight_trim cs).withReturns

end Docblock.Text
