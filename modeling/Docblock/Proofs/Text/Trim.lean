import Docblock.Proofs.Text.Scan

/-!
# Trimmed texts

A text is its trimmed text between blanks (`exists_trim`), and the trimmed text is tight, so blanks
around a text make no difference to it. No character but a blank is lost.

Everything here is about the two ends of a text. What blanks inside of it do is left to the scans,
and which characters are blank is not asked again: the lemmas hold of any text that consists of such
characters (`Blanks`), and the few that occur as layout (a space, a line feed) are instances.

Trimming at the end is trimming at the start of the reversed text (`trimEnd_eq`). The lemmas about
the end are proved through that equation, and each has a counterpart for the start.
-/

namespace Docblock.Text

/-- Blanks only. -/
def Blanks (cs : List Char) : Prop := ∀ c ∈ cs, isBlank c = true

variable {cs blanks : List Char}

theorem isBlank_of_isIndent {c : Char} (h : isIndent c = true) : isBlank c = true := by
  simp only [isIndent, Bool.or_eq_true, beq_iff_eq] at h
  rcases h with rfl | rfl <;> rfl

theorem blanks_nil : Blanks [] := by simp [Blanks]

theorem blanks_singleton {c : Char} (h : isBlank c = true) : Blanks [c] := by
  intro d hd
  rwa [List.mem_singleton.1 hd]

theorem blanks_space : Blanks [' '] := blanks_singleton rfl

theorem blanks_newline : Blanks ['\n'] := blanks_singleton rfl

theorem Blanks.append {more : List Char} (h : Blanks cs) (hm : Blanks more) :
    Blanks (cs ++ more) := by
  intro c hc
  rcases List.mem_append.1 hc with hc | hc
  · exact h c hc
  · exact hm c hc

theorem Blanks.not_mem (h : Blanks cs) {c : Char} (hc : isBlank c = false) : c ∉ cs := by
  intro hm
  rw [h c hm] at hc
  cases hc

section

variable {p : Char → Bool} {c : Char}

/-- Characters that are passed over end at one that is not at the latest. -/
theorem dropWhile_append_cons (hc : p c = false) (text cs : List Char) :
    (text ++ c :: cs).dropWhile p = text.dropWhile p ++ c :: cs := by
  induction text with
  | nil => simp [hc]
  | cons d text ih =>
    cases hd : p d <;> simp [hd, ih]

theorem takeWhile_append_cons (hc : p c = false) (text cs : List Char) :
    (text ++ c :: cs).takeWhile p = text.takeWhile p := by
  induction text with
  | nil => simp [hc]
  | cons d text ih =>
    cases hd : p d <;> simp [hd, ih]

end

theorem head?_trimStart {c : Char} (h : c ∈ (trimStart cs).head?) : isBlank c = false := by
  have := List.head?_dropWhile_not isBlank cs
  unfold trimStart at h
  rw [Option.mem_def.1 h] at this
  simpa using this

theorem mem_of_mem_trimStart {c : Char} (h : c ∈ trimStart cs) : c ∈ cs :=
  (List.dropWhile_sublist isBlank).subset h

theorem exists_trimStart (cs : List Char) :
    ∃ before, Blanks before ∧ cs = before ++ trimStart cs := by
  refine ⟨cs.takeWhile isBlank, fun c hc => ?_, List.takeWhile_append_dropWhile.symm⟩
  exact List.all_eq_true.1 List.all_takeWhile c hc

theorem trimEnd_eq (cs : List Char) : trimEnd cs = (trimStart cs.reverse).reverse := rfl

theorem exists_trimEnd (cs : List Char) : ∃ after, Blanks after ∧ cs = trimEnd cs ++ after := by
  obtain ⟨before, hb, split⟩ := exists_trimStart cs.reverse
  refine ⟨before.reverse, fun c hc => hb c (List.mem_reverse.1 hc), ?_⟩
  rw [trimEnd_eq, ← List.reverse_append, ← split, List.reverse_reverse]

theorem tight_trim (cs : List Char) : Tight (trim cs) where
  starts c hc := by
    obtain ⟨after, -, split⟩ := exists_trimEnd (trimStart cs)
    have h : c ∈ (trimStart cs).head? := by
      rw [split, head?_append_left]
      · exact hc
      · intro none
        rw [trim, none] at hc
        cases hc
    exact head?_trimStart h
  ends c hc := by
    rw [trim, trimEnd_eq, List.getLast?_reverse] at hc
    exact head?_trimStart hc

/-- A text is its trimmed text between blanks. -/
theorem exists_trim (cs : List Char) :
    ∃ before after, Blanks before ∧ Blanks after ∧ cs = before ++ trim cs ++ after := by
  obtain ⟨before, hb, start⟩ := exists_trimStart cs
  obtain ⟨after, ha, rest⟩ := exists_trimEnd (trimStart cs)
  refine ⟨before, after, hb, ha, ?_⟩
  rw [List.append_assoc, trim, ← rest, ← start]

theorem trim_trim (cs : List Char) : trim (trim cs) = trim cs := (tight_trim cs).trim_eq

theorem trimStart_of_blanks (h : Blanks cs) : trimStart cs = [] := by
  rw [← List.append_nil cs]
  exact trimStart_append cs h (by simp)

theorem trimStart_eq_nil_iff : trimStart cs = [] ↔ Blanks cs := by
  refine ⟨fun none => ?_, trimStart_of_blanks⟩
  obtain ⟨before, hb, split⟩ := exists_trimStart cs
  rw [none, List.append_nil] at split
  exact split ▸ hb

theorem trim_of_blanks (h : Blanks cs) : trim cs = [] := by
  rw [trim, trimStart_of_blanks h]
  rfl

/-- Tight text does not end in blanks. -/
theorem Tight.not_blanks {more : List Char} (tight : Tight (cs ++ more)) (ne : more ≠ []) :
    ¬Blanks more := by
  intro blanks
  obtain ⟨c, last⟩ := Option.isSome_iff_exists.1 (List.getLast?_isSome.2 ne)
  have stop := tight.ends c (by rw [List.getLast?_append, last]; rfl)
  rw [blanks c (List.mem_of_getLast? last)] at stop
  cases stop

theorem trimStart_append_of_ne_nil (h : trimStart cs ≠ []) (more : List Char) :
    trimStart (cs ++ more) = trimStart cs ++ more := by
  unfold trimStart at h ⊢
  rw [List.dropWhile_append, if_neg]
  exact fun none => h (List.isEmpty_iff.1 none)

/-- Blanks before a text that begins with another character are those that are trimmed. -/
theorem trimStart_append_of_head {w : List Char} (hw : ∀ c ∈ w.head?, isBlank c = false)
    (cs : List Char) : trimStart (cs ++ w) = trimStart cs ++ w := by
  by_cases all : Blanks cs
  · rw [trimStart_append cs all hw, trimStart_of_blanks all, List.nil_append]
  · exact trimStart_append_of_ne_nil (mt trimStart_eq_nil_iff.1 all) w

theorem exists_trimStart_append (hb : Blanks blanks) (cs : List Char) :
    ∃ more, Blanks more ∧ trimStart (cs ++ blanks) = trimStart cs ++ more := by
  by_cases all : Blanks cs
  · refine ⟨[], blanks_nil, ?_⟩
    rw [trimStart_of_blanks (all.append hb), trimStart_of_blanks all]
    rfl
  · exact ⟨blanks, hb, trimStart_append_of_ne_nil (mt trimStart_eq_nil_iff.1 all) blanks⟩

/-- Blanks around a tight text are trimmed. -/
theorem trim_between {before after : List Char} (hb : Blanks before) (ha : Blanks after)
    {w : List Char} (hw : Tight w) : trim (before ++ w ++ after) = w := by
  cases w with
  | nil =>
    rw [List.append_nil]
    exact trim_of_blanks (hb.append ha)
  | cons c rest =>
    have starts : ∀ d ∈ (c :: rest ++ after).head?, isBlank d = false := hw.starts
    rw [List.append_assoc, trim, trimStart_append before hb starts, trimEnd_eq,
      List.reverse_append]
    have ends : ∀ d ∈ (c :: rest).reverse.head?, isBlank d = false := by
      rw [List.head?_reverse]
      exact hw.ends
    rw [trimStart_append after.reverse (fun d hd => ha d (List.mem_reverse.1 hd)) ends,
      List.reverse_reverse]

theorem trim_append_blanks (cs : List Char) (h : Blanks blanks) :
    trim (cs ++ blanks) = trim cs := by
  obtain ⟨before, after, hb, ha, split⟩ := exists_trim cs
  calc trim (cs ++ blanks) = trim (before ++ trim cs ++ (after ++ blanks)) := by
        rw [← List.append_assoc, ← split]
    _ = trim cs := trim_between hb (ha.append h) (tight_trim cs)

theorem trim_blanks_append (h : Blanks blanks) (cs : List Char) : trim (blanks ++ cs) = trim cs := by
  rw [trim, trim, trimStart, List.dropWhile_append_of_pos h, trimStart]

/-- Blanks after a text that ends with another character are those that are trimmed. -/
theorem trimEnd_append_cons {c : Char} (hc : isBlank c = false) (cs more : List Char) :
    trimEnd (cs ++ c :: more) = cs ++ c :: trimEnd more := by
  have head : ∀ d ∈ (c :: cs.reverse).head?, isBlank d = false := by
    rintro d ⟨⟩
    exact hc
  rw [trimEnd_eq, List.reverse_append, List.reverse_cons, List.append_assoc, List.singleton_append,
    trimStart_append_of_head head, List.reverse_append, ← trimEnd_eq]
  simp

theorem trim_cons {c : Char} (hc : isBlank c = false) (more : List Char) :
    trim (c :: more) = c :: trimEnd more := by
  have starts : trimStart (c :: more) = c :: more :=
    trimStart_append [] (by simp) (by rintro d ⟨⟩; exact hc)
  rw [trim, starts]
  exact trimEnd_append_cons hc [] more

/-- Only the end of a text is trimmed, when neither it nor what stands at its end begins with a
blank. -/
theorem trim_append_cons {b c : Char} (hb : isBlank b = false) (hc : isBlank c = false)
    (cs more : List Char) :
    trim (b :: (cs ++ c :: more)) = b :: (cs ++ c :: trimEnd more) := by
  rw [trim_cons hb, trimEnd_append_cons hc]

theorem trimEnd_append_blanks (cs : List Char) (h : Blanks blanks) :
    trimEnd (cs ++ blanks) = trimEnd cs := by
  have reversed : ∀ c ∈ blanks.reverse, isBlank c = true := fun c hc => h c (List.mem_reverse.1 hc)
  rw [trimEnd_eq, List.reverse_append, trimStart, List.dropWhile_append_of_pos reversed]
  rfl

theorem trim_trimEnd (cs : List Char) : trim (trimEnd cs) = trim cs := by
  obtain ⟨after, ha, split⟩ := exists_trimEnd cs
  rw [← trim_append_blanks (trimEnd cs) ha, ← split]

theorem mem_of_mem_trimEnd {c : Char} (h : c ∈ trimEnd cs) : c ∈ cs := by
  obtain ⟨after, -, split⟩ := exists_trimEnd cs
  rw [split]
  exact List.mem_append_left _ h

/-- What is left when only the end is trimmed. -/
theorem exists_blanks_trimEnd (cs : List Char) :
    ∃ before, Blanks before ∧ trimEnd cs = before ++ trim cs := by
  obtain ⟨before, hb, start⟩ := exists_trimStart (trimEnd cs)
  obtain ⟨after, ha, stop⟩ := exists_trimEnd cs
  have tight : Tight (trimStart (trimEnd cs)) := by
    refine ⟨fun c hc => head?_trimStart hc, fun c hc => ?_⟩
    have last : c ∈ (trimEnd cs).getLast? := by
      rw [start, getLast?_append_right]
      · exact hc
      · rintro none
        rw [none] at hc
        cases hc
    rw [trimEnd_eq, List.getLast?_reverse] at last
    exact head?_trimStart last
  have text : trim cs = trimStart (trimEnd cs) := calc
    trim cs = trim (before ++ trimStart (trimEnd cs) ++ after) := by rw [← start, ← stop]
    _ = trimStart (trimEnd cs) := trim_between hb ha tight
  exact ⟨before, hb, by rw [text, ← start]⟩

theorem mem_of_mem_trim {c : Char} (h : c ∈ trim cs) : c ∈ cs := by
  obtain ⟨before, after, -, -, split⟩ := exists_trim cs
  rw [split]
  simp [h]

theorem mem_trim {c : Char} (h : c ∈ cs) (hc : isBlank c = false) : c ∈ trim cs := by
  obtain ⟨before, after, hb, ha, split⟩ := exists_trim cs
  rw [split] at h
  simp only [List.mem_append] at h
  rcases h with (h | h) | h
  · rw [hb c h] at hc
    cases hc
  · exact h
  · rw [ha c h] at hc
    cases hc

end Docblock.Text
