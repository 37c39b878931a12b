import Docblock.Text.Bracket

/-!
# Where brackets are closed

The search for the bracket that closes another counts those that open and those that close. It ends
where first as many are closed as were open (`closingFrom_eq_some_iff`), and finds nothing in a text
in which some stay open throughout (`closingFrom_eq_none_iff`). A span of brackets is as long as
that search goes, and one that is not closed has no length (`spanOffset_of_opener`).

The search is a loop with a counter. What it finds is said by counting characters in prefixes
(`Unclosed`), so no proof that uses these lemmas has to look at the counter again. Natural numbers
are enough: the two counts are compared and never subtracted.

Other kinds of brackets and quoted text do not count here, because the search does not know them.
For braces the three things that can become of them are named (`Nested`, `StaysOpen`,
`ClosesEarly`), and every text does one of them.
-/

namespace Docblock.Text

/-- A text leaves one of its brackets open, or of the `depth` open before it. -/
def Unclosed (opener closer : Char) (depth : Nat) (cs : List Char) : Prop :=
  cs.count closer < depth + cs.count opener

instance (opener closer : Char) (depth : Nat) (cs : List Char) :
    Decidable (Unclosed opener closer depth cs) :=
  inferInstanceAs (Decidable (_ < _))

variable {opener closer : Char} {depth n : Nat} {cs rest : List Char}

theorem unclosed_nil : Unclosed opener closer depth [] ↔ 0 < depth := Iff.rfl

theorem unclosed_opener (ne : opener ≠ closer) :
    Unclosed opener closer depth (opener :: cs) ↔ Unclosed opener closer (depth + 1) cs := by
  unfold Unclosed
  rw [List.count_cons_of_ne ne, List.count_cons_self]
  omega

theorem unclosed_closer (ne : opener ≠ closer) :
    Unclosed opener closer (depth + 1) (closer :: cs) ↔ Unclosed opener closer depth cs := by
  unfold Unclosed
  rw [List.count_cons_of_ne ne.symm, List.count_cons_self]
  omega

theorem unclosed_cons {c : Char} (ho : c ≠ opener) (hc : c ≠ closer) :
    Unclosed opener closer depth (c :: cs) ↔ Unclosed opener closer depth cs := by
  unfold Unclosed
  rw [List.count_cons_of_ne ho, List.count_cons_of_ne hc]

/-- The bracket at `n` is the first one that leaves none open. -/
structure ClosedAt (opener closer : Char) (depth : Nat) (cs : List Char) (n : Nat) : Prop where
  inside : n < cs.length
  unclosed : ∀ m ≤ n, Unclosed opener closer depth (cs.take m)
  closed : ¬Unclosed opener closer depth (cs.take (n + 1))

/-- What holds of a text after its first character holds of the whole of it, when that leaves open
what is open before the rest. -/
theorem ClosedAt.cons {c : Char} {depth' : Nat} (h : ClosedAt opener closer depth' cs n)
    (pos : 0 < depth)
    (step : ∀ w, Unclosed opener closer depth (c :: w) ↔ Unclosed opener closer depth' w) :
    ClosedAt opener closer depth (c :: cs) (n + 1) where
  inside := Nat.succ_lt_succ h.inside
  unclosed m hm := by
    cases m with
    | zero => exact unclosed_nil.2 pos
    | succ m => exact (step _).2 (h.unclosed m (Nat.le_of_succ_le_succ hm))
  closed := fun unclosed => h.closed ((step _).1 unclosed)

theorem closedAt_of_closingFrom (ne : opener ≠ closer) (pos : 0 < depth)
    (h : closingFrom opener closer depth cs = some n) : ClosedAt opener closer depth cs n := by
  induction cs generalizing depth n with
  | nil => cases h
  | cons c cs ih =>
    rw [closingFrom] at h
    by_cases ho : c = opener
    · rw [if_pos ho] at h
      obtain ⟨m, hm, rfl⟩ := Option.map_eq_some_iff.1 h
      subst ho
      exact (ih (by omega) hm).cons pos fun w => unclosed_opener ne
    rw [if_neg ho] at h
    by_cases hc : c = closer
    · rw [if_pos hc] at h
      subst hc
      obtain ⟨depth, rfl⟩ : ∃ k, depth = k + 1 := ⟨depth - 1, by omega⟩
      split at h
      · -- The last bracket is closed here.
        cases h
        refine ⟨by simp, fun m hm => ?_, ?_⟩
        · rw [Nat.le_zero.1 hm]
          exact unclosed_nil.2 pos
        · rw [Nat.zero_add, List.take_succ_cons, List.take_zero, unclosed_closer ne, unclosed_nil]
          omega
      · obtain ⟨m, hm, rfl⟩ := Option.map_eq_some_iff.1 h
        exact (ih (by omega) hm).cons pos fun w => unclosed_closer ne
    · rw [if_neg hc] at h
      obtain ⟨m, hm, rfl⟩ := Option.map_eq_some_iff.1 h
      exact (ih pos hm).cons pos fun w => unclosed_cons ho hc

theorem unclosed_of_closingFrom (ne : opener ≠ closer) (pos : 0 < depth)
    (h : closingFrom opener closer depth cs = none) (n : Nat) :
    Unclosed opener closer depth (cs.take n) := by
  induction cs generalizing depth n with
  | nil =>
    rw [List.take_nil]
    exact unclosed_nil.2 pos
  | cons c cs ih =>
    cases n with
    | zero => exact unclosed_nil.2 pos
    | succ n =>
      rw [List.take_succ_cons]
      rw [closingFrom] at h
      by_cases ho : c = opener
      · rw [if_pos ho] at h
        rw [ho, unclosed_opener ne]
        exact ih (by omega) (Option.map_eq_none_iff.1 h) n
      rw [if_neg ho] at h
      by_cases hc : c = closer
      · rw [if_pos hc] at h
        obtain ⟨depth, rfl⟩ : ∃ k, depth = k + 1 := ⟨depth - 1, by omega⟩
        split at h
        · cases h
        · rw [hc, unclosed_closer ne]
          exact ih (by omega) (Option.map_eq_none_iff.1 h) n
      · rw [if_neg hc] at h
        rw [unclosed_cons ho hc]
        exact ih pos (Option.map_eq_none_iff.1 h) n

theorem closingFrom_eq_none_iff (ne : opener ≠ closer) (pos : 0 < depth) :
    closingFrom opener closer depth cs = none ↔
      ∀ n, Unclosed opener closer depth (cs.take n) := by
  refine ⟨unclosed_of_closingFrom ne pos, fun unclosed => ?_⟩
  cases h : closingFrom opener closer depth cs with
  | none => rfl
  | some n => exact absurd (unclosed (n + 1)) (closedAt_of_closingFrom ne pos h).closed

theorem closingFrom_eq_some_iff (ne : opener ≠ closer) (pos : 0 < depth) :
    closingFrom opener closer depth cs = some n ↔ ClosedAt opener closer depth cs n := by
  refine ⟨closedAt_of_closingFrom ne pos, fun here => ?_⟩
  cases h : closingFrom opener closer depth cs with
  | none => exact absurd (unclosed_of_closingFrom ne pos h (n + 1)) here.closed
  | some m =>
    -- Of two such places neither comes before the other.
    have there := closedAt_of_closingFrom ne pos h
    have le : m ≤ n := Nat.not_lt.1 fun lt => here.closed (there.unclosed _ lt)
    have ge : n ≤ m := Nat.not_lt.1 fun lt => there.closed (here.unclosed _ lt)
    rw [Nat.le_antisymm le ge]

theorem closingFrom_eq_none (ho : opener ∉ cs) (hc : closer ∉ cs) (depth : Nat) :
    closingFrom opener closer depth cs = none := by
  induction cs with
  | nil => rfl
  | cons c rest ih =>
    simp only [List.mem_cons, not_or] at ho hc
    rw [closingFrom, if_neg (Ne.symm ho.1), if_neg (Ne.symm hc.1), ih ho.2 hc.2]
    rfl

/-- A text that holds neither bracket makes no difference at the end. -/
theorem closingFrom_append (ho : opener ∉ rest) (hc : closer ∉ rest) (depth : Nat)
    (cs : List Char) :
    closingFrom opener closer depth (cs ++ rest) = closingFrom opener closer depth cs := by
  induction cs generalizing depth with
  | nil => exact closingFrom_eq_none ho hc depth
  | cons c cs ih =>
    rw [List.cons_append, closingFrom, closingFrom]
    simp only [ih]

/-- The bracket that closes the first character is looked for behind it. -/
theorem closingBracket?_cons {c closer : Char} (pair : closerOf? c = some closer)
    (rest : List Char) :
    closingBracket? (c :: rest) = (closingFrom c closer 1 rest).map (· + 1) := by
  rw [closingBracket?, pair]
  show (closingFrom c closer 1 rest).bind _ = _
  cases closingFrom c closer 1 rest <;> rfl

/-! ## Spans -/

section

variable {c closer : Char}

theorem spanOffset_of_opener (pair : closerOf? c = some closer) (rest : List Char) :
    spanOffset (c :: rest) = ((closingFrom c closer 1 rest).map (· + 1)).getD 0 := by
  rw [spanOffset, if_pos (by rw [pair]; rfl), closingBracket?_cons pair]

theorem spanOffset_of_quote (quote : isQuote c = true) (rest : List Char) :
    spanOffset (c :: rest) = ((closingQuoteFrom c c rest).map (· + 1)).getD 0 := by
  have bracket : closerOf? c = none := by
    simp only [isQuote, Bool.or_eq_true, beq_iff_eq] at quote
    rcases quote with (rfl | rfl) | rfl <;> rfl
  rw [spanOffset, bracket, closingQuote?, if_pos quote, if_neg (by simp), if_pos quote]

theorem spanOffset_of_other (bracket : closerOf? c = none) (quote : isQuote c = false)
    (rest : List Char) : spanOffset (c :: rest) = 0 := by
  simp [spanOffset, bracket, quote]

end

/-! ## Braces -/

theorem closingBracket?_brace (rest : List Char) :
    closingBracket? ('{' :: rest) = (closingFrom '{' '}' 1 rest).map (· + 1) :=
  closingBracket?_cons rfl rest

theorem closingBracket?_lt (h : closingBracket? ('{' :: rest) = some n) :
    n < ('{' :: rest).length := by
  rw [closingBracket?_brace] at h
  obtain ⟨m, hm, rfl⟩ := Option.map_eq_some_iff.1 h
  exact Nat.succ_lt_succ (closedAt_of_closingFrom (by decide) (by decide) hm).inside

/-- A text leaves a brace open. -/
def LeavesOpen (cs : List Char) : Prop := Unclosed '{' '}' 0 cs

instance (cs : List Char) : Decidable (LeavesOpen cs) :=
  inferInstanceAs (Decidable (Unclosed _ _ _ _))

theorem leavesOpen_brace : LeavesOpen ('{' :: cs) ↔ Unclosed '{' '}' 1 cs :=
  unclosed_opener (by decide)

/-- A text whose first brace is open throughout and closed where the text ends. -/
structure Nested (cs : List Char) : Prop where
  inside : ∀ n < cs.length, 0 < n → LeavesOpen (cs.take n)
  closed : ¬LeavesOpen cs

/-- A text in which a brace is open throughout. -/
def StaysOpen (cs : List Char) : Prop := ∀ n, 0 < n → LeavesOpen (cs.take n)

/-- A text that goes on after its braces are closed. -/
def ClosesEarly (cs : List Char) : Prop := ∃ n < cs.length, 0 < n ∧ ¬LeavesOpen (cs.take n)

theorem nested_or_staysOpen_or_closesEarly (cs : List Char) :
    Nested cs ∨ StaysOpen cs ∨ ClosesEarly cs := by
  by_cases early : ClosesEarly cs
  · exact .inr (.inr early)
  have inside : ∀ n < cs.length, 0 < n → LeavesOpen (cs.take n) := fun n hn pos =>
    Decidable.byContradiction fun closed => early ⟨n, hn, pos, closed⟩
  by_cases stays : LeavesOpen cs
  · refine .inr (.inl fun n pos => ?_)
    by_cases hn : n < cs.length
    · exact inside n hn pos
    · rwa [List.take_of_length_le (by omega)]
  · exact .inl ⟨inside, stays⟩

theorem closingBracket?_eq_none_iff :
    closingBracket? ('{' :: rest) = none ↔ StaysOpen ('{' :: rest) := by
  rw [closingBracket?_brace, Option.map_eq_none_iff,
    closingFrom_eq_none_iff (by decide) (by decide)]
  constructor
  · intro unclosed n pos
    obtain ⟨n, rfl⟩ : ∃ k, n = k + 1 := ⟨n - 1, by omega⟩
    exact leavesOpen_brace.2 (unclosed n)
  · intro stays n
    exact leavesOpen_brace.1 (stays (n + 1) n.succ_pos)

theorem closingBracket?_eq_length_iff :
    closingBracket? ('{' :: rest) = some rest.length ↔ Nested ('{' :: rest) := by
  rw [closingBracket?_brace]
  constructor
  · intro h
    obtain ⟨n, hn, last⟩ := Option.map_eq_some_iff.1 h
    have here := closedAt_of_closingFrom (by decide) (by decide) hn
    refine ⟨fun m hm pos => ?_, fun stays => here.closed ?_⟩
    · obtain ⟨m, rfl⟩ : ∃ k, m = k + 1 := ⟨m - 1, by omega⟩
      rw [List.length_cons] at hm
      exact leavesOpen_brace.2 (here.unclosed m (by omega))
    · rw [last, List.take_length]
      exact leavesOpen_brace.1 stays
  · intro nested
    cases last : rest.length with
    | zero =>
      rw [List.length_eq_zero_iff.1 last] at nested
      exact absurd (by decide) nested.closed
    | succ n =>
      refine Option.map_eq_some_iff.2 ⟨n, ?_, rfl⟩
      refine (closingFrom_eq_some_iff (by decide) (by decide)).2 ⟨by omega, fun m hm => ?_, ?_⟩
      · exact leavesOpen_brace.1 (nested.inside (m + 1) (by simp [last]; omega) m.succ_pos)
      · rw [← last, List.take_length]
        exact fun stays => nested.closed (leavesOpen_brace.2 stays)

end Docblock.Text
