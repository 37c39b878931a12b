import Docblock.Proofs.Text.Closed

/-!
# Paired brackets

A text whose brackets of one kind are paired (`Paired`) is enclosed by a pair of that kind: the
bracket in front of it is closed by the one behind it. The scanners count brackets wherever they
stand, so those in quoted text count here as well. Of a text in parentheses one pair is taken off,
and no more than one (`unwrap_parenthesized`).

Being paired in one kind says nothing of the others, and that is all a search for one closing
bracket asks. It is weaker than being balanced, which is asked of all kinds at once and in front of
any rest.

One text has parentheses taken off although it is in none: an open parenthesis alone, whose span has
no length and which has nothing behind it that a longer span could end at. It has to be named where
it is said what can be taken off at all (`unwrap_cases`); the theorems about texts that keep their
ends ask for one that begins or ends otherwise.
-/

namespace Docblock.Text

variable {opener closer : Char} {cs rest : List Char}

/-- Brackets of one kind that open and close one another: no closing one comes too early, and none
stays open. -/
structure Paired (opener closer : Char) (cs : List Char) : Prop where
  inside : ∀ n ≤ cs.length, Unclosed opener closer 1 (cs.take n)
  whole : ¬Unclosed opener closer 0 cs

instance (opener closer : Char) (cs : List Char) : Decidable (Paired opener closer cs) :=
  decidable_of_iff ((∀ n ≤ cs.length, Unclosed opener closer 1 (cs.take n)) ∧
    ¬Unclosed opener closer 0 cs) ⟨fun h => ⟨h.1, h.2⟩, fun h => ⟨h.inside, h.whole⟩⟩

namespace Paired

/-- Right behind a paired text stands the bracket that closes the one open before it. -/
theorem closingFrom_eq (ne : opener ≠ closer) (h : Paired opener closer cs) (rest : List Char) :
    closingFrom opener closer 1 (cs ++ closer :: rest) = some cs.length := by
  refine (closingFrom_eq_some_iff ne (by decide)).2 ⟨by simp, fun m hm => ?_, fun unclosed => ?_⟩
  · rw [List.take_append_of_le_length hm]
    exact h.inside m hm
  · refine h.whole ?_
    rw [List.take_append, List.take_of_length_le (by omega), Nat.add_sub_cancel_left,
      List.take_succ_cons, List.take_zero] at unclosed
    unfold Unclosed at unclosed ⊢
    rw [List.count_append, List.count_append, List.count_singleton_self,
      List.count_cons_of_ne ne.symm, List.count_nil] at unclosed
    omega

/-- A text whose brackets are closed where it ends. -/
theorem of_closingFrom (ne : opener ≠ closer)
    (h : closingFrom opener closer 1 (cs ++ [closer]) = some cs.length) :
    Paired opener closer cs := by
  have here := (closingFrom_eq_some_iff ne (by decide)).1 h
  refine ⟨fun n hn => ?_, fun unclosed => here.closed ?_⟩
  · have := here.unclosed n hn
    rwa [List.take_append_of_le_length hn] at this
  · rw [List.take_of_length_le (by simp)]
    unfold Unclosed at unclosed ⊢
    rw [List.count_append, List.count_append, List.count_singleton_self,
      List.count_cons_of_ne ne.symm, List.count_nil]
    omega

/-- Brackets of another kind make no difference. -/
theorem of_free (ho : opener ∉ cs) (hc : closer ∉ cs) : Paired opener closer cs := by
  have none : ∀ m, (cs.take m).count opener = 0 ∧ (cs.take m).count closer = 0 := fun m =>
    ⟨List.count_eq_zero.2 fun hm => ho (List.mem_of_mem_take hm),
      List.count_eq_zero.2 fun hm => hc (List.mem_of_mem_take hm)⟩
  constructor
  · intro n _
    unfold Unclosed
    rw [(none n).2]
    omega
  · have all := none cs.length
    rw [List.take_length] at all
    unfold Unclosed
    rw [all.1, all.2]
    omega

theorem append {more : List Char} (h : Paired opener closer cs)
    (hm : Paired opener closer more) : Paired opener closer (cs ++ more) := by
  constructor
  · intro n hn
    rw [List.length_append] at hn
    rcases Nat.le_total n cs.length with short | long
    · rw [List.take_append_of_le_length short]
      exact h.inside n short
    · have first := h.inside cs.length (Nat.le_refl _)
      have second := hm.inside (n - cs.length) (by omega)
      rw [List.take_length] at first
      unfold Unclosed at first second ⊢
      rw [List.take_append, List.take_of_length_le long, List.count_append, List.count_append]
      omega
  · have first := h.whole
    have second := hm.whole
    unfold Unclosed at first second ⊢
    rw [List.count_append, List.count_append]
    omega

/-- A paired text in a pair of brackets. -/
theorem wrap (ne : opener ≠ closer) (h : Paired opener closer cs) :
    Paired opener closer (opener :: (cs ++ [closer])) := by
  constructor
  · intro n hn
    cases n with
    | zero => exact unclosed_nil.2 (by decide)
    | succ n =>
      rw [List.take_succ_cons, unclosed_opener ne]
      rcases Nat.lt_or_ge cs.length n with long | short
      · have before := h.inside cs.length (Nat.le_refl _)
        rw [List.take_length] at before
        rw [List.take_of_length_le (by simpa using long)]
        unfold Unclosed at before ⊢
        rw [List.count_append, List.count_append, List.count_singleton_self,
          List.count_cons_of_ne ne.symm, List.count_nil]
        omega
      · have before := h.inside n short
        rw [List.take_append_of_le_length short]
        unfold Unclosed at before ⊢
        omega
  · have whole := h.whole
    unfold Unclosed at whole ⊢
    rw [List.count_cons_of_ne ne, List.count_cons_self, List.count_append, List.count_append,
      List.count_singleton_self, List.count_cons_of_ne ne.symm, List.count_nil]
    omega

theorem of_balanced (pair : closerOf? opener = some closer) (h : Balanced cs) :
    Paired opener closer cs := by
  have ne := (closerOf?_disjoint pair pair).1
  refine .of_closingFrom ne ?_
  rw [h opener closer pair 0, closingFrom, if_neg ne.symm, if_pos rfl, if_pos (by omega),
    Option.map_some, Nat.zero_add]

end Paired

/-- The span of a bracket before a paired text ends with the bracket behind it. -/
theorem spanOffset_paired (pair : closerOf? opener = some closer) (h : Paired opener closer cs)
    (after : List Char) :
    spanOffset (opener :: (cs ++ [closer] ++ after)) = (cs ++ [closer]).length := by
  have ne := (closerOf?_disjoint pair pair).1
  rw [List.append_assoc, List.singleton_append, spanOffset_of_opener pair,
    h.closingFrom_eq ne after]
  simp

theorem Run.paired {stops : List Char} (pair : closerOf? opener = some closer)
    (free : opener ∉ stops) (h : Paired opener closer cs) :
    Run stops (opener :: (cs ++ [closer])) := by
  have slash : opener ≠ '/' := by
    rintro rfl
    cases pair
  have run := Run.cons free slash (spanOffset_paired pair h) Run.nil
  rwa [List.append_nil] at run

/-! ## Texts in parentheses -/

/-- A text with a pair of parentheses around it. -/
def parenthesized (cs : List Char) : List Char := '(' :: (cs ++ [')'])

/-- A text that is as a whole in parentheses, apart from blanks. -/
def InParentheses (cs : List Char) : Prop :=
  ∃ inner, Paired '(' ')' inner ∧ trim cs = parenthesized inner

theorem tight_parenthesized (cs : List Char) : Tight (parenthesized cs) :=
  .between (by decide) (by decide) cs

theorem spanOffset_parenthesized (h : Paired '(' ')' cs) :
    spanOffset (parenthesized cs) = (cs ++ [')']).length := by
  have span := spanOffset_paired rfl h []
  rwa [List.append_nil] at span

/-- One pair of parentheses is taken off. -/
theorem unwrap_parenthesized (h : Paired '(' ')' cs) : unwrap (parenthesized cs) = trim cs := by
  unfold unwrap
  rw [(tight_parenthesized cs).trim_eq, if_pos]
  · simp [parenthesized]
  · exact ⟨rfl, spanOffset_parenthesized h⟩

/-- A text in parentheses is closed, whatever stands in them. -/
theorem closed_parenthesized (h : Paired '(' ')' cs) : ClosedText (parenthesized cs) := by
  have closes : spanCloses (parenthesized cs) = true := by
    show (closingBracket? ('(' :: (cs ++ [')']))).isSome = true
    rw [closingBracket?_cons rfl, h.closingFrom_eq (by decide) []]
    rfl
  have through : ∀ (met : Option Char) (w : List Char), closedFrom w.length met w = true := by
    intro met w
    induction w with
    | nil => rfl
    | cons c w ih => exact ih
  have span := spanOffset_parenthesized h
  unfold ClosedText
  rw [(tight_parenthesized cs).trim_eq]
  unfold parenthesized at closes span ⊢
  rw [closedFrom, closes, span, through]
  rfl

/-- A text in parentheses is one member. -/
theorem members_parenthesized {separators : List Char} (free : Separating separators)
    (h : Paired '(' ')' cs) : members separators (parenthesized cs) = [parenthesized cs] := by
  have within : '(' ∉ separators := fun hm => by simpa [isBracket] using (free _ hm).1
  have tight := (tight_parenthesized cs).trim_eq
  have whole : pieces separators 0 none (parenthesized cs) = [parenthesized cs] :=
    (Joined.one (Run.paired rfl within h)).pieces_eq none
  rw [members, tight, whole, List.map_singleton, tight]

/-- A bracket that is closed by the last character encloses a paired text. -/
theorem exists_paired_of_closingFrom (ne : opener ≠ closer) {n : Nat}
    (h : closingFrom opener closer 1 rest = some n) (last : n + 1 = rest.length) :
    ∃ inner, Paired opener closer inner ∧ rest = inner ++ [closer] := by
  obtain ⟨inner, c, rfl⟩ : ∃ inner c, rest = inner ++ [c] := by
    have nonempty : rest ≠ [] := List.ne_nil_of_length_pos (by omega)
    exact ⟨_, _, (List.dropLast_concat_getLast nonempty).symm⟩
  obtain rfl : n = inner.length := by simpa using last
  have here := (closingFrom_eq_some_iff ne (by decide)).1 h
  have before := here.unclosed inner.length (Nat.le_refl _)
  have behind := here.closed
  rw [List.take_left] at before
  rw [List.take_of_length_le (by simp)] at behind
  have hc : c = closer := by
    by_contra other
    refine behind ?_
    unfold Unclosed at before ⊢
    rw [List.count_append, List.count_append, List.count_singleton (a := closer),
      beq_false_of_ne other]
    simp only [Bool.false_eq_true, if_false]
    omega
  subst hc
  exact ⟨inner, .of_closingFrom ne h, rfl⟩

/-- What is taken off a text, apart from blanks, is a pair of parentheses, or all of a text that is
nothing but an open one. -/
theorem unwrap_cases (cs : List Char) :
    unwrap cs = trim cs ∨ trim cs = ['('] ∨ InParentheses cs := by
  by_cases wrapped : (trim cs).head? = some '(' ∧
      (closingBracket? (trim cs)).getD 0 = (trim cs).length - 1
  · obtain ⟨starts, ends⟩ := wrapped
    obtain ⟨rest, text⟩ : ∃ rest, trim cs = '(' :: rest := by
      cases text : trim cs with
      | nil => simp [text] at starts
      | cons c rest => exact ⟨rest, by simpa [text] using starts⟩
    rw [text, closingBracket?_cons rfl] at ends
    cases found : closingFrom '(' ')' 1 rest with
    | some n =>
      rw [found] at ends
      obtain ⟨inner, paired, rfl⟩ :=
        exists_paired_of_closingFrom (by decide) found (by simpa using ends)
      exact .inr (.inr ⟨inner, paired, text⟩)
    | none =>
      rw [found] at ends
      obtain rfl : rest = [] := List.length_eq_zero_iff.1 (by simpa using ends.symm)
      exact .inr (.inl text)
  · exact .inl (if_neg wrapped)

/-- Nothing but blanks is taken off a paired text that is not in parentheses. -/
theorem unwrap_of_not_inParentheses (h : Paired '(' ')' cs) (bare : ¬InParentheses cs) :
    unwrap cs = trim cs := by
  rcases unwrap_cases cs with same | alone | wrapped
  · exact same
  · -- A paired text with a parenthesis has one that closes it as well.
    have opens : '(' ∈ cs := mem_of_mem_trim (by rw [alone]; simp)
    have closes : ')' ∈ cs := by
      have whole := h.whole
      unfold Unclosed at whole
      have := List.count_pos_iff.2 opens
      exact List.count_pos_iff.1 (by omega)
    have := mem_trim closes (by decide)
    rw [alone] at this
    exact absurd this (by decide)
  · exact absurd wrapped bare

/-- Nothing but blanks is taken off a text that begins with no parenthesis. -/
theorem unwrap_of_head (opens : (trim cs).head? ≠ some '(') : unwrap cs = trim cs :=
  if_neg fun wrapped => opens wrapped.1

/-- Nothing but blanks is taken off a text that ends with no parenthesis. -/
theorem unwrap_of_last (closes : (trim cs).getLast? ≠ some ')')
    (opens : (trim cs).getLast? ≠ some '(') : unwrap cs = trim cs := by
  rcases unwrap_cases cs with same | alone | ⟨inner, -, text⟩
  · exact same
  · rw [alone] at opens
    exact absurd rfl opens
  · rw [text] at closes
    exact absurd (by simp [parenthesized, List.getLast?_cons]) closes

/-- A text from which parentheses are taken off is not cut as long as they are there. -/
theorem unwrap_of_members {separators : List Char} (free : Separating separators)
    (several : 1 < (members separators cs).length) : unwrap cs = trim cs := by
  rcases unwrap_cases cs with same | alone | ⟨inner, paired, text⟩
  · exact same
  · have within : '(' ∉ separators := fun hm => by simpa [isBracket] using (free _ hm).1
    have single : ∀ c ∈ ['('], c ∉ separators := by simpa using within
    rw [members, alone, pieces_eq_singleton single] at several
    exact absurd several (by simp)
  · rw [← members_trim, text, members_parenthesized free paired] at several
    exact absurd several (by simp)

end Docblock.Text
