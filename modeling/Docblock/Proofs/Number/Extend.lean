import Docblock.Number.Literal
import Mathlib.Data.List.TakeDrop

/-!
# Numbers in front of more text

A number is read alike when the text goes on (`read?_append`), as long as a character is left that
no number goes on with (`Ended`). Without one the next digits, or an exponent, would be taken too.

The reader looks ahead twice. A point belongs to the number only if a digit follows or stands in
front, and the mark of an exponent only if digits follow, perhaps after a sign. So the text that is
left may begin with such a mark, and then more text could turn it into an exponent after all. That
is why `Ended` rules out the marks and not only the digits.

What the number is worth is not asked here.
-/

namespace Docblock.NumberLiteral

open Text

/-- What ends a number: a character that no number goes on with. -/
inductive Ended : List Char → Prop
  | intro {c : Char} {rest : List Char} (digit : isDigit c = false) (point : c ≠ '.')
      (small : c ≠ 'e') (large : c ≠ 'E') : Ended (c :: rest)

variable {cs rest : List Char}

theorem Ended.ne_nil (h : Ended rest) : rest ≠ [] := by
  cases h
  simp

theorem spanDigits_append {digits : List Char} (h : spanDigits cs = (digits, rest))
    (ended : rest ≠ []) (more : List Char) :
    spanDigits (cs ++ more) = (digits, rest ++ more) := by
  unfold spanDigits at h ⊢
  rw [List.span_eq_takeWhile_dropWhile] at h ⊢
  cases h
  rw [List.dropWhile_append, if_neg (by simpa using ended), List.takeWhile_append, if_neg]
  intro all
  have whole := congrArg List.length (List.takeWhile_append_dropWhile (p := isDigit) (l := cs))
  rw [List.length_append, all] at whole
  exact ended (List.length_eq_zero_iff.1 (by omega))

/-- The digits of an exponent after its mark and sign; `cs` is what is left when there are none. -/
def exponentDigits (cs : List Char) (negative : Bool) (rest : List Char) :
    Option (Bool × List Char) × List Char :=
  match spanDigits rest with
  | ([], _) => (none, cs)
  | (digits, after) => (some (negative, digits), after)

theorem exponentDigits_append {cs digits : List Char} {negative : Bool}
    {exponent : Option (Bool × List Char)}
    (h : exponentDigits cs negative digits = (exponent, rest)) (ended : rest ≠ [])
    (other : rest ≠ cs) (more : List Char) :
    exponentDigits (cs ++ more) negative (digits ++ more) = (exponent, rest ++ more) := by
  unfold exponentDigits at h ⊢
  rcases span : spanDigits digits with ⟨_ | ⟨d, ds⟩, after⟩
  · rw [span] at h
    cases h
    exact absurd rfl other
  · rw [span] at h
    cases h
    rw [spanDigits_append span ended]

/-- Without a mark there is no exponent. -/
theorem readExponent_of_ne {c : Char} (small : c ≠ 'e') (large : c ≠ 'E') (cs : List Char) :
    readExponent (c :: cs) = (none, c :: cs) := by
  simp [readExponent, small, large]

/-- After a mark that is no sign there are digits, or no exponent. -/
theorem readExponent_mark {mark c : Char} (hm : mark = 'e' ∨ mark = 'E') (minus : c ≠ '-')
    (plus : c ≠ '+') (cs : List Char) :
    readExponent (mark :: c :: cs) = exponentDigits (mark :: c :: cs) false (c :: cs) := by
  rcases span : spanDigits (c :: cs) with ⟨_ | ⟨d, ds⟩, after⟩ <;> rcases hm with rfl | rfl <;>
    simp [readExponent, exponentDigits, minus, plus, span]

theorem readExponent_append {exponent : Option (Bool × List Char)}
    (h : readExponent cs = (exponent, rest)) (ended : Ended rest) (more : List Char) :
    readExponent (cs ++ more) = (exponent, rest ++ more) ∧ cs ≠ [] := by
  cases cs with
  | nil =>
    cases h
    cases ended
  | cons c tail =>
    refine ⟨?_, by simp⟩
    by_cases mark : c = 'e' ∨ c = 'E'
    -- A mark without digits is left unread, and then what is left does not end a number.
    · have other : ∀ tail, rest ≠ c :: tail := by
        rintro tail rfl
        cases ended with
        | intro _ _ small large => exact mark.elim small large
      cases tail with
      | nil =>
        rcases mark with rfl | rfl <;>
        · cases h
          exact absurd rfl (other _)
      | cons d tail =>
        by_cases minus : d = '-'
        · subst minus
          have signed : ∀ tail, readExponent (c :: '-' :: tail) =
              exponentDigits (c :: '-' :: tail) true tail := by
            intro tail
            rcases mark with rfl | rfl <;> rfl
          rw [signed] at h
          exact (signed _).trans (exponentDigits_append h ended.ne_nil (other _) more)
        by_cases plus : d = '+'
        · subst plus
          have signed : ∀ tail, readExponent (c :: '+' :: tail) =
              exponentDigits (c :: '+' :: tail) false tail := by
            intro tail
            rcases mark with rfl | rfl <;> rfl
          rw [signed] at h
          exact (signed _).trans (exponentDigits_append h ended.ne_nil (other _) more)
        rw [readExponent_mark mark minus plus] at h
        exact (readExponent_mark mark minus plus _).trans
          (exponentDigits_append h ended.ne_nil (other _) more)
    · have small : c ≠ 'e' := fun same => mark (.inl same)
      have large : c ≠ 'E' := fun same => mark (.inr same)
      rw [readExponent_of_ne small large] at h
      cases h
      exact readExponent_of_ne small large _

/-- A literal with the exponent that comes next. -/
def withExponent (f : Option (Bool × List Char) → NumberLiteral) (cs : List Char) :
    Option (NumberLiteral × List Char) :=
  some (f (readExponent cs).1, (readExponent cs).2)

theorem withExponent_append {f : Option (Bool × List Char) → NumberLiteral}
    {number : NumberLiteral} (h : withExponent f cs = some (number, rest)) (ended : Ended rest)
    (more : List Char) : withExponent f (cs ++ more) = some (number, rest ++ more) ∧ cs ≠ [] := by
  unfold withExponent at h ⊢
  rcases he : readExponent cs with ⟨exponent, after⟩
  rw [he] at h
  cases h
  obtain ⟨longer, ne⟩ := readExponent_append he ended more
  rw [longer]
  exact ⟨rfl, ne⟩

section

variable {negative : Bool} {left after fraction ws : List Char} {w : Char}

theorem readUnsigned_point (point : spanDigits cs = ([], '.' :: left))
    (digits : spanDigits left = (w :: ws, after)) :
    readUnsigned negative cs = withExponent (.decimal negative [] (some (w :: ws))) after := by
  simp [readUnsigned, point, digits, withExponent]

theorem readUnsigned_fraction (whole : spanDigits cs = (w :: ws, '.' :: left))
    (digits : spanDigits left = (fraction, after)) :
    readUnsigned negative cs =
      withExponent (.decimal negative (w :: ws) (some fraction)) after := by
  simp [readUnsigned, whole, digits, withExponent]

theorem readUnsigned_whole {c : Char} (whole : spanDigits cs = (w :: ws, c :: left))
    (point : c ≠ '.') : readUnsigned negative cs =
      withExponent (.decimal negative (w :: ws) none) (c :: left) := by
  rw [readUnsigned, whole]
  simp [point, withExponent]

/-- A literal without digits before a point has digits after one, or is infinite. -/
theorem readUnsigned_cases {number : NumberLiteral} (bare : spanDigits cs = ([], left))
    (h : readUnsigned negative cs = some (number, rest)) :
    (∃ left' w ws after, left = '.' :: left' ∧ spanDigits left' = (w :: ws, after)) ∨
      left = 'I' :: 'n' :: 'f' :: 'i' :: 'n' :: 'i' :: 't' :: 'y' :: rest ∧
        number = .infinity negative := by
  rw [readUnsigned, bare] at h
  split at h
  · rename_i left' same
    cases same
    rcases digits : spanDigits left' with ⟨_ | ⟨w, ws⟩, after⟩
    · rw [digits] at h
      cases h
    · exact .inl ⟨left', w, ws, after, rfl, digits⟩
  · rename_i same
    cases same
    cases h
    exact .inr ⟨rfl, rfl⟩
  · cases h
  · rename_i some same
    cases same
    exact (some rfl).elim
  · rename_i some _ same
    cases same
    exact (some rfl).elim

end

theorem readUnsigned_append {negative : Bool} {number : NumberLiteral}
    (h : readUnsigned negative cs = some (number, rest)) (ended : Ended rest) (more : List Char) :
    readUnsigned negative (cs ++ more) = some (number, rest ++ more) := by
  rcases span : spanDigits cs with ⟨_ | ⟨w, ws⟩, left⟩
  · rcases readUnsigned_cases span h with ⟨left, w, ws, after, rfl, digits⟩ | ⟨rfl, rfl⟩
    · rw [readUnsigned_point span digits] at h
      obtain ⟨longer, ne⟩ := withExponent_append h ended more
      exact (readUnsigned_point (spanDigits_append span (by simp) more)
        (spanDigits_append digits ne more)).trans longer
    · rw [readUnsigned, spanDigits_append span (by simp)]
      rfl
  · cases left with
    | nil =>
      have left : readUnsigned negative cs =
          withExponent (.decimal negative (w :: ws) none) [] := by
        rw [readUnsigned, span]
        rfl
      rw [left] at h
      exact absurd rfl (withExponent_append h ended []).2
    | cons c left =>
      by_cases point : c = '.'
      · subst point
        rcases digits : spanDigits left with ⟨fraction, after⟩
        rw [readUnsigned_fraction span digits] at h
        obtain ⟨longer, ne⟩ := withExponent_append h ended more
        exact (readUnsigned_fraction (spanDigits_append span (by simp) more)
          (spanDigits_append digits ne more)).trans longer
      · rw [readUnsigned_whole span point] at h
        exact (readUnsigned_whole (spanDigits_append span (by simp) more) point).trans
          (withExponent_append h ended more).1

/-- A number is read alike when something that ends it is left. -/
theorem read?_append {number : NumberLiteral} (h : read? cs = some (number, rest))
    (ended : Ended rest) (more : List Char) :
    read? (cs ++ more) = some (number, rest ++ more) := by
  cases cs with
  | nil => cases h
  | cons c tail =>
    by_cases minus : c = '-'
    · subst minus
      exact readUnsigned_append h ended more
    · have unsigned : ∀ tail, read? (c :: tail) = readUnsigned false (c :: tail) := by
        intro tail
        simp [read?, minus]
      rw [unsigned] at h
      exact (unsigned _).trans (readUnsigned_append h ended more)

/-- A number begins with a digit, a sign or a point, or with the word for what is infinite. -/
theorem read?_eq_none {c : Char} (digit : isDigit c = false) (minus : c ≠ '-') (point : c ≠ '.')
    (infinity : c ≠ 'I') (cs : List Char) : read? (c :: cs) = none := by
  have span : spanDigits (c :: cs) = ([], c :: cs) := by
    rw [spanDigits, List.span_eq_takeWhile_dropWhile, List.takeWhile_cons_of_neg (by simp [digit]),
      List.dropWhile_cons_of_neg (by simp [digit])]
  simp [read?, readUnsigned, span, minus, point, infinity]

end Docblock.NumberLiteral
