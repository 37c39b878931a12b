import Docblock.Proofs.Text.Members

/-!
# What quotes and brackets enclose

Read from the start, every place of a text stands in some brackets and perhaps in a quoted string,
in which no bracket counts (`Enclosure`). A text of closed strings and properly nested brackets
(`WellNested`) is cut at the separators that stand in nothing (`outerPieces`). The scan for
separators agrees with that reading at strings, but in brackets it counts those in quoted text too:
it passes over a pair of brackets and what it encloses just when those counts agree, and it cuts the
text where it should if they agree in all of its outermost pairs (`split_of_wellNested`).

The reading with a stack of brackets is not how the scan works, and it is not meant to replace it.
It says where a text should be cut without mentioning any search, so the theorem compares two
definitions that have nothing in common but the table of brackets.

Three things are left out because the reading has no opinion about them: a backslash in front of a
quote, a remark, and one pair of parentheses around the whole, which is taken off before anything is
cut. Inside brackets the texts may be as they like, even with a pair that ends too early. Only the
outermost pairs are scanned for.
-/

namespace Docblock.Text

/-! ## What a place stands in -/

/-- What a place of a text stands in: the brackets that are to be closed, as those that close them,
the innermost first, and the quote of a quoted string. -/
structure Enclosure where
  closers : List Char
  quote : Option Char
  deriving DecidableEq

namespace Enclosure

/-- Nothing is open. -/
def outside : Enclosure := ⟨[], none⟩

/-- Read one more character. Only its quote ends a quoted string, and only the innermost bracket can
be closed. -/
def step (place : Enclosure) (c : Char) : Option Enclosure :=
  match place.quote with
  | some quote => some ⟨place.closers, if c = quote then none else some quote⟩
  | none =>
    if isQuote c then some ⟨place.closers, some c⟩
    else
      match closerOf? c with
      | some closer => some ⟨closer :: place.closers, none⟩
      | none =>
        if isBracket c then
          if place.closers.head? = some c then some ⟨place.closers.tail, none⟩ else none
        else some place

/-- Read a text. -/
def run (place : Enclosure) (cs : List Char) : Option Enclosure := cs.foldlM step place

variable {place : Enclosure} {closers outer : List Char} {quote : Option Char} {c : Char}

theorem run_cons (place : Enclosure) (c : Char) (cs : List Char) :
    place.run (c :: cs) = (place.step c).bind (·.run cs) := rfl

theorem run_append (place : Enclosure) (cs more : List Char) :
    place.run (cs ++ more) = (place.run cs).bind (·.run more) := List.foldlM_append

/-- A character that can be read in some brackets is read alike in more of them. -/
theorem step_append (h : step ⟨closers, quote⟩ c = some place) (outer : List Char) :
    step ⟨closers ++ outer, quote⟩ c = some ⟨place.closers ++ outer, place.quote⟩ := by
  cases quote with
  | some quote =>
    cases h
    rfl
  | none =>
    unfold step at h ⊢
    dsimp only at h ⊢
    split at h
    · cases h
      rw [if_pos (by assumption)]
    rw [if_neg (by assumption)]
    split at h
    · cases h
      rfl
    split at h
    · rename_i bracket
      rw [if_pos bracket]
      split at h
      · rename_i closes
        obtain ⟨closers, rfl⟩ := List.head?_eq_some_iff.1 closes
        cases h
        exact if_pos rfl
      · cases h
    · cases h
      rw [if_neg (by assumption)]

/-- Only a bracket that closes another one than the innermost cannot be read. -/
theorem of_step_eq_none (h : step ⟨closers, quote⟩ c = none) :
    quote = none ∧ isQuote c = false ∧ closerOf? c = none ∧ isBracket c = true ∧
      closers.head? ≠ some c := by
  cases quote with
  | some quote => cases h
  | none =>
    unfold step at h
    dsimp only at h
    split at h
    · cases h
    · split at h
      · cases h
      · split at h
        · split at h
          · cases h
          · rename_i plain _ pair bracket other
            exact ⟨rfl, Bool.eq_false_iff.2 plain, pair, bracket, other⟩
        · cases h

/-- A character leaves open what was open further out, or closes the innermost of it. -/
theorem step_within {closer : Char} (h : step ⟨closers ++ closer :: outer, quote⟩ c = some place) :
    (closers = [] ∧ quote = none ∧ c = closer ∧ place = ⟨outer, none⟩) ∨
      ∃ inner, step ⟨closers, quote⟩ c = some inner ∧
        place = ⟨inner.closers ++ closer :: outer, inner.quote⟩ := by
  cases inside : step ⟨closers, quote⟩ c with
  | some inner =>
    rw [step_append inside] at h
    exact .inr ⟨inner, rfl, (Option.some.inj h).symm⟩
  | none =>
    obtain ⟨rfl, plain, pair, bracket, other⟩ := of_step_eq_none inside
    cases closers with
    | nil =>
      simp only [step, plain, pair, bracket, List.nil_append, List.head?_cons, List.tail_cons,
        Option.some.injEq, Bool.false_eq_true, if_false, if_true] at h
      split at h
      · rename_i same
        exact .inl ⟨rfl, rfl, same.symm, (Option.some.inj h).symm⟩
      · cases h
    | cons first closers =>
      rw [List.head?_cons] at other
      simp [step, plain, pair, bracket, other] at h

theorem run_append_closers {cs : List Char} (h : run ⟨closers, quote⟩ cs = some place)
    (outer : List Char) :
    run ⟨closers ++ outer, quote⟩ cs = some ⟨place.closers ++ outer, place.quote⟩ := by
  induction cs generalizing closers quote with
  | nil =>
    cases h
    rfl
  | cons c cs ih =>
    rw [run_cons] at h ⊢
    obtain ⟨next, first, rest⟩ := Option.bind_eq_some_iff.1 h
    rw [step_append first]
    exact ih rest

/-- What is open at a place is closed, the innermost bracket before the others. -/
theorem exists_of_run_closer {closer : Char} {cs : List Char}
    (h : run ⟨closers ++ closer :: outer, quote⟩ cs = some outside) :
    ∃ inner after, cs = inner ++ closer :: after ∧ run ⟨closers, quote⟩ inner = some outside ∧
      run ⟨outer, none⟩ after = some outside := by
  induction cs generalizing closers quote with
  | nil =>
    have open_ : closers ++ closer :: outer = [] := congrArg Enclosure.closers (Option.some.inj h)
    simp at open_
  | cons c cs ih =>
    rw [run_cons] at h
    obtain ⟨place, next, rest⟩ := Option.bind_eq_some_iff.1 h
    rcases step_within next with ⟨rfl, rfl, rfl, rfl⟩ | ⟨first, inside, rfl⟩
    · exact ⟨[], cs, rfl, rfl, rest⟩
    · obtain ⟨inner, after, rfl, closed, behind⟩ := ih rest
      refine ⟨c :: inner, after, rfl, ?_, behind⟩
      rw [run_cons, inside]
      exact closed

/-- A quoted string that is open at a place is closed by the next quote of its kind. -/
theorem exists_of_run_quote {q : Char} {cs : List Char}
    (h : run ⟨outer, some q⟩ cs = some outside) :
    ∃ string after, cs = string ++ q :: after ∧ q ∉ string ∧
      run ⟨outer, none⟩ after = some outside := by
  induction cs with
  | nil => cases h
  | cons c cs ih =>
    rw [run_cons] at h
    obtain ⟨place, next, rest⟩ := Option.bind_eq_some_iff.1 h
    cases next
    by_cases ends : c = q
    · rw [if_pos ends] at rest
      exact ⟨[], cs, by rw [ends]; rfl, by simp, rest⟩
    · rw [if_neg ends] at rest
      obtain ⟨string, after, rfl, free, behind⟩ := ih rest
      exact ⟨c :: string, after, rfl, by simp [Ne.symm ends, free], behind⟩

end Enclosure

open Enclosure

/-! ## Well-nested texts -/

/-- Every quoted string of a text is closed, and its brackets outside of them are balanced and
properly nested. -/
def WellNested (cs : List Char) : Prop := outside.run cs = some outside

instance (cs : List Char) : Decidable (WellNested cs) := inferInstanceAs (Decidable (_ = _))

namespace WellNested

variable {c : Char} {cs more : List Char}

theorem append_iff (h : WellNested cs) : WellNested (cs ++ more) ↔ WellNested more := by
  unfold WellNested at h ⊢
  rw [run_append, h]
  rfl

theorem step_of_quote (quote : isQuote c = true) :
    outside.step c = some ⟨[], some c⟩ := if_pos quote

theorem step_of_opener {closer : Char} (pair : closerOf? c = some closer) :
    outside.step c = some ⟨[closer], none⟩ := by
  have plain : isQuote c = false := by
    rcases closerOf?_eq_some.1 pair with ⟨rfl, rfl⟩ | ⟨rfl, rfl⟩ | ⟨rfl, rfl⟩ | ⟨rfl, rfl⟩ <;> rfl
  simp [step, outside, plain, pair]

theorem step_of_plain (bracket : isBracket c = false) (quote : isQuote c = false) :
    outside.step c = some outside := by
  simp [step, outside, bracket, quote, closerOf?_eq_none bracket]

theorem step_of_closer {opener closer : Char} (pair : closerOf? opener = some closer) :
    step ⟨[closer], none⟩ closer = some outside := by
  have closing : isQuote closer = false ∧ closerOf? closer = none ∧ isBracket closer = true := by
    rcases closerOf?_eq_some.1 pair with ⟨rfl, rfl⟩ | ⟨rfl, rfl⟩ | ⟨rfl, rfl⟩ | ⟨rfl, rfl⟩ <;>
      exact ⟨rfl, rfl, rfl⟩
  simp [step, closing, outside]

theorem singleton (bracket : isBracket c = false) (quote : isQuote c = false) :
    WellNested [c] := by
  rw [WellNested, run_cons, step_of_plain bracket quote]
  rfl

theorem string {q : Char} (quote : isQuote q = true) {string : List Char} (free : q ∉ string) :
    WellNested (q :: (string ++ [q])) := by
  rw [WellNested, run_cons, step_of_quote quote]
  show run ⟨[], some q⟩ (string ++ [q]) = some outside
  have read : ∀ c, step ⟨[], some q⟩ c = some ⟨[], if c = q then none else some q⟩ := fun _ => rfl
  induction string with
  | nil =>
    rw [List.nil_append, run_cons, read, if_pos rfl]
    rfl
  | cons c string ih =>
    have other : c ≠ q := fun same => free (by simp [same])
    rw [List.cons_append, run_cons, read, if_neg other]
    exact ih fun hm => free (by simp [hm])

theorem brackets {opener closer : Char} (pair : closerOf? opener = some closer)
    {inner : List Char} (h : WellNested inner) : WellNested (opener :: (inner ++ [closer])) := by
  have within : run ⟨[closer], none⟩ inner = some ⟨[closer], none⟩ := run_append_closers h [closer]
  rw [WellNested, run_cons, step_of_opener pair]
  show run ⟨[closer], none⟩ (inner ++ [closer]) = some outside
  rw [run_append, within, Option.bind_some, run_cons, step_of_closer pair]
  rfl

/-- What a text begins with: a character that is neither a quote nor a bracket, a quoted string, or
a pair of brackets with what it encloses. -/
theorem cons_cases (h : WellNested (c :: cs)) :
    (isBracket c = false ∧ isQuote c = false ∧ WellNested cs) ∨
    (isQuote c = true ∧ ∃ string after, cs = string ++ c :: after ∧ c ∉ string ∧
      WellNested after) ∨
    ∃ closer inner after, closerOf? c = some closer ∧ cs = inner ++ closer :: after ∧
      WellNested inner ∧ WellNested after := by
  unfold WellNested at h
  rw [run_cons] at h
  cases quote : isQuote c with
  | true =>
    rw [step_of_quote quote] at h
    exact .inr (.inl ⟨rfl, exists_of_run_quote h⟩)
  | false =>
    cases pair : closerOf? c with
    | some closer =>
      rw [step_of_opener pair] at h
      have opened : run ⟨[] ++ [closer], none⟩ cs = some outside := h
      obtain ⟨inner, after, split, closed, behind⟩ := exists_of_run_closer opened
      exact .inr (.inr ⟨closer, inner, after, rfl, split, closed, behind⟩)
    | none =>
      cases bracket : isBracket c with
      | true =>
        -- A bracket that closes none cannot come first.
        have stuck : outside.step c = none := by simp [step, outside, quote, pair, bracket]
        rw [stuck] at h
        cases h
      | false =>
        rw [step_of_plain bracket quote] at h
        exact .inl ⟨rfl, rfl, h⟩

/-- Well-nested texts are made of single characters, quoted strings and pairs of brackets around
well-nested texts. -/
theorem induction {motive : List Char → Prop} (nil : motive [])
    (plain : ∀ c cs, isBracket c = false → isQuote c = false → motive cs → motive (c :: cs))
    (quoted : ∀ q string cs, isQuote q = true → q ∉ string → motive cs →
      motive (q :: (string ++ q :: cs)))
    (enclosed : ∀ opener closer inner cs, closerOf? opener = some closer → WellNested inner →
      motive cs → motive (opener :: (inner ++ closer :: cs)))
    {cs : List Char} (h : WellNested cs) : motive cs := by
  induction length : cs.length using Nat.strong_induction_on generalizing cs with
  | h n ih =>
    subst length
    cases cs with
    | nil => exact nil
    | cons c cs =>
      rcases h.cons_cases with ⟨bracket, quote, rest⟩ | ⟨quote, string, after, rfl, free, rest⟩ |
        ⟨closer, inner, after, pair, rfl, within, rest⟩
      · exact plain c cs bracket quote (ih _ (by simp) rest rfl)
      · exact quoted c string after quote free (ih _ (by simp; omega) rest rfl)
      · exact enclosed c closer inner after pair within (ih _ (by simp; omega) rest rfl)

end WellNested

/-! ## Pieces between outermost separators -/

/-- The pieces of a text between the separators that stand in no brackets and no quoted string. -/
def outerPieces (separators : List Char) : Enclosure → List Char → List (List Char)
  | _, [] => [[]]
  | place, c :: cs =>
    let pieces := outerPieces separators ((place.step c).getD place) cs
    if place = outside ∧ c ∈ separators then [] :: pieces else consPiece c pieces

section

variable {separators cs rest : List Char} {place next : Enclosure} {c : Char}

theorem outerPieces_cons (h : place.step c = some next) (inside : place = outside → c ∉ separators)
    (cs : List Char) : outerPieces separators place (c :: cs) =
      prependPiece [c] (outerPieces separators next cs) := by
  rw [outerPieces, h, Option.getD_some, consPiece_eq, if_neg]
  rintro ⟨same, separator⟩
  exact inside same separator

theorem outerPieces_ne_nil (separators : List Char) (place : Enclosure) (cs : List Char) :
    outerPieces separators place cs ≠ [] := by
  cases cs with
  | nil => simp [outerPieces]
  | cons c cs =>
    rw [outerPieces]
    split
    · simp
    · rw [consPiece_eq]
      cases outerPieces separators ((place.step c).getD place) cs <;> simp [prependPiece]

/-- Nothing is cut in a quoted string. -/
theorem outerPieces_quoted {closers string : List Char} {q : Char} (free : q ∉ string)
    (rest : List Char) :
    outerPieces separators ⟨closers, some q⟩ (string ++ q :: rest) =
      prependPiece (string ++ [q]) (outerPieces separators ⟨closers, none⟩ rest) := by
  have quoted : (⟨closers, some q⟩ : Enclosure) ≠ outside := nofun
  have read : ∀ c, step ⟨closers, some q⟩ c = some ⟨closers, if c = q then none else some q⟩ :=
    fun _ => rfl
  induction string with
  | nil =>
    rw [List.nil_append, outerPieces_cons (read q) fun same => absurd same quoted, if_pos rfl]
    rfl
  | cons c string ih =>
    have other : c ≠ q := fun same => free (by simp [same])
    rw [List.cons_append, outerPieces_cons (read c) fun same => absurd same quoted, if_neg other,
      ih fun hm => free (by simp [hm]), prependPiece_prependPiece]
    rfl

/-- A quoted string is in one piece. -/
theorem outerPieces_string {string : List Char} {q : Char} (quote : isQuote q = true)
    (free : q ∉ separators) (closed : q ∉ string) (rest : List Char) :
    outerPieces separators outside (q :: (string ++ q :: rest)) =
      prependPiece (q :: (string ++ [q])) (outerPieces separators outside rest) := by
  rw [outerPieces_cons (WellNested.step_of_quote quote) fun _ => free, outerPieces_quoted closed,
    prependPiece_prependPiece]
  rfl

/-- Nothing is cut in brackets. -/
theorem outerPieces_enclosed {closers outer inner : List Char} {quote : Option Char}
    {closer : Char} (h : run ⟨closers, quote⟩ inner = some next) (rest : List Char) :
    outerPieces separators ⟨closers ++ closer :: outer, quote⟩ (inner ++ rest) =
      prependPiece inner
        (outerPieces separators ⟨next.closers ++ closer :: outer, next.quote⟩ rest) := by
  induction inner generalizing closers quote with
  | nil =>
    cases h
    obtain ⟨piece, more, hp⟩ := List.exists_cons_of_ne_nil
      (outerPieces_ne_nil separators ⟨closers ++ closer :: outer, quote⟩ rest)
    rw [List.nil_append, hp]
    rfl
  | cons c inner ih =>
    rw [run_cons] at h
    obtain ⟨place, first, others⟩ := Option.bind_eq_some_iff.1 h
    have within : (⟨closers ++ closer :: outer, quote⟩ : Enclosure) ≠ outside := by
      intro same
      simpa [outside] using congrArg Enclosure.closers same
    rw [List.cons_append, outerPieces_cons (step_append first (closer :: outer))
      fun same => absurd same within, ih others, prependPiece_prependPiece]
    rfl

/-- A pair of brackets and what it encloses are in one piece. -/
theorem outerPieces_pair {opener closer : Char} {inner : List Char}
    (pair : closerOf? opener = some closer) (free : opener ∉ separators) (nested : WellNested inner)
    (rest : List Char) :
    outerPieces separators outside (opener :: (inner ++ closer :: rest)) =
      prependPiece (opener :: (inner ++ [closer])) (outerPieces separators outside rest) := by
  have closes := WellNested.step_of_closer pair
  have within : (⟨[closer], none⟩ : Enclosure) ≠ outside := nofun
  have enclosed : outerPieces separators ⟨[] ++ [closer], none⟩ (inner ++ closer :: rest) =
      prependPiece inner (outerPieces separators ⟨[] ++ [closer], none⟩ (closer :: rest)) :=
    outerPieces_enclosed nested (closer :: rest)
  rw [List.nil_append] at enclosed
  rw [outerPieces_cons (WellNested.step_of_opener pair) fun _ => free, enclosed,
    prependPiece_prependPiece]
  show prependPiece _ (outerPieces separators ⟨[closer], none⟩ (closer :: rest)) = _
  rw [outerPieces_cons closes fun same => absurd same within, prependPiece_prependPiece]
  simp

end

/-! ## Scanning a well-nested text -/

/-- The place behind a text is in a quoted string. -/
def InString (before : List Char) : Prop := ∃ place ∈ outside.run before, place.quote ≠ none

instance (before : List Char) : Decidable (InString before) :=
  inferInstanceAs (Decidable (∃ place ∈ outside.run before, place.quote ≠ none))

/-- Two slashes in a row stand in quoted strings only. -/
def Unremarked (cs : List Char) : Prop :=
  ∀ n < cs.length, (cs.drop n).take 2 = ['/', '/'] → InString (cs.take n)

instance (cs : List Char) : Decidable (Unremarked cs) :=
  inferInstanceAs (Decidable (∀ n < cs.length, (cs.drop n).take 2 = ['/', '/'] → _))

/-- A text holds an outermost pair of brackets with a well-nested text in it. -/
structure Encloses (cs before : List Char) (opener : Char) (inner : List Char) (closer : Char)
    (after : List Char) : Prop where
  text : cs = before ++ opener :: (inner ++ closer :: after)
  outermost : WellNested before
  pair : closerOf? opener = some closer
  nested : WellNested inner

/-- The brackets of its own kind are paired in every outermost pair of brackets, those in quoted
strings counted with the others. -/
def EvenlyQuoted (cs : List Char) : Prop :=
  ∀ before opener inner closer after, Encloses cs before opener inner closer after →
    Paired opener closer inner

section

variable {separators cs : List Char} {previous : Option Char} {c : Char}

theorem Unremarked.of_append {front : List Char} (nested : WellNested front)
    (h : Unremarked (front ++ cs)) : Unremarked cs := by
  intro n hn slashes
  have behind := h (front.length + n) (by simp; omega)
  rw [← List.drop_drop, List.drop_left, List.take_length_add_append] at behind
  obtain ⟨place, read, quoted⟩ := behind slashes
  refine ⟨place, ?_, quoted⟩
  rwa [run_append, nested] at read

theorem EvenlyQuoted.of_append {front : List Char} (nested : WellNested front)
    (h : EvenlyQuoted (front ++ cs)) : EvenlyQuoted cs := by
  intro before opener inner closer after held
  refine h (front ++ before) opener inner closer after ⟨?_, ?_, held.pair, held.nested⟩
  · rw [held.text, List.append_assoc]
  · exact nested.append_iff.2 held.outermost

/-- A text that the scan reads as the stack of brackets does: it holds no backslash and no remark,
and the brackets in its strings leave the outermost pairs as they are. -/
structure Legible (cs : List Char) : Prop where
  plain : '\\' ∉ cs
  unremarked : Unremarked cs
  even : EvenlyQuoted cs

theorem Legible.of_append {front : List Char} (nested : WellNested front)
    (h : Legible (front ++ cs)) : Legible cs where
  plain hm := h.plain (List.mem_append_right _ hm)
  unremarked := h.unremarked.of_append nested
  even := h.even.of_append nested

/-- Outside of strings no slash follows a slash. -/
theorem Unremarked.head?_ne (h : Unremarked (c :: cs)) (slash : some c = some '/') :
    cs.head? ≠ some '/' := by
  cases slash
  intro next
  obtain ⟨rest, rfl⟩ := List.head?_eq_some_iff.1 next
  obtain ⟨place, read, quoted⟩ := h 0 (Nat.succ_pos _) rfl
  cases read
  exact quoted rfl

/-- A span that begins with no separator and no second slash is skipped in one piece. -/
theorem pieces_of_span {span : List Char} (free : c ∉ separators)
    (slash : ¬(c = '/' ∧ previous = some '/')) (rest : List Char)
    (spans : spanOffset (c :: (span ++ rest)) = span.length) :
    pieces separators 0 previous (c :: (span ++ rest)) =
      prependPiece (c :: span) (pieces separators 0 (some c) rest) := by
  rw [pieces, if_neg free, skipFrom, if_neg slash, spans, ← Nat.add_zero span.length,
    pieces_prepend, consPiece_eq, prependPiece_prependPiece]
  rfl

/-- A character that is neither a quote nor a bracket is read alike. -/
theorem pieces_of_plain (bracket : isBracket c = false) (quote : isQuote c = false)
    (fresh : previous = some '/' → (c :: cs).head? ≠ some '/')
    (rest : pieces separators 0 (some c) cs = outerPieces separators outside cs) :
    pieces separators 0 previous (c :: cs) = outerPieces separators outside (c :: cs) := by
  have read := WellNested.step_of_plain bracket quote
  by_cases separator : c ∈ separators
  · rw [pieces, if_pos separator, rest, outerPieces, read, if_pos ⟨rfl, separator⟩]
    rfl
  · have slash : ¬(c = '/' ∧ previous = some '/') := by
      rintro ⟨rfl, met⟩
      exact fresh met rfl
    have one : spanOffset (c :: ([] ++ cs)) = ([] : List Char).length :=
      spanOffset_of_other (closerOf?_eq_none bracket) quote cs
    rw [outerPieces_cons read fun _ => separator, ← rest]
    exact pieces_of_span separator slash cs one

/-- A quoted string is read alike, unless it holds a backslash. -/
theorem pieces_of_string {q : Char} {string : List Char} (quote : isQuote q = true)
    (free : q ∉ separators) (closed : q ∉ string) (plain : '\\' ∉ string)
    (rest : pieces separators 0 (some q) cs = outerPieces separators outside cs) :
    pieces separators 0 previous (q :: (string ++ q :: cs)) =
      outerPieces separators outside (q :: (string ++ q :: cs)) := by
  have split : q :: (string ++ q :: cs) = q :: (string ++ [q] ++ cs) := by simp
  have slash : q ≠ '/' := by
    rintro rfl
    cases quote
  have one : ∀ c ∈ string, c ≠ q ∧ c ≠ '\\' :=
    fun c hc => ⟨fun same => closed (same ▸ hc), fun same => plain (same ▸ hc)⟩
  rw [outerPieces_string quote free closed, ← rest, split]
  exact pieces_of_span free (fun same => slash same.1) cs (spanOffset_quoted quote one cs)

/-- A pair of brackets is read alike where the brackets of its kind are paired in it. -/
theorem pieces_of_pair {opener closer : Char} {inner : List Char}
    (pair : closerOf? opener = some closer) (free : opener ∉ separators)
    (within : WellNested inner) (paired : Paired opener closer inner)
    (rest : pieces separators 0 (some opener) cs = outerPieces separators outside cs) :
    pieces separators 0 previous (opener :: (inner ++ closer :: cs)) =
      outerPieces separators outside (opener :: (inner ++ closer :: cs)) := by
  have split : opener :: (inner ++ closer :: cs) = opener :: (inner ++ [closer] ++ cs) := by simp
  have slash : opener ≠ '/' := by
    rintro rfl
    cases pair
  rw [outerPieces_pair pair free within, ← rest, split]
  exact pieces_of_span free (fun same => slash same.1) cs (spanOffset_paired pair paired cs)

/-- The scan cuts a well-nested text where nothing is open, if it is legible. -/
theorem pieces_eq_outerPieces (free : Separating separators) (nested : WellNested cs)
    (legible : Legible cs) (fresh : previous = some '/' → cs.head? ≠ some '/') :
    pieces separators 0 previous cs = outerPieces separators outside cs := by
  refine WellNested.induction (motive := fun cs => ∀ previous, Legible cs →
    (previous = some '/' → cs.head? ≠ some '/') →
      pieces separators 0 previous cs = outerPieces separators outside cs)
    ?nil ?plain ?quoted ?enclosed nested previous legible fresh
  case nil =>
    intros
    rfl
  case plain =>
    intro c cs bracket quote ih previous legible fresh
    have behind : Legible cs := .of_append (.singleton bracket quote) legible
    exact pieces_of_plain bracket quote fresh (ih (some c) behind legible.unremarked.head?_ne)
  case quoted =>
    intro q string cs quote closed ih previous legible _
    have free_q : q ∉ separators := by
      intro hm
      have other := (free q hm).2.1
      rw [quote] at other
      cases other
    have plain : '\\' ∉ string := fun hm => legible.plain (by simp [hm])
    have split : q :: (string ++ q :: cs) = q :: (string ++ [q]) ++ cs := by simp
    have behind : Legible cs := .of_append (.string quote closed) (split ▸ legible)
    have fresh : some q = some '/' → cs.head? ≠ some '/' := by
      rintro ⟨⟩
      cases quote
    exact pieces_of_string quote free_q closed plain (ih (some q) behind fresh)
  case enclosed =>
    intro opener closer inner cs pair within ih previous legible _
    have free_opener : opener ∉ separators := by
      intro hm
      have other := (free opener hm).1
      rw [(isBracket_of_closerOf? pair).1] at other
      cases other
    have paired := legible.even [] opener inner closer cs ⟨rfl, rfl, pair, within⟩
    have split : opener :: (inner ++ closer :: cs) = opener :: (inner ++ [closer]) ++ cs := by simp
    have behind : Legible cs := .of_append (within.brackets pair) (split ▸ legible)
    have fresh : some opener = some '/' → cs.head? ≠ some '/' := by
      rintro ⟨⟩
      cases pair
    exact pieces_of_pair pair free_opener within paired (ih (some opener) behind fresh)

/-- The scan passes over a pair of brackets and what it encloses just when the brackets of its kind
are paired there, those in quoted strings counted with the others. -/
theorem spanOffset_pair_iff {opener closer : Char} {inner : List Char}
    (pair : closerOf? opener = some closer) (after : List Char) :
    spanOffset (opener :: (inner ++ closer :: after)) = (inner ++ [closer]).length ↔
      Paired opener closer inner := by
  have ne := (closerOf?_disjoint pair pair).1
  have split : inner ++ closer :: after = inner ++ [closer] ++ after := by simp
  rw [split]
  constructor
  · intro ends
    rw [spanOffset_of_opener pair] at ends
    cases found : closingFrom opener closer 1 (inner ++ [closer] ++ after) with
    | none =>
      rw [found] at ends
      simp at ends
    | some n =>
      rw [found] at ends
      obtain rfl : n = inner.length := by simpa using ends
      exact .of_closingFrom ne (closingFrom_of_append ne (by decide) found (by simp))
  · intro paired
    exact spanOffset_paired pair paired after

theorem WellNested.of_blanks {blanks : List Char} (hb : Blanks blanks) : WellNested blanks := by
  induction blanks with
  | nil => rfl
  | cons c blanks ih =>
    have mark := not_mem_marks_of_isBlank (hb c (by simp))
    simp only [marks, List.mem_cons, List.not_mem_nil, or_false, not_or] at mark
    have alone : WellNested [c] := .singleton (by simp [isBracket, mark]) (by simp [isQuote, mark])
    exact alone.append_iff.2 (ih fun d hd => hb d (by simp [hd]))

/-- Parentheses are taken off a well-nested text only if it is in parentheses. -/
theorem WellNested.unwrap_eq (nested : WellNested cs) (bare : ¬InParentheses cs) :
    unwrap cs = trim cs := by
  rcases unwrap_cases cs with same | alone | wrapped
  · exact same
  · obtain ⟨before, after, hb, ha, split⟩ := exists_trim cs
    rw [alone, List.append_assoc] at split
    rw [split] at nested
    have opened : WellNested ('(' :: after) := (of_blanks hb).append_iff.1 nested
    rcases opened.cons_cases with ⟨bracket, -⟩ | ⟨quote, -⟩ | ⟨closer, inner, more, pair, rfl, -⟩
    · cases bracket
    · cases quote
    · cases pair
      exact absurd (ha ')' (by simp)) (by decide)
  · exact absurd wrapped bare

/-- A text of closed strings and properly nested brackets, with no backslash, no remark and no
parentheses around it, is cut at the separators that stand in nothing, and only there, if brackets
in quoted strings leave the brackets around them paired. The scan passes over each outermost pair of
brackets just when they do. -/
theorem split_of_wellNested (chosen : separators ⊆ memberSeparators) (nested : WellNested cs)
    (plain : '\\' ∉ cs) (unremarked : Unremarked cs) (bare : ¬InParentheses cs) :
    (EvenlyQuoted cs → split separators cs = (outerPieces separators outside cs).map trim) ∧
    ∀ before opener inner closer after, Encloses cs before opener inner closer after →
      (spanOffset (opener :: (inner ++ closer :: after)) = (inner ++ [closer]).length ↔
        Paired opener closer inner) := by
  have free := separating_of_subset chosen
  refine ⟨fun even => ?_, fun before opener inner closer after held =>
    spanOffset_pair_iff held.pair after⟩
  have fresh : (none : Option Char) = some '/' → cs.head? ≠ some '/' := nofun
  rw [split_eq_members, nested.unwrap_eq bare, members_trim, members_eq free,
    pieces_eq_outerPieces free nested ⟨plain, unremarked, even⟩ fresh]

end

/-! ## A text with brackets in strings and strings in brackets -/

/-- What two places of a text enclose. -/
def between (cs : List Char) (i j : Nat) : List Char := (cs.take j).drop (i + 1)

theorem eq_take_append_cons {cs : List Char} {i : Nat} (h : i < cs.length) :
    cs = cs.take i ++ cs[i] :: cs.drop (i + 1) := by
  rw [← List.drop_eq_getElem_cons h, List.take_append_drop]

/-- Outermost pairs of brackets are looked for at all pairs of places. -/
theorem evenlyQuoted_iff {cs : List Char} : EvenlyQuoted cs ↔
    ∀ j (hj : j < cs.length), ∀ i (hi : i < j), closerOf? cs[i] = some cs[j] →
      WellNested (cs.take i) → WellNested (between cs i j) →
        Paired cs[i] cs[j] (between cs i j) := by
  constructor
  · intro even j hj i hi pair outermost nested
    refine even (cs.take i) cs[i] (between cs i j) cs[j] (cs.drop (j + 1))
      ⟨?_, outermost, pair, nested⟩
    have front : cs.take j = cs.take i ++ cs[i] :: between cs i j := by
      have inside : i < (cs.take j).length := by
        rw [List.length_take]
        omega
      have split := eq_take_append_cons inside
      rwa [List.take_take, Nat.min_eq_left (Nat.le_of_lt hi), List.getElem_take] at split
    calc cs = cs.take j ++ cs[j] :: cs.drop (j + 1) := eq_take_append_cons hj
      _ = cs.take i ++ cs[i] :: (between cs i j ++ cs[j] :: cs.drop (j + 1)) := by
        rw [front, List.append_assoc, List.cons_append]
  · rintro all before opener inner closer after ⟨rfl, outermost, pair, nested⟩
    have inside : between (before ++ opener :: (inner ++ closer :: after)) before.length
        (before.length + (inner.length + 1)) = inner := by
      rw [between, List.take_length_add_append, List.take_succ_cons, List.take_left,
        ← List.drop_drop, List.drop_left]
      rfl
    have here := all (before.length + (inner.length + 1)) (by simp) before.length (by omega)
    simp only [inside, List.take_left, List.getElem_append_right (Nat.le_refl before.length),
      List.getElem_append_right (Nat.le_add_right before.length (inner.length + 1)),
      Nat.sub_self, Nat.add_sub_cancel_left, List.getElem_cons_zero, List.getElem_cons_succ,
      List.getElem_append_right (Nat.le_refl inner.length)] at here
    exact here pair outermost nested

instance (cs : List Char) : Decidable (EvenlyQuoted cs) := decidable_of_iff _ evenlyQuoted_iff.symm

/-- A type with strings in brackets and brackets in strings. -/
def quotedType : List Char := "A<'<|>', b>|'(x|'|[y:\"//\"]".toList

/-- A text is cut around its strings and brackets, also where strings hold paired brackets,
separators and slashes. -/
theorem split_of_wellNested_quoted :
    ['|', ',', ':'] ⊆ memberSeparators ∧ WellNested quotedType ∧ '\\' ∉ quotedType ∧
    Unremarked quotedType ∧ ¬InParentheses quotedType ∧ EvenlyQuoted quotedType ∧
    split ['|', ',', ':'] quotedType =
      ["A<'<|>', b>".toList, "'(x|'".toList, "[y:\"//\"]".toList] ∧
    Encloses quotedType "A".toList '<' "'<|>', b".toList '>' "|'(x|'|[y:\"//\"]".toList ∧
    spanOffset ('<' :: ("'<|>', b".toList ++ '>' :: "|'(x|'|[y:\"//\"]".toList)) =
      ("'<|>', b".toList ++ ['>']).length := by
  have chosen : ['|', ',', ':'] ⊆ memberSeparators := by decide
  have nested : WellNested quotedType := by decide
  have plain : '\\' ∉ quotedType := by decide
  have unremarked : Unremarked quotedType := by decide
  have bare : ¬InParentheses quotedType := by
    rintro ⟨inner, -, text⟩
    have start : (trim quotedType).head? = some '(' := congrArg List.head? text
    exact absurd start (by decide)
  have even : EvenlyQuoted quotedType := by decide
  have held : Encloses quotedType "A".toList '<' "'<|>', b".toList '>'
      "|'(x|'|[y:\"//\"]".toList := ⟨by decide, by decide, by decide, by decide⟩
  obtain ⟨cut, spans⟩ := split_of_wellNested chosen nested plain unremarked bare
  exact ⟨chosen, nested, plain, unremarked, bare, even, (cut even).trans (by decide), held,
    (spans _ _ _ _ _ held).2 (by decide)⟩

/-- A bracket in a string ends the brackets around it, or keeps them open. -/
example : WellNested "Array<'>'|string>|number".toList ∧
    split ['|'] "Array<'>'|string>|number".toList =
      ["Array<'>'".toList, "string>".toList, "number".toList] ∧
    WellNested "Array<'<'>|number|'>'".toList ∧
    split ['|'] "Array<'<'>|number|'>'".toList = ["Array<'<'>|number|'>'".toList] := by
  decide

end Docblock.Text
