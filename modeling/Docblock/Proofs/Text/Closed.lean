import Docblock.Proofs.Text.Nesting
import Docblock.Proofs.Text.Plain
import Docblock.Proofs.Text.Trim

/-!
# Closed texts

In a closed text the scan for separators meets no bracket or quote that is never closed and no
remark (`ClosedText`). Whatever follows such a text, the scan leaves it as it entered: the pieces of
a longer text are those of the closed text, the last one continued, and those of the rest
(`exists_seam`). Blanks on either side of a seam belong to no member (`members_append`).

Unlike a run, a closed text is told by the scan itself and may be cut, and being closed is
decidable. It is asked of the text in front of a separator only. An open bracket there would reach
into what follows, and so would a remark. Behind the separator everything may stand, since the scan
never looks back.

Members are compared before parentheses are taken off (`members`), because two texts in parentheses
with a separator between them are not a text in parentheses.
-/

namespace Docblock.Text

variable {separators cs rest blanks : List Char} {previous : Option Char} {skip : Nat}

/-! ## Spans that are closed -/

/-- A bracket or quote at the start of a text is closed in it. -/
def spanCloses : List Char → Bool
  | [] => true
  | c :: rest =>
    if (closerOf? c).isSome then (closingBracket? (c :: rest)).isSome
    else if isQuote c then (closingQuote? (c :: rest)).isSome
    else true

theorem closingFrom_append_of_some {opener closer : Char} {depth n : Nat}
    (ne : opener ≠ closer) (pos : 0 < depth) (h : closingFrom opener closer depth cs = some n)
    (more : List Char) : closingFrom opener closer depth (cs ++ more) = some n := by
  have here := (closingFrom_eq_some_iff ne pos).1 h
  have inside := here.inside
  refine (closingFrom_eq_some_iff ne pos).2 ⟨by simp; omega, fun m hm => ?_, ?_⟩
  · rw [List.take_append_of_le_length (by omega)]
    exact here.unclosed m hm
  · rw [List.take_append_of_le_length (by omega)]
    exact here.closed

theorem closingQuoteFrom_lt {quote before : Char} {n : Nat}
    (h : closingQuoteFrom quote before cs = some n) : n < cs.length := by
  induction cs generalizing before n with
  | nil => cases h
  | cons c cs ih =>
    rw [closingQuoteFrom] at h
    split at h
    · cases h
      exact Nat.succ_pos _
    · obtain ⟨m, hm, rfl⟩ := Option.map_eq_some_iff.1 h
      exact Nat.succ_lt_succ (ih hm)

theorem closingQuoteFrom_append_of_some {quote before : Char} {n : Nat}
    (h : closingQuoteFrom quote before cs = some n) (more : List Char) :
    closingQuoteFrom quote before (cs ++ more) = some n := by
  induction cs generalizing before n with
  | nil => cases h
  | cons c cs ih =>
    rw [closingQuoteFrom] at h
    rw [List.cons_append, closingQuoteFrom]
    split at h
    · rwa [if_pos (by assumption)]
    · obtain ⟨m, hm, rfl⟩ := Option.map_eq_some_iff.1 h
      rw [if_neg (by assumption), ih hm, Option.map_some]

/-- A span that is closed ends inside the text, whatever follows it. -/
theorem spanOffset_append {c : Char} (h : spanCloses (c :: rest) = true) (more : List Char) :
    spanOffset (c :: (rest ++ more)) = spanOffset (c :: rest) ∧
      spanOffset (c :: rest) ≤ rest.length := by
  rw [spanCloses] at h
  cases pair : closerOf? c with
  | some closer =>
    have ne := (closerOf?_disjoint pair pair).1
    rw [if_pos (by rw [pair]; rfl), closingBracket?_cons pair, Option.isSome_map] at h
    obtain ⟨n, hn⟩ := Option.isSome_iff_exists.1 h
    have inside := ((closingFrom_eq_some_iff ne (by decide)).1 hn).inside
    rw [spanOffset_of_opener pair, spanOffset_of_opener pair, hn,
      closingFrom_append_of_some ne (by decide) hn]
    exact ⟨rfl, inside⟩
  | none =>
    cases quote : isQuote c with
    | true =>
      rw [pair, if_neg (by simp), if_pos quote, closingQuote?, if_pos quote, Option.isSome_map] at h
      obtain ⟨n, hn⟩ := Option.isSome_iff_exists.1 h
      rw [spanOffset_of_quote quote, spanOffset_of_quote quote, hn,
        closingQuoteFrom_append_of_some hn]
      exact ⟨rfl, closingQuoteFrom_lt hn⟩
    | false =>
      rw [spanOffset_of_other pair quote, spanOffset_of_other pair quote]
      exact ⟨rfl, Nat.zero_le _⟩

/-! ## The seam behind a closed text -/

/-- The scan for separators comes to the end of a text without meeting a bracket or quote that is
never closed, or two slashes. The first `skip` characters belong to a span; `previous` is the
character that the scan met last. -/
def closedFrom : Nat → Option Char → List Char → Bool
  | _, _, [] => true
  | skip + 1, previous, _ :: rest => closedFrom skip previous rest
  | 0, previous, c :: rest =>
    !(c == '/' && previous == some '/') && spanCloses (c :: rest) &&
      closedFrom (spanOffset (c :: rest)) (some c) rest

/-- A text without a bracket or quote that is never closed, and without a remark, as far as the
scan for separators looks: what stands in brackets or quotes is passed over. -/
def ClosedText (cs : List Char) : Prop := closedFrom 0 none (trim cs) = true

instance (cs : List Char) : Decidable (ClosedText cs) := inferInstanceAs (Decidable (_ = _))

/-- Characters that can separate members: none of them opens a span, is blank or is a slash. -/
def Separating (separators : List Char) : Prop :=
  ∀ c ∈ separators, isBracket c = false ∧ isQuote c = false ∧ isBlank c = false ∧ c ≠ '/'

/-- Put a text in front of the first piece. -/
def prependPiece (text : List Char) : List (List Char) → List (List Char)
  | [] => [text]
  | piece :: more => (text ++ piece) :: more

theorem consPiece_append_prependPiece (c : Char) (init : List (List Char)) (last : List Char) :
    ∃ init' last', ∀ ps, consPiece c (init ++ prependPiece last ps) =
      init' ++ prependPiece last' ps := by
  cases init with
  | nil => exact ⟨[], c :: last, fun ps => by cases ps <;> rfl⟩
  | cons piece init => exact ⟨(c :: piece) :: init, last, fun ps => rfl⟩

/-- The scan leaves a closed text as it entered it: what follows continues the last piece. -/
theorem exists_seam (free : Separating separators) (closed : closedFrom skip previous cs = true)
    (inside : skip ≤ cs.length) : ∃ init last met, ∀ rest,
      pieces separators skip previous (cs ++ rest) =
        init ++ prependPiece last (pieces separators 0 met rest) := by
  induction cs generalizing skip previous with
  | nil =>
    obtain rfl : skip = 0 := Nat.le_zero.1 inside
    refine ⟨[], [], previous, fun rest => ?_⟩
    obtain ⟨piece, more, hp⟩ := List.exists_cons_of_ne_nil
      (pieces_ne_nil separators 0 previous rest)
    rw [List.nil_append, hp]
    rfl
  | cons c cs ih =>
    cases skip with
    | succ skip =>
      rw [closedFrom] at closed
      obtain ⟨init, last, met, seam⟩ := ih closed (Nat.le_of_succ_le_succ inside)
      obtain ⟨init', last', grown⟩ := consPiece_append_prependPiece c init last
      exact ⟨init', last', met, fun rest => by rw [List.cons_append, pieces, seam, grown]⟩
    | zero =>
      rw [closedFrom, Bool.and_eq_true, Bool.and_eq_true] at closed
      obtain ⟨⟨slashes, closes⟩, closed⟩ := closed
      have offset := spanOffset_append closes
      obtain ⟨init, last, met, seam⟩ := ih closed (offset []).2
      by_cases separator : c ∈ separators
      · -- A separator opens no span, so both scans go on right behind it.
        have alone : spanOffset (c :: cs) = 0 := by
          rw [spanOffset, closerOf?_eq_none (free c separator).1]
          simp [(free c separator).2.1]
        rw [alone] at seam
        refine ⟨[] :: init, last, met, fun rest => ?_⟩
        rw [List.cons_append, pieces, if_pos separator, seam]
        rfl
      · have skipped : ∀ rest, skipFrom previous (c :: (cs ++ rest)) = spanOffset (c :: cs) := by
          intro rest
          rw [skipFrom, if_neg, (offset rest).1]
          rintro ⟨slash, met⟩
          simp [slash, met] at slashes
        obtain ⟨init', last', grown⟩ := consPiece_append_prependPiece c init last
        refine ⟨init', last', met, fun rest => ?_⟩
        rw [List.cons_append, pieces, if_neg separator, skipped, seam, grown]

/-! ## Members on both sides of a separator -/

/-- A text without separators is one piece. -/
theorem pieces_eq_singleton (free : ∀ c ∈ cs, c ∉ separators) :
    pieces separators skip previous cs = [cs] := by
  induction cs generalizing skip previous with
  | nil => cases skip <;> rfl
  | cons c cs ih =>
    have rest : ∀ skip previous, pieces separators skip previous cs = [cs] :=
      fun _ _ => ih fun d hd => free d (by simp [hd])
    cases skip with
    | succ skip => rw [pieces, rest, consPiece]
    | zero => rw [pieces, if_neg (free c (by simp)), rest, consPiece]

/-- What was met last makes a difference only to a slash. -/
theorem pieces_previous {met : Option Char} (hp : previous ≠ some '/') (hm : met ≠ some '/') :
    pieces separators 0 previous cs = pieces separators 0 met cs := by
  cases cs with
  | nil => rfl
  | cons c cs =>
    have skipped : skipFrom previous (c :: cs) = skipFrom met (c :: cs) := by
      rw [skipFrom, skipFrom, if_neg (fun h => hp h.2), if_neg (fun h => hm h.2)]
    rw [pieces, pieces, skipped]

theorem not_mem_marks_of_isBlank {c : Char} (h : isBlank c = true) : c ∉ marks := by
  intro hm
  have solid : ∀ mark ∈ marks, isBlank mark = false := by decide
  rw [solid c hm] at h
  cases h

theorem pieces_blank (free : Separating separators) {c : Char} (blank : isBlank c = true)
    (cs : List Char) :
    pieces separators 0 previous (c :: cs) = consPiece c (pieces separators 0 (some c) cs) := by
  have mark := not_mem_marks_of_isBlank blank
  simp only [marks, List.mem_cons, List.not_mem_nil, or_false, not_or] at mark
  have within : c ∉ separators := fun hc => by simp [(free c hc).2.2.1] at blank
  have alone : skipFrom previous (c :: cs) = 0 := by
    have opens : closerOf? c = none := closerOf?_eq_none (by simp [isBracket, mark])
    simp [skipFrom, spanOffset, opens, isQuote, mark]
  rw [pieces, if_neg within, alone]

/-- Blanks go to the piece that they stand in front of. -/
theorem pieces_blanks_append (free : Separating separators) (hb : Blanks blanks)
    (hp : previous ≠ some '/') (cs : List Char) :
    pieces separators 0 previous (blanks ++ cs) =
      prependPiece blanks (pieces separators 0 none cs) := by
  obtain ⟨piece, more, hps⟩ := List.exists_cons_of_ne_nil (pieces_ne_nil separators 0 none cs)
  rw [hps, prependPiece]
  induction blanks generalizing previous with
  | nil =>
    have fresh : (none : Option Char) ≠ some '/' := by simp
    rw [List.nil_append, pieces_previous hp fresh, hps, List.nil_append]
  | cons c blanks ih =>
    have blank : isBlank c = true := hb c (by simp)
    have slash : some c ≠ some '/' := by
      rintro ⟨⟩
      exact absurd blank (by decide)
    rw [List.cons_append, pieces_blank free blank, ih (fun d hd => hb d (by simp [hd])) slash]
    rfl

/-- Blanks before a separator end the piece that they follow. -/
theorem pieces_blanks_separator (free : Separating separators) (hb : Blanks blanks) {s : Char}
    (hs : s ∈ separators) (cs : List Char) :
    pieces separators 0 previous (blanks ++ s :: cs) =
      blanks :: pieces separators 0 (some s) cs := by
  induction blanks generalizing previous with
  | nil => rw [List.nil_append, pieces, if_pos hs]
  | cons c blanks ih =>
    rw [List.cons_append, pieces_blank free (hb c (by simp)), ih fun d hd => hb d (by simp [hd])]
    rfl

theorem map_trim_prependPiece (hb : Blanks blanks) {ps : List (List Char)} (ne : ps ≠ []) :
    (prependPiece blanks ps).map trim = ps.map trim := by
  obtain ⟨piece, more, rfl⟩ := List.exists_cons_of_ne_nil ne
  rw [prependPiece, List.map_cons, List.map_cons, trim_blanks_append hb]

/-- The trimmed members of a text. Unlike `split`, no parentheses are taken off first. -/
def members (separators cs : List Char) : List (List Char) :=
  (pieces separators 0 none (trim cs)).map trim

theorem members_trim (cs : List Char) : members separators (trim cs) = members separators cs := by
  rw [members, members, trim_trim]

theorem exists_of_consPiece_eq_cons {c : Char} {ps more : List (List Char)} {piece : List Char}
    (h : consPiece c ps = piece :: more) (ne : ps ≠ []) :
    ∃ rest, ps = rest :: more ∧ piece = c :: rest := by
  obtain ⟨first, others, rfl⟩ := List.exists_cons_of_ne_nil ne
  simp only [consPiece, List.cons.injEq] at h
  exact ⟨first, by rw [h.2], h.1.symm⟩

/-- A text that is not cut is its own only piece. -/
theorem eq_of_pieces_eq_singleton {piece : List Char}
    (h : pieces separators skip previous cs = [piece]) : piece = cs := by
  induction cs generalizing skip previous piece with
  | nil =>
    cases skip <;>
    · rw [pieces] at h
      cases h
      rfl
  | cons c cs ih =>
    cases skip with
    | succ skip =>
      rw [pieces] at h
      obtain ⟨rest, hr, rfl⟩ := exists_of_consPiece_eq_cons h (pieces_ne_nil _ _ _ _)
      rw [ih hr]
    | zero =>
      rw [pieces] at h
      split at h
      · simp [pieces_ne_nil] at h
      · obtain ⟨rest, hr, rfl⟩ := exists_of_consPiece_eq_cons h (pieces_ne_nil _ _ _ _)
        rw [ih hr]

theorem members_of_uncut (uncut : ¬1 < (members separators cs).length) :
    members separators cs = [trim cs] := by
  obtain ⟨piece, more, hp⟩ := List.exists_cons_of_ne_nil (pieces_ne_nil separators 0 none (trim cs))
  rw [members, hp] at uncut ⊢
  obtain rfl : more = [] := by
    cases more with
    | nil => rfl
    | cons => simp at uncut
  rw [eq_of_pieces_eq_singleton hp, List.map_singleton, trim_trim]

theorem unwrap_trim (cs : List Char) : unwrap (trim cs) = unwrap cs := by
  unfold unwrap
  rw [trim_trim]

/-- The members of a text are those of what stands between its parentheses. -/
theorem split_eq_members (cs : List Char) : split separators cs = members separators (unwrap cs) := by
  have tight : trim (unwrap cs) = unwrap cs := by
    unfold unwrap
    dsimp only
    split <;> exact trim_trim _
  rw [split, members, tight]

/-- Two texts with a separator between them have the members of both. -/
theorem members_append (free : Separating separators) {s : Char} (hs : s ∈ separators)
    {a : List Char} (closed : ClosedText a) (b : List Char) :
    members separators (a ++ s :: b) = members separators a ++ members separators b := by
  obtain ⟨after, ha, start⟩ := exists_trimEnd (trimStart a)
  obtain ⟨before, hb, stop⟩ := exists_blanks_trimEnd b
  obtain ⟨-, -, blank, slash⟩ := free s hs
  have head : ∀ c ∈ (s :: b).head?, isBlank c = false := by
    rintro c ⟨⟩
    exact blank
  have text : trim (a ++ s :: b) = trim a ++ (after ++ s :: (before ++ trim b)) := by
    rw [trim, trimStart_append_of_head head, trimEnd_append_cons blank, stop, start,
      List.append_assoc, ← trim]
  obtain ⟨init, last, met, seam⟩ := exists_seam free closed (Nat.zero_le _)
  have alone : pieces separators 0 none (trim a) = init ++ [last] := by
    have := seam []
    rwa [List.append_nil, pieces, prependPiece, List.append_nil] at this
  unfold members
  rw [text, seam, alone, pieces_blanks_separator free ha hs, prependPiece,
    pieces_blanks_append free hb (by simpa using slash), List.map_append, List.map_cons,
    map_trim_prependPiece hb (pieces_ne_nil _ _ _ _), trim_append_blanks last ha]
  simp

end Docblock.Text
