import Docblock.Proofs.Text.Nesting
import Docblock.Text.Remark
import Docblock.Text.Split

/-!
# Texts that the scanners pass over

A scan for a closing bracket passes over a text that is balanced in every kind of bracket
(`Balanced`). A scan for separators or remarks passes over a text that is a run of single characters
and of closed spans, none of which begins with a separator or a slash (`Run`). The texts that are
joined by separators are then the pieces that splitting finds (`Joined`).

Both notions are about what a scan does in front of any rest, not about the text alone. So they are
kept when texts are put one after the other, and a printed type is known to be passed over as soon
as its parts are. That is what the theorems about printed types and filters build on, and it is
enough for them. Which texts are runs is not characterized: a text with an open bracket in it may be
passed over as well, and is treated where texts are not printed but given.
-/

namespace Docblock.Text

/-! ## Brackets -/

/-- A bracket of either side. -/
def isBracket (c : Char) : Bool := ['(', ')', '[', ']', '<', '>', '{', '}'].contains c

theorem closerOf?_eq_some {opener closer : Char} :
    closerOf? opener = some closer ↔
      (opener = '(' ∧ closer = ')') ∨ (opener = '[' ∧ closer = ']') ∨
        (opener = '<' ∧ closer = '>') ∨ (opener = '{' ∧ closer = '}') := by
  constructor
  · intro h
    unfold closerOf? at h
    split at h
    · exact .inl ⟨by assumption, (Option.some.inj h).symm⟩
    · split at h
      · exact .inr (.inl ⟨by assumption, (Option.some.inj h).symm⟩)
      · split at h
        · exact .inr (.inr (.inl ⟨by assumption, (Option.some.inj h).symm⟩))
        · split at h
          · exact .inr (.inr (.inr ⟨by assumption, (Option.some.inj h).symm⟩))
          · cases h
  · rintro (⟨rfl, rfl⟩ | ⟨rfl, rfl⟩ | ⟨rfl, rfl⟩ | ⟨rfl, rfl⟩) <;> rfl

theorem isBracket_of_closerOf? {opener closer : Char} (h : closerOf? opener = some closer) :
    isBracket opener = true ∧ isBracket closer = true := by
  rcases closerOf?_eq_some.1 h with ⟨rfl, rfl⟩ | ⟨rfl, rfl⟩ | ⟨rfl, rfl⟩ | ⟨rfl, rfl⟩ <;>
    exact ⟨rfl, rfl⟩

theorem closerOf?_eq_none {c : Char} (h : isBracket c = false) : closerOf? c = none := by
  cases hc : closerOf? c with
  | none => rfl
  | some closer =>
    rw [(isBracket_of_closerOf? hc).1] at h
    cases h

/-- Brackets of two kinds share no character. -/
theorem closerOf?_disjoint {a b c d : Char} (hab : closerOf? a = some b)
    (hcd : closerOf? c = some d) : a ≠ d ∧ (a ≠ c → b ≠ d ∧ b ≠ c) := by
  rcases closerOf?_eq_some.1 hab with ⟨rfl, rfl⟩ | ⟨rfl, rfl⟩ | ⟨rfl, rfl⟩ | ⟨rfl, rfl⟩ <;>
    rcases closerOf?_eq_some.1 hcd with ⟨rfl, rfl⟩ | ⟨rfl, rfl⟩ | ⟨rfl, rfl⟩ | ⟨rfl, rfl⟩ <;>
    decide

/-- A scan for the closing bracket of any kind passes over the text. -/
def Balanced (w : List Char) : Prop :=
  ∀ opener closer, closerOf? opener = some closer → ∀ depth rest,
    closingFrom opener closer (depth + 1) (w ++ rest) =
      (closingFrom opener closer (depth + 1) rest).map (· + w.length)

namespace Balanced

theorem nil : Balanced [] := by
  intro opener closer pair depth rest
  simp

theorem append {v w : List Char} (hv : Balanced v) (hw : Balanced w) : Balanced (v ++ w) := by
  intro opener closer pair depth rest
  rw [List.append_assoc, hv opener closer pair, hw opener closer pair, Option.map_map,
    List.length_append]
  congr 1
  funext n
  simp only [Function.comp]
  omega

theorem cons {c : Char} {w : List Char} (hc : isBracket c = false) (hw : Balanced w) :
    Balanced (c :: w) := by
  intro opener closer pair depth rest
  have brackets := isBracket_of_closerOf? pair
  have ho : c ≠ opener := by
    rintro rfl
    rw [brackets.1] at hc
    cases hc
  have hcl : c ≠ closer := by
    rintro rfl
    rw [brackets.2] at hc
    cases hc
  rw [List.cons_append, closingFrom, if_neg ho, if_neg hcl, hw opener closer pair, Option.map_map]
  congr 1

theorem of_all {w : List Char} (h : ∀ c ∈ w, isBracket c = false) : Balanced w := by
  induction w with
  | nil => exact nil
  | cons c rest ih => exact cons (h c (by simp)) (ih fun d hd => h d (by simp [hd]))

/-- A balanced text in brackets. -/
theorem wrap {o c : Char} {w : List Char} (pair : closerOf? o = some c) (hw : Balanced w) :
    Balanced (o :: (w ++ [c])) := by
  intro opener closer pair' depth rest
  rw [List.cons_append, List.append_assoc, closingFrom]
  by_cases ho : o = opener
  · subst ho
    rw [pair] at pair'
    cases pair'
    have hne := (closerOf?_disjoint pair pair).1
    rw [if_pos rfl, hw o c pair (depth + 1), List.singleton_append, closingFrom,
      if_neg hne.symm, if_pos rfl, if_neg (by omega), Option.map_map, Option.map_map,
      Nat.add_sub_cancel]
    congr 1
    funext n
    simp only [Function.comp, List.length_cons, List.length_append, List.length_nil]
    omega
  · have hoc := (closerOf?_disjoint pair pair').1
    obtain ⟨hcc, hco⟩ := (closerOf?_disjoint pair pair').2 ho
    rw [if_neg ho, if_neg hoc, hw opener closer pair', List.singleton_append, closingFrom,
      if_neg hco, if_neg hcc, Option.map_map, Option.map_map]
    congr 1
    funext n
    simp only [Function.comp, List.length_cons, List.length_append, List.length_nil]
    omega

end Balanced

/-- The span of a balanced text in brackets ends at the closing one. -/
theorem spanOffset_bracket {o c : Char} {w : List Char} (pair : closerOf? o = some c)
    (hw : Balanced w) (after : List Char) :
    spanOffset (o :: (w ++ [c] ++ after)) = (w ++ [c]).length := by
  have hne := (closerOf?_disjoint pair pair).1
  have closing : closingFrom o c 1 (w ++ [c] ++ after) = some w.length := by
    rw [List.append_assoc, hw o c pair 0, List.singleton_append, closingFrom, if_neg hne.symm,
      if_pos rfl, if_pos (by omega)]
    simp
  rw [spanOffset_of_opener pair, closing]
  simp

theorem isBlank_of_isQuote {q : Char} (h : isQuote q = true) : isBlank q = false := by
  simp only [isQuote, Bool.or_eq_true, beq_iff_eq] at h
  rcases h with (rfl | rfl) | rfl <;> rfl

/-- The span of a quoted text ends at the closing quote. -/
theorem spanOffset_quoted {q : Char} {w : List Char} (quote : isQuote q = true)
    (free : ∀ c ∈ w, c ≠ q ∧ c ≠ '\\') (after : List Char) :
    spanOffset (q :: (w ++ [q] ++ after)) = (w ++ [q]).length := by
  have unescaped : q ≠ '\\' := by
    rintro rfl
    cases quote
  have closing : ∀ previous, previous ≠ '\\' →
      closingQuoteFrom q previous (w ++ [q] ++ after) = some w.length := by
    induction w with
    | nil =>
      intro previous hp
      rw [List.nil_append, List.singleton_append, closingQuoteFrom, if_pos ⟨rfl, hp⟩]
      rfl
    | cons c rest ih =>
      intro previous hp
      have hc := free c (by simp)
      rw [List.cons_append, List.cons_append, closingQuoteFrom, if_neg (fun h => hc.1 h.1),
        ih (fun d hd => free d (by simp [hd])) c hc.2]
      simp
  rw [spanOffset_of_quote quote, closing q unescaped]
  simp

/-! ## Runs -/

/-- A text of single characters and of closed spans, none of which begins with one of some
characters or with a slash. -/
inductive Run (stops : List Char) : List Char → Prop
  | nil : Run stops []
  | cons {c : Char} {span rest : List Char} (free : c ∉ stops) (slash : c ≠ '/')
      (spans : ∀ after, spanOffset (c :: (span ++ after)) = span.length) (run : Run stops rest) :
      Run stops (c :: (span ++ rest))

namespace Run

variable {stops : List Char} {v w : List Char}

theorem append (hv : Run stops v) (hw : Run stops w) : Run stops (v ++ w) := by
  induction hv with
  | nil => exact hw
  | cons free slash spans run ih =>
    rw [List.cons_append, List.append_assoc]
    exact .cons free slash spans ih

theorem mono {fewer : List Char} (h : Run stops w) (hs : ∀ c ∈ fewer, c ∈ stops) :
    Run fewer w := by
  induction h with
  | nil => exact .nil
  | cons free slash spans run ih => exact .cons (fun hc => free (hs _ hc)) slash spans ih

/-- A character that opens no span. -/
theorem single {c : Char} (free : c ∉ stops) (slash : c ≠ '/') (bracket : isBracket c = false)
    (quote : isQuote c = false) (hw : Run stops w) : Run stops (c :: w) := by
  have spans : ∀ after, spanOffset (c :: ([] ++ after)) = 0 :=
    fun after => spanOffset_of_other (closerOf?_eq_none bracket) quote after
  exact .cons free slash spans hw

theorem bracket {o c : Char} (pair : closerOf? o = some c) (free : o ∉ stops)
    (hw : Balanced w) : Run stops (o :: (w ++ [c])) := by
  have slash : o ≠ '/' := by
    rintro rfl
    cases pair
  have h := Run.cons free slash (spanOffset_bracket pair hw) Run.nil
  rwa [List.append_nil] at h

theorem quoted {q : Char} (quote : isQuote q = true) (stop : q ∉ stops)
    (free : ∀ c ∈ w, c ≠ q ∧ c ≠ '\\') : Run stops (q :: (w ++ [q])) := by
  have slash : q ≠ '/' := by
    rintro rfl
    cases quote
  have h := Run.cons stop slash (spanOffset_quoted quote free) Run.nil
  rwa [List.append_nil] at h

end Run

/-! ## Pieces -/

/-- What is skipped of a text belongs to the piece that it stands in. -/
theorem pieces_span {separators span rest piece : List Char} {more : List (List Char)} {skip : Nat}
    {previous : Option Char} (h : pieces separators skip previous rest = piece :: more) :
    pieces separators (span.length + skip) previous (span ++ rest) = (span ++ piece) :: more := by
  induction span with
  | nil => rwa [List.nil_append, List.nil_append, List.length_nil, Nat.zero_add]
  | cons c span ih =>
    rw [List.cons_append, List.length_cons, Nat.add_right_comm, pieces, ih]
    rfl

theorem pieces_run {separators w piece : List Char} {more : List (List Char)}
    (hw : Run separators w) (rest : List Char)
    (h : ∀ previous, pieces separators 0 previous rest = piece :: more) (previous : Option Char) :
    pieces separators 0 previous (w ++ rest) = (w ++ piece) :: more := by
  induction hw generalizing previous with
  | nil => exact h previous
  | @cons c span tail free slash spans run ih =>
    have skip : skipFrom previous (c :: (span ++ (tail ++ rest))) = span.length := by
      rw [skipFrom, if_neg (fun hc => slash hc.1)]
      exact spans _
    rw [List.cons_append, List.append_assoc, pieces, if_neg free, skip,
      ← Nat.add_zero span.length, pieces_span (ih (some c))]
    simp [consPiece]

/-- Runs with separators between them, and the runs. -/
inductive Joined (separators : List Char) : List Char → List (List Char) → Prop
  | one {w : List Char} (run : Run separators w) : Joined separators w [w]
  | more {w rest : List Char} {c : Char} {texts : List (List Char)} (run : Run separators w)
      (separator : c ∈ separators) (joined : Joined separators rest texts) :
      Joined separators (w ++ c :: rest) (w :: texts)

theorem Joined.pieces_eq {separators cs : List Char} {texts : List (List Char)}
    (h : Joined separators cs texts) (previous : Option Char) :
    pieces separators 0 previous cs = texts := by
  induction h generalizing previous with
  | @one w run =>
    have h := pieces_run run [] (fun _ => by rw [pieces]) previous
    rwa [List.append_nil] at h
  | @more w rest c texts run separator joined ih =>
    have h := pieces_run run (c :: rest) (fun _ => by rw [pieces, if_pos separator, ih]) previous
    rwa [List.append_nil] at h

/-! ## Remarks -/

theorem splitTrailing_span {span rest before : List Char} {remark : Option (List Char)}
    (h : splitTrailing 0 rest = (before, remark)) :
    splitTrailing span.length (span ++ rest) = (span ++ before, remark) := by
  induction span with
  | nil => exact h
  | cons c span ih =>
    rw [List.cons_append, List.length_cons, splitTrailing, ih]
    rfl

/-- No remark stands in a run. -/
theorem splitTrailing_run {stops w : List Char} (hw : Run stops w) :
    splitTrailing 0 w = (w, none) := by
  induction hw with
  | nil => rw [splitTrailing]
  | @cons c span tail free slash spans run ih =>
    rw [splitTrailing, if_neg (fun hc => slash hc.1), spans, splitTrailing_span ih]

/-! ## The ends of a text -/

theorem head?_append_left {v : List Char} (h : v ≠ []) (w : List Char) :
    (v ++ w).head? = v.head? := by
  cases v with
  | nil => exact absurd rfl h
  | cons c rest => rfl

theorem getLast?_append_right (v : List Char) {w : List Char} (h : w ≠ []) :
    (v ++ w).getLast? = w.getLast? := by
  rw [List.getLast?_append]
  cases hw : w.getLast? with
  | none => exact absurd (List.getLast?_eq_none_iff.1 hw) h
  | some c => rfl

/-- A text that neither begins nor ends with a blank. -/
structure Tight (w : List Char) : Prop where
  starts : ∀ c ∈ w.head?, isBlank c = false
  ends : ∀ c ∈ w.getLast?, isBlank c = false

theorem trimStart_append (blanks : List Char) {w : List Char} (hb : ∀ c ∈ blanks, isBlank c = true)
    (hw : ∀ c ∈ w.head?, isBlank c = false) : trimStart (blanks ++ w) = w := by
  unfold trimStart
  rw [List.dropWhile_append_of_pos hb]
  cases w with
  | nil => rfl
  | cons c rest =>
    rw [List.dropWhile_cons_of_neg]
    simp [hw c (by simp)]

/-- Trimming takes the blanks around a tight text away, and nothing else. -/
theorem trim_append (before : List Char) {w : List Char} (hb : ∀ c ∈ before, isBlank c = true)
    (hw : Tight w) : trim (before ++ w) = w := by
  unfold trim
  rw [trimStart_append before hb hw.starts]
  unfold trimEnd
  have ends : ∀ c ∈ w.reverse.head?, isBlank c = false := by
    rw [List.head?_reverse]
    exact hw.ends
  have h := trimStart_append [] (by simp) ends
  rw [List.nil_append, trimStart] at h
  rw [h, List.reverse_reverse]

theorem Tight.trim_eq {w : List Char} (hw : Tight w) : trim w = w :=
  trim_append [] (by simp) hw

/-- A text between two characters that are not blank. -/
theorem Tight.between {b e : Char} (hb : isBlank b = false) (he : isBlank e = false)
    (w : List Char) : Tight (b :: (w ++ [e])) where
  starts c hc := by
    cases hc
    exact hb
  ends c hc := by
    rw [← List.cons_append, getLast?_append_right _ (List.cons_ne_nil e [])] at hc
    cases hc
    exact he

end Docblock.Text
