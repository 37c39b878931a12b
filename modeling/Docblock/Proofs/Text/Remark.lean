import Docblock.Proofs.Text.Paired

/-!
# Remarks in a text

A remark is two slashes and the rest of their line (`remark`). The scan for separators passes over
it to the end of the line, whatever stands in it (`passed_remark`), so a remark never cuts a text.
It is peeled off the start of a text (`leadingRemark?_remark`) or the end (`trailingRemark_remark`),
and what is left of it is its line without the blanks around it.

At the start, the lemmas are about one remark and what stands on the lines after it. Several in a
row are joined to one text by the same definitions, which nothing proved here needs. At the end of a
text the scan has to find the slashes first, so the text in front must be a run; slashes inside a
quoted string are no remark, and a run says just that.
-/

namespace Docblock.Text

variable {separators stops cs line blanks w : List Char} {previous : Option Char}

/-- Two slashes and the rest of their line. -/
def remark (line : List Char) : List Char := '/' :: '/' :: line

/-! ## Where a line ends -/

theorem idxOf?_newline (free : '\n' ∉ line) (rest : List Char) :
    (line ++ '\n' :: rest).idxOf? '\n' = some line.length := by
  induction line with
  | nil => rfl
  | cons c line ih =>
    have other : ¬(c == '\n') = true := by
      rw [beq_iff_eq]
      exact fun same => free (by simp [same])
    rw [List.cons_append, List.idxOf?_cons, if_neg other, ih fun hm => free (by simp [hm])]
    rfl

theorem lineEnd_newline (free : '\n' ∉ line) (rest : List Char) :
    (lineEnd (line ++ '\n' :: rest) 0).toNat = line.length := by
  rw [lineEnd, List.drop_zero, idxOf?_newline free]
  rfl

theorem lineEnd_last (free : '\n' ∉ cs) : (lineEnd cs 0).toNat = cs.length - 1 := by
  rw [lineEnd, List.drop_zero, List.idxOf?_eq_none_iff.2 free]
  simp

/-! ## Texts that are never cut

Both what the scan met before and what follows are arbitrary here, so texts that are never cut can
be put in a row. -/

/-- The scan for separators does not cut a text, whatever it met before and whatever follows. -/
def Passed (separators w : List Char) : Prop :=
  ∀ previous rest, ∃ met, pieces separators 0 previous (w ++ rest) =
    prependPiece w (pieces separators 0 met rest)

theorem prependPiece_prependPiece (v w : List Char) (ps : List (List Char)) :
    prependPiece v (prependPiece w ps) = prependPiece (v ++ w) ps := by
  cases ps <;> simp [prependPiece]

theorem consPiece_eq (c : Char) (ps : List (List Char)) : consPiece c ps = prependPiece [c] ps := by
  cases ps <;> rfl

theorem pieces_prepend (w : List Char) (skip : Nat) (rest : List Char) :
    pieces separators (w.length + skip) previous (w ++ rest) =
      prependPiece w (pieces separators skip previous rest) := by
  obtain ⟨piece, more, here⟩ := List.exists_cons_of_ne_nil
    (pieces_ne_nil separators skip previous rest)
  rw [pieces_span here, here, prependPiece]

namespace Passed

theorem append {v : List Char} (hv : Passed separators v) (hw : Passed separators w) :
    Passed separators (v ++ w) := by
  intro previous rest
  obtain ⟨met, first⟩ := hv previous (w ++ rest)
  obtain ⟨met', second⟩ := hw met rest
  exact ⟨met', by rw [List.append_assoc, first, second, prependPiece_prependPiece]⟩

theorem of_run (h : Run separators w) : Passed separators w := by
  induction h with
  | nil =>
    intro previous rest
    refine ⟨previous, ?_⟩
    obtain ⟨piece, more, hp⟩ := List.exists_cons_of_ne_nil (pieces_ne_nil separators 0 previous rest)
    rw [List.nil_append, hp]
    rfl
  | @cons c span tail free slash spans run ih =>
    intro previous rest
    obtain ⟨met, all⟩ := ih (some c) rest
    have skip : skipFrom previous (c :: (span ++ (tail ++ rest))) = span.length := by
      rw [skipFrom, if_neg fun hc => slash hc.1]
      exact spans _
    refine ⟨met, ?_⟩
    rw [List.cons_append, List.append_assoc, pieces, if_neg free, skip,
      ← Nat.add_zero span.length, pieces_prepend, all, prependPiece_prependPiece,
      consPiece_eq, prependPiece_prependPiece]
    rfl

/-- A text that is not cut is a piece of its own. -/
theorem pieces_eq (h : Passed separators w) : pieces separators 0 previous w = [w] := by
  obtain ⟨met, all⟩ := h previous []
  rw [List.append_nil] at all
  rw [all, pieces, prependPiece, List.append_nil]

/-- A separator ends the piece before it. -/
theorem pieces_separator (h : Passed separators w) {s : Char} (hs : s ∈ separators)
    (rest : List Char) : pieces separators 0 previous (w ++ s :: rest) =
      w :: pieces separators 0 (some s) rest := by
  obtain ⟨met, all⟩ := h previous (s :: rest)
  rw [all, pieces, if_pos hs, prependPiece, List.append_nil]

end Passed

theorem passed_blanks (free : Separating separators) (hb : Blanks blanks) :
    Passed separators blanks := by
  have run : Run separators blanks := by
    induction blanks with
    | nil => exact .nil
    | cons c blanks ih =>
      have blank : isBlank c = true := hb c (by simp)
      have mark := not_mem_marks_of_isBlank blank
      simp only [marks, List.mem_cons, List.not_mem_nil, or_false, not_or] at mark
      refine .single (fun hc => ?_) mark.2.2.2.2.2.2.2.2.2.2.2.1 (by simp [isBracket, mark])
        (by simp [isQuote, mark]) (ih fun d hd => hb d (by simp [hd]))
      rw [(free c hc).2.2.1] at blank
      cases blank
  exact .of_run run

/-- Behind a slash another one skips what is left of the line. -/
theorem pieces_second_slash (free : '/' ∉ separators) (one : '\n' ∉ line) (rest : List Char) :
    pieces separators 0 (some '/') ('/' :: (line ++ '\n' :: rest)) =
      prependPiece ('/' :: line ++ ['\n']) (pieces separators 0 (some '/') rest) := by
  have slash : '\n' ∉ '/' :: line := by simpa using one
  have skip : skipFrom (some '/') ('/' :: (line ++ '\n' :: rest)) =
      (line ++ ['\n']).length + 0 := by
    rw [skipFrom, if_pos ⟨rfl, rfl⟩, ← List.cons_append, lineEnd_newline slash]
    simp
  rw [pieces, if_neg free, skip, List.append_cons line '\n' rest, pieces_prepend, consPiece_eq,
    prependPiece_prependPiece]
  rfl

/-- A remark is passed over with the end of its line. -/
theorem passed_remark (free : '/' ∉ separators) (one : '\n' ∉ line) :
    Passed separators (remark line ++ ['\n']) := by
  intro previous rest
  refine ⟨some '/', ?_⟩
  rw [remark, List.append_assoc, List.cons_append, List.cons_append, List.singleton_append]
  by_cases met : previous = some '/'
  · -- The slash that was met last makes a remark with the first of these two.
    rw [met]
    have slashed : '\n' ∉ '/' :: line := by simpa using one
    exact pieces_second_slash free slashed rest
  · have alone : skipFrom previous ('/' :: '/' :: (line ++ '\n' :: rest)) = 0 := by
      rw [skipFrom, if_neg fun h => met h.2]
      rfl
    rw [pieces, if_neg free, alone, pieces_second_slash free one, consPiece_eq,
      prependPiece_prependPiece]
    rfl

/-! ## Blanks at the end -/

theorem closingQuoteFrom_eq_none {quote before : Char} (free : quote ∉ cs) :
    closingQuoteFrom quote before cs = none := by
  induction cs generalizing before with
  | nil => rfl
  | cons c cs ih =>
    have other : c ≠ quote := fun same => free (by simp [same])
    rw [closingQuoteFrom, if_neg fun h => other h.1, ih fun hm => free (by simp [hm])]
    rfl

theorem closingQuoteFrom_append {quote before : Char} {more : List Char} (free : quote ∉ more)
    (cs : List Char) :
    closingQuoteFrom quote before (cs ++ more) = closingQuoteFrom quote before cs := by
  induction cs generalizing before with
  | nil => exact closingQuoteFrom_eq_none free
  | cons c cs ih => rw [List.cons_append, closingQuoteFrom, closingQuoteFrom, ih]

theorem spanOffset_append_blanks (hb : Blanks blanks) (c : Char) (cs : List Char) :
    spanOffset (c :: (cs ++ blanks)) = spanOffset (c :: cs) := by
  cases pair : closerOf? c with
  | some closer =>
    have solid : isBlank c = false ∧ isBlank closer = false := by
      rcases closerOf?_eq_some.1 pair with ⟨rfl, rfl⟩ | ⟨rfl, rfl⟩ | ⟨rfl, rfl⟩ | ⟨rfl, rfl⟩ <;>
        decide
    rw [spanOffset_of_opener pair, spanOffset_of_opener pair,
      closingFrom_append (hb.not_mem solid.1) (hb.not_mem solid.2)]
  | none =>
    cases quote : isQuote c with
    | true =>
      rw [spanOffset_of_quote quote, spanOffset_of_quote quote,
        closingQuoteFrom_append (hb.not_mem (isBlank_of_isQuote quote))]
    | false => rw [spanOffset_of_other pair quote, spanOffset_of_other pair quote]

/-- What is skipped is the same in front of blanks, or all of the text. -/
theorem skipFrom_append_blanks (hb : Blanks blanks) (previous : Option Char) (c : Char)
    (cs : List Char) :
    skipFrom previous (c :: (cs ++ blanks)) = skipFrom previous (c :: cs) ∨
      cs.length ≤ skipFrom previous (c :: (cs ++ blanks)) ∧
        cs.length ≤ skipFrom previous (c :: cs) := by
  by_cases remark : c = '/' ∧ previous = some '/'
  · rw [skipFrom, skipFrom, if_pos remark, if_pos remark]
    by_cases inside : '\n' ∈ c :: cs
    · obtain ⟨line, rest, split, one⟩ := List.eq_append_cons_of_mem inside
      rw [← List.cons_append, split, List.append_assoc, List.cons_append, lineEnd_newline one,
        lineEnd_newline one]
      exact .inl rfl
    · refine .inr ⟨?_, by rw [lineEnd_last inside]; simp⟩
      by_cases after : '\n' ∈ blanks
      · obtain ⟨line, rest, rfl, one⟩ := List.eq_append_cons_of_mem after
        have free : '\n' ∉ c :: cs ++ line := fun hm => (List.mem_append.1 hm).elim inside one
        rw [← List.cons_append, ← List.append_assoc, lineEnd_newline free]
        simp only [List.length_append, List.length_cons]
        omega
      · have free : '\n' ∉ c :: cs ++ blanks := fun hm => (List.mem_append.1 hm).elim inside after
        rw [← List.cons_append, lineEnd_last free]
        simp
  · rw [skipFrom, skipFrom, if_neg remark, if_neg remark, spanOffset_append_blanks hb]
    exact .inl rfl

/-- What is skipped is one piece with what follows it, if no separator stands there. -/
theorem pieces_of_length_le {skip : Nat} {more : List Char} (enough : w.length ≤ skip)
    (free : ∀ c ∈ more, c ∉ separators) :
    pieces separators skip previous (w ++ more) = [w ++ more] := by
  obtain ⟨left, rfl⟩ := Nat.exists_eq_add_of_le enough
  rw [pieces_prepend, pieces_eq_singleton free, prependPiece]

/-- The same pieces, but for what stands behind the last. -/
def Lengthened (more : List Char) (shorter longer : List (List Char)) : Prop :=
  ∃ init last, shorter = init ++ [last] ∧ longer = init ++ [last ++ more]

theorem Lengthened.consPiece {more : List Char} {shorter longer : List (List Char)}
    (h : Lengthened more shorter longer) (c : Char) :
    Lengthened more (consPiece c shorter) (consPiece c longer) := by
  obtain ⟨init, last, rfl, rfl⟩ := h
  cases init with
  | nil => exact ⟨[], c :: last, rfl, rfl⟩
  | cons piece init => exact ⟨(c :: piece) :: init, last, rfl, rfl⟩

/-- Blanks behind a text go on with its last piece. -/
theorem lengthened_pieces (free : Separating separators) (hb : Blanks blanks) (cs : List Char)
    (skip : Nat) (previous : Option Char) :
    Lengthened blanks (pieces separators skip previous cs)
      (pieces separators skip previous (cs ++ blanks)) := by
  have within : ∀ c ∈ blanks, c ∉ separators := by
    intro c hc hs
    have blank := hb c hc
    rw [(free c hs).2.2.1] at blank
    cases blank
  induction cs generalizing skip previous with
  | nil =>
    refine ⟨[], [], by cases skip <;> rfl, ?_⟩
    rw [List.nil_append, pieces_eq_singleton within]
    rfl
  | cons c cs ih =>
    cases skip with
    | succ skip => exact (ih skip previous).consPiece c
    | zero =>
      rw [List.cons_append, pieces, pieces]
      by_cases separator : c ∈ separators
      · obtain ⟨init, last, here, longer⟩ := ih 0 (some c)
        rw [if_pos separator, if_pos separator, here, longer]
        exact ⟨[] :: init, last, rfl, rfl⟩
      · rw [if_neg separator, if_neg separator]
        rcases skipFrom_append_blanks hb previous c cs with same | ⟨long, longer⟩
        · rw [same]
          exact (ih _ _).consPiece c
        · have alone : pieces separators (skipFrom previous (c :: cs)) (some c) (cs ++ []) =
              [cs ++ []] := pieces_of_length_le longer (by simp)
          rw [List.append_nil] at alone
          rw [alone, pieces_of_length_le long within]
          exact ⟨[], c :: cs, rfl, rfl⟩

/-- The members of a text are its trimmed pieces, with the blanks around it or without. -/
theorem members_eq (free : Separating separators) (cs : List Char) :
    members separators cs = (pieces separators 0 none cs).map trim := by
  obtain ⟨before, after, hb, ha, split⟩ := exists_trim cs
  obtain ⟨init, last, here, longer⟩ := lengthened_pieces free ha (trim cs) 0 none
  calc members separators cs
      = init.map trim ++ [trim last] := by rw [members, here, List.map_append, List.map_singleton]
    _ = (pieces separators 0 none (trim cs ++ after)).map trim := by
        rw [longer, List.map_append, List.map_singleton, trim_append_blanks last ha]
    _ = (pieces separators 0 none (before ++ (trim cs ++ after))).map trim := by
        rw [pieces_blanks_append free hb (by simp),
          map_trim_prependPiece hb (pieces_ne_nil _ _ _ _)]
    _ = (pieces separators 0 none cs).map trim := by rw [← List.append_assoc, ← split]

/-! ## Remarks at the start -/

theorem splitLeading?_line (one : '\n' ∉ line) (rest : List Char) :
    splitLeading? true (line ++ '\n' :: rest) =
      (splitLeading? false rest).map fun found => (line ++ '\n' :: found.1, found.2) := by
  induction line with
  | nil =>
    rw [List.nil_append, splitLeading?, bne_self_eq_false]
    cases splitLeading? false rest <;> rfl
  | cons c line ih =>
    have goesOn : (c != '\n') = true := bne_iff_ne.2 fun same => one (by simp [same])
    rw [List.cons_append, splitLeading?, goesOn, ih fun hm => one (by simp [hm])]
    cases splitLeading? false rest <;> rfl

theorem splitLeading?_last (one : '\n' ∉ line) : splitLeading? true line = some (line, []) := by
  induction line with
  | nil => rfl
  | cons c line ih =>
    have goesOn : (c != '\n') = true := bne_iff_ne.2 fun same => one (by simp [same])
    rw [splitLeading?, goesOn, ih fun hm => one (by simp [hm])]
    rfl

theorem splitLeading?_blanks (hb : Blanks blanks)
    (hw : ∀ c ∈ w.head?, isBlank c = false ∧ c ≠ '/') :
    splitLeading? false (blanks ++ w) = some (blanks, w) := by
  induction blanks with
  | nil =>
    cases w with
    | nil => rfl
    | cons c w =>
      obtain ⟨blank, slash⟩ := hw c rfl
      rw [List.nil_append, splitLeading?, if_neg (by simp [blank]), if_neg slash]
  | cons c blanks ih =>
    rw [List.cons_append, splitLeading?, if_pos (hb c (by simp)), ih fun d hd => hb d (by simp [hd])]
    rfl

theorem joinRemarks_blanks (hb : Blanks blanks) (lineStart : Bool) :
    joinRemarks 0 lineStart blanks = blanks := by
  induction blanks generalizing lineStart with
  | nil => rfl
  | cons c blanks ih =>
    have none : remarkMark? lineStart (c :: blanks) = none := by
      rw [remarkMark?, List.dropWhile_eq_nil_iff.2 hb]
      simp
    rw [joinRemarks, none]
    dsimp only
    rw [ih fun d hd => hb d (by simp [hd])]

/-- In the middle of a line there are no marks. -/
theorem joinRemarks_line (one : '\n' ∉ line) (hb : Blanks blanks) :
    joinRemarks 0 false (line ++ blanks) = line ++ blanks := by
  induction line with
  | nil => exact joinRemarks_blanks hb false
  | cons c line ih =>
    have inside : (c == '\n') = false := beq_false_of_ne fun same => one (by simp [same])
    have none : remarkMark? false (c :: (line ++ blanks)) = none := by
      simpa [remarkMark?] using fun same => absurd same (beq_eq_false_iff_ne.1 inside)
    rw [List.cons_append, joinRemarks, none]
    dsimp only
    rw [inside, ih fun hm => one (by simp [hm])]

theorem joinRemarks_skip (w rest : List Char) (lineStart : Bool) :
    joinRemarks w.length lineStart (w ++ rest) =
      joinRemarks 0 (w.getLast?.elim lineStart (· == '\n')) rest := by
  induction w generalizing lineStart with
  | nil => rfl
  | cons c w ih =>
    rw [List.cons_append, List.length_cons, joinRemarks, ih, List.getLast?_cons]
    cases w.getLast? <;> rfl

/-- The mark of a remark and the blanks after it are one space. -/
theorem joinRemarks_mark (hb : Blanks blanks) (hw : ∀ c ∈ w.head?, isBlank c = false) :
    joinRemarks 0 true (remark (blanks ++ w)) =
      ' ' :: joinRemarks 0 (blanks.getLast?.elim false (· == '\n')) w := by
  have start : (blanks ++ w).dropWhile isBlank = w := trimStart_append blanks hb hw
  have mark : remarkMark? true (remark (blanks ++ w)) = some (blanks.length + 2) := by
    have here : (remark (blanks ++ w)).dropWhile isBlank = '/' :: '/' :: (blanks ++ w) := rfl
    rw [remarkMark?, if_pos (by simp), here]
    show some ((remark (blanks ++ w)).length - ((blanks ++ w).dropWhile isBlank).length) = _
    rw [start, remark]
    simp only [List.length_cons, List.length_append, Option.some.injEq]
    omega
  have skip := joinRemarks_skip ('/' :: blanks) w ('/' == '\n')
  rw [remark] at mark ⊢
  rw [joinRemarks, mark]
  dsimp only
  rw [Nat.add_sub_cancel (n := blanks.length + 1) (m := 1), ← List.length_cons (a := '/'),
    ← List.cons_append, skip, List.getLast?_cons]
  cases blanks.getLast? <;> rfl

/-- What is left of a remark is its line. -/
theorem flattenRemarks_remark (one : '\n' ∉ line) (hb : Blanks blanks) :
    flattenRemarks (remark line ++ blanks) = trim line := by
  by_cases none : Blanks line
  · have mark := joinRemarks_mark (none.append hb) (w := []) (by simp)
    rw [List.append_nil] at mark
    rw [flattenRemarks, show remark line ++ blanks = remark (line ++ blanks) from rfl, mark,
      trim_of_blanks none]
    exact trim_of_blanks blanks_space
  · obtain ⟨spaces, hs, split⟩ := exists_trimStart line
    have ne : trimStart line ≠ [] := mt trimStart_eq_nil_iff.1 none
    have head : ∀ c ∈ (trimStart line ++ blanks).head?, isBlank c = false := by
      intro c hc
      rw [head?_append_left ne] at hc
      exact head?_trimStart hc
    have last : (spaces.getLast?.elim false (· == '\n')) = false := by
      cases last : spaces.getLast? with
      | none => rfl
      | some c =>
        refine beq_false_of_ne fun same => one ?_
        rw [split, ← same]
        exact List.mem_append_left _ (List.mem_of_getLast? last)
    have rest : '\n' ∉ trimStart line := fun hm => one (mem_of_mem_trimStart hm)
    have text : remark line ++ blanks = remark (spaces ++ (trimStart line ++ blanks)) := by
      rw [← List.append_assoc, ← split]
      rfl
    rw [flattenRemarks, text, joinRemarks_mark hs head, last, joinRemarks_line rest hb]
    calc trim (' ' :: (trimStart line ++ blanks))
        = trim (trimStart line ++ blanks) := trim_blanks_append blanks_space _
      _ = trim (trimStart line) := trim_append_blanks _ hb
      _ = trim (spaces ++ trimStart line) := (trim_blanks_append hs _).symm
      _ = trim line := by rw [← split]

theorem flattenRemarks_line (one : '\n' ∉ line) (slash : (trim line).head? ≠ some '/') :
    flattenRemarks line = trim line := by
  have joined : joinRemarks 0 true line = line := by
    cases line with
    | nil => rfl
    | cons c line =>
      have none : remarkMark? true (c :: line) = none := by
        rw [remarkMark?, if_pos (by simp)]
        split
        · rename_i rest same
          rw [trim, trimStart, same, ← List.nil_append ('/' :: _), trimEnd_append_cons rfl] at slash
          exact absurd rfl slash
        · rfl
      have inside : (c == '\n') = false := beq_false_of_ne fun same => one (by simp [same])
      have rest : joinRemarks 0 false (line ++ []) = line ++ [] :=
        joinRemarks_line (fun hm => one (by simp [hm])) blanks_nil
      rw [List.append_nil] at rest
      rw [joinRemarks, none]
      dsimp only
      rw [inside, rest]
  rw [flattenRemarks, joined]

theorem splitLeading?_remark (line : List Char) : splitLeading? false (remark line) =
    (splitLeading? true ('/' :: line)).map fun found => ('/' :: found.1, found.2) := by
  have second : ('/' :: line).head? = some '/' := rfl
  rw [remark, splitLeading?.eq_def]
  refine (if_neg (by decide)).trans ((if_pos rfl).trans ((if_pos second).trans ?_))
  cases splitLeading? true ('/' :: line) <;> rfl

/-- A remark and what stands on the lines after it. -/
theorem leadingRemark?_remark (one : '\n' ∉ line) (hb : Blanks blanks)
    (hw : ∀ c ∈ w.head?, isBlank c = false ∧ c ≠ '/') :
    leadingRemark? (remark line ++ '\n' :: (blanks ++ w)) = some (trim line, trim w) := by
  have slash : '\n' ∉ '/' :: line := by simpa using one
  have split : splitLeading? false (remark line ++ '\n' :: (blanks ++ w)) =
      some (remark line ++ '\n' :: blanks, w) := by
    rw [show remark line ++ '\n' :: (blanks ++ w) = remark (line ++ '\n' :: (blanks ++ w)) from rfl,
      splitLeading?_remark, ← List.cons_append, splitLeading?_line slash,
      splitLeading?_blanks hb hw]
    rfl
  have spaces : Blanks ('\n' :: blanks) := blanks_newline.append hb
  rw [leadingRemark?, split]
  exact congrArg (fun text => some (text, trim w)) (flattenRemarks_remark one spaces)

/-- A remark with nothing after it. -/
theorem leadingRemark?_last (one : '\n' ∉ line) :
    leadingRemark? (remark line) = some (trim line, []) := by
  have split : splitLeading? false (remark line) = some (remark line, []) := by
    rw [splitLeading?_remark, splitLeading?_last (by simpa using one)]
    rfl
  have flat := flattenRemarks_remark one blanks_nil
  rw [List.append_nil] at flat
  rw [leadingRemark?, split]
  exact congrArg (fun text => some (text, [])) flat

/-- A text that begins with neither a blank nor a slash has no remark in front. -/
theorem leadingRemark?_cons {c : Char} (blank : isBlank c = false) (slash : c ≠ '/')
    (rest : List Char) : leadingRemark? (c :: rest) = some ([], trim (c :: rest)) := by
  have split : splitLeading? false (c :: rest) = some ([], c :: rest) := by
    rw [splitLeading?, if_neg (by simp [blank]), if_neg slash]
  rw [leadingRemark?, split]
  rfl

/-- A text without a slash has no remark in front. -/
theorem leadingRemark?_of_not_mem (free : '/' ∉ cs) : leadingRemark? cs = some ([], trim cs) := by
  obtain ⟨blanks, hb, start⟩ := exists_trimStart cs
  have substance : ∀ c ∈ (trimStart cs).head?, isBlank c = false ∧ c ≠ '/' := by
    refine fun c hc => ⟨head?_trimStart hc, ?_⟩
    rintro rfl
    exact free (mem_of_mem_trimStart (List.mem_of_head? hc))
  have split : splitLeading? false cs = some (blanks, trimStart cs) := by
    have cut := splitLeading?_blanks hb substance
    rwa [← start] at cut
  have none : flattenRemarks blanks = [] := by
    rw [flattenRemarks, joinRemarks_blanks hb, trim_of_blanks hb]
  have rest : trim (trimStart cs) = trim cs := by
    conv => rhs; rw [start, trim_blanks_append hb]
  rw [leadingRemark?, split, ← none, ← rest]
  rfl

/-! ## Remarks at the end -/

theorem splitTrailing_run_append (hw : Run stops w) {rest before : List Char}
    {found : Option (List Char)} (h : splitTrailing 0 rest = (before, found)) :
    splitTrailing 0 (w ++ rest) = (w ++ before, found) := by
  induction hw with
  | nil => exact h
  | @cons c span tail free slash spans run ih =>
    rw [List.cons_append, List.append_assoc, splitTrailing, if_neg fun hc => slash hc.1, spans,
      splitTrailing_span ih, List.cons_append, List.append_assoc]

theorem splitTrailing_of_not_mem (free : '/' ∉ cs) (skip : Nat) :
    splitTrailing skip cs = (cs, none) := by
  induction cs generalizing skip with
  | nil => cases skip <;> rfl
  | cons c cs ih =>
    have slash : c ≠ '/' := fun same => free (by simp [same])
    have rest : '/' ∉ cs := fun hm => free (by simp [hm])
    cases skip with
    | zero => rw [splitTrailing, if_neg fun hc => slash hc.1, ih rest]
    | succ skip => rw [splitTrailing, ih rest]

/-- A text without a slash has no remark behind it. -/
theorem trailingRemark_of_not_mem (free : '/' ∉ cs) : trailingRemark cs = (trim cs, []) := by
  rw [trailingRemark, splitTrailing_of_not_mem free]
  rfl

/-- A text and the remark behind it. -/
theorem trailingRemark_remark (hw : Run stops w) (tight : Tight w) (one : '\n' ∉ line)
    (slash : (trim line).head? ≠ some '/') :
    trailingRemark (w ++ ' ' :: remark line) = (w, trim line) := by
  have behind : splitTrailing 0 (' ' :: remark line) = ([' '], some line) := rfl
  have split := splitTrailing_run_append hw behind
  rw [trailingRemark, split]
  dsimp only
  rw [trim_append_blanks w blanks_space, tight.trim_eq, Option.map_some, Option.getD_some,
    flattenRemarks_line one slash]

end Docblock.Text
