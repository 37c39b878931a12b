import Docblock.Proofs.Block.Written
import Mathlib.Data.List.Count
import Mathlib.Data.List.GetD

/-!
# Where comments stand

The comments of a source stand in it one behind the other, each with the text that is found at its
index and with the numbers of the lines that it begins and ends on (`Comment.located_ofSource`). The
number of a line is one more than the count of line feeds in front of it; it is found by a binary
search among the places where lines start as well (`lineAt_lineStarts`).

The scan counts lines as it goes. A table of the places where lines start, with a search in it, is
another way to number them, and it is written down here only to be compared: both say the same of
every offset in every source, so it makes no difference which of the two is used.

Only line feeds end a line. A return alone does not, and other characters that some editors count as
line ends do not either. Which texts are comments is not asked.
-/

namespace Docblock

open Text

variable {source cs before : List Char} {offset start : Nat}

/-! ## Numbers of lines -/

/-- The number of the line that an offset stands on: a line feed ends its line. -/
def lineOf (source : List Char) (offset : Nat) : Nat := 1 + (source.take offset).count '\n'

/-- The offsets behind the line feeds of a text that stands at an offset. -/
def lineStartsFrom (start : Nat) : List Char → List Nat
  | [] => []
  | c :: cs =>
    if c = '\n' then (start + 1) :: lineStartsFrom (start + 1) cs else lineStartsFrom (start + 1) cs

/-- The offsets at which the lines of a source start. -/
def lineStarts (source : List Char) : List Nat := 0 :: lineStartsFrom 0 source

/-- Of the places from `low` to `high` in an increasing list, the first one whose number is greater
than a given one, by halving. -/
def bisect (numbers : List Nat) (bound low high : Nat) : Nat :=
  if low < high then
    let middle := (low + high) / 2
    if bound < numbers.getD middle 0 then bisect numbers bound low middle
    else bisect numbers bound (middle + 1) high
  else low
termination_by high - low

/-- How many lines start at an offset or before it. -/
def lineAt (starts : List Nat) (offset : Nat) : Nat := bisect starts offset 0 starts.length

section

variable {numbers : List Nat} {bound low high : Nat}

/-- The numbers of a list up to a bound are counted by where they end. -/
theorem countP_eq_of_bounds (inside : low ≤ numbers.length)
    (below : ∀ i (hi : i < numbers.length), i < low → numbers[i] ≤ bound)
    (above : ∀ i (hi : i < numbers.length), low ≤ i → bound < numbers[i]) :
    numbers.countP (· ≤ bound) = low := by
  have front : (numbers.take low).countP (· ≤ bound) = low := by
    rw [List.countP_eq_length.2, List.length_take_of_le inside]
    intro n hn
    obtain ⟨i, hi, rfl⟩ := List.mem_iff_getElem.1 hn
    rw [List.length_take] at hi
    rw [List.getElem_take]
    exact decide_eq_true (below i (by omega) (by omega))
  have back : (numbers.drop low).countP (· ≤ bound) = 0 := by
    rw [List.countP_eq_zero]
    intro n hn
    obtain ⟨i, hi, rfl⟩ := List.mem_iff_getElem.1 hn
    rw [List.length_drop] at hi
    rw [List.getElem_drop]
    have := above (low + i) (by omega) (by omega)
    simpa using this
  rw [← List.take_append_drop low numbers, List.countP_append, front, back, Nat.add_zero]

/-- Halving keeps the numbers up to the bound before `low` and the others from `high` on. -/
theorem bisect_eq_countP (sorted : numbers.Pairwise (· < ·)) (order : low ≤ high)
    (inside : high ≤ numbers.length)
    (below : ∀ i (hi : i < numbers.length), i < low → numbers[i] ≤ bound)
    (above : ∀ i (hi : i < numbers.length), high ≤ i → bound < numbers[i]) :
    bisect numbers bound low high = numbers.countP (· ≤ bound) := by
  have mono : ∀ i j (hi : i < numbers.length) (hj : j < numbers.length), i ≤ j →
      numbers[i] ≤ numbers[j] := by
    intro i j hi hj le
    rcases Nat.lt_or_eq_of_le le with lt | rfl
    · exact Nat.le_of_lt (List.pairwise_iff_getElem.1 sorted i j hi hj lt)
    · exact Nat.le_refl _
  fun_induction bisect numbers bound low high with
  | case1 low high lt middle less ih =>
    have hm : middle < numbers.length := by omega
    rw [List.getD_eq_getElem _ _ hm] at less
    refine ih (by omega) (by omega) below fun i hi le => ?_
    exact Nat.lt_of_lt_of_le less (mono middle i hm hi le)
  | case2 low high lt middle more ih =>
    have hm : middle < numbers.length := by omega
    rw [List.getD_eq_getElem _ _ hm] at more
    refine ih (by omega) inside (fun i hi le => ?_) above
    exact Nat.le_trans (mono i middle hi hm (by omega)) (Nat.not_lt.1 more)
  | case3 low high meet =>
    obtain rfl : low = high := by omega
    exact (countP_eq_of_bounds inside below above).symm

end

theorem lt_of_mem_lineStartsFrom {n : Nat} (h : n ∈ lineStartsFrom start cs) : start < n := by
  induction cs generalizing start with
  | nil => cases h
  | cons c cs ih =>
    rw [lineStartsFrom] at h
    split at h
    · rcases List.mem_cons.1 h with rfl | h
      · exact Nat.lt_succ_self start
      · exact Nat.lt_of_succ_lt (ih h)
    · exact Nat.lt_of_succ_lt (ih h)

theorem sorted_lineStartsFrom (start : Nat) (cs : List Char) :
    (lineStartsFrom start cs).Pairwise (· < ·) := by
  induction cs generalizing start with
  | nil => exact .nil
  | cons c cs ih =>
    rw [lineStartsFrom]
    split
    · exact .cons (fun n hn => lt_of_mem_lineStartsFrom hn) (ih _)
    · exact ih _

theorem countP_lineStartsFrom (start offset : Nat) (cs : List Char) :
    (lineStartsFrom start cs).countP (· ≤ offset) = (cs.take (offset - start)).count '\n' := by
  induction cs generalizing start with
  | nil => simp [lineStartsFrom]
  | cons c cs ih =>
    by_cases before : offset ≤ start
    · -- All lines of the text start behind the offset.
      rw [Nat.sub_eq_zero_of_le before, List.take_zero, List.count_nil, List.countP_eq_zero]
      intro n hn
      have := lt_of_mem_lineStartsFrom hn
      simp only [decide_eq_true_eq]
      omega
    · obtain ⟨left, hl⟩ : ∃ left, offset - start = left + 1 := ⟨offset - start - 1, by omega⟩
      have rest : offset - (start + 1) = left := by omega
      rw [hl, List.take_succ_cons, lineStartsFrom]
      split
      · rename_i newline
        rw [List.countP_cons, ih, rest, newline, List.count_cons_self,
          if_pos (decide_eq_true (by omega))]
      · rename_i other
        rw [ih, rest, List.count_cons_of_ne other]

/-- The number of a line is found by a binary search. -/
theorem lineAt_lineStarts (source : List Char) (offset : Nat) :
    lineAt (lineStarts source) offset = lineOf source offset := by
  have sorted : (lineStarts source).Pairwise (· < ·) :=
    .cons (fun n hn => lt_of_mem_lineStartsFrom hn) (sorted_lineStartsFrom 0 source)
  have found : lineAt (lineStarts source) offset = (lineStarts source).countP (· ≤ offset) := by
    refine bisect_eq_countP sorted (Nat.zero_le _) (Nat.le_refl _) ?_ ?_
    · intro i _ lt
      exact absurd lt (Nat.not_lt_zero i)
    · intro i hi le
      exact absurd hi (Nat.not_lt.2 le)
  rw [found, lineStarts, List.countP_cons, countP_lineStartsFrom, Nat.sub_zero, lineOf,
    if_pos (decide_eq_true (Nat.zero_le offset)), Nat.add_comm]

theorem lineOf_append (before cs : List Char) : lineOf (before ++ cs) before.length =
    1 + before.count '\n' := by
  rw [lineOf, List.take_left]

/-- Lines are numbered upwards. -/
theorem lineOf_le {offset' : Nat} (le : offset ≤ offset') (source : List Char) :
    lineOf source offset ≤ lineOf source offset' :=
  Nat.add_le_add_left ((List.take_sublist_take_left le).count_le '\n') 1

namespace Comment

/-! ## Places of comments -/

/-- The offset behind a comment. -/
def stop (comment : Comment) : Nat := comment.index + comment.text.length

/-- A comment stands in a source at its index, on the lines that it tells. -/
structure Located (source : List Char) (comment : Comment) : Prop where
  text : comment.text.toList = (source.drop comment.index).take comment.text.length
  startLine : comment.startLine = lineOf source comment.index
  endLine : comment.endLine = lineOf source comment.stop

/-- A comment stands in front of another one, and is not empty. -/
def Precedes (first second : Comment) : Prop :=
  first.index < first.stop ∧ first.stop ≤ second.index

variable {skip line index : Nat}

/-- A comment that is found where it begins stands there. -/
theorem located_of_match {text after : List Char} {follower : String}
    (hline : line = 1 + before.count '\n') (hindex : index = before.length) :
    Located (before ++ (text ++ after))
      ⟨String.ofList text, index, line, line + text.count '\n', follower⟩ where
  text := by
    rw [hindex, List.drop_left, String.toList_ofList, String.length_ofList, List.take_left]
  startLine := by rw [hline, hindex, lineOf_append]
  endLine := by
    have behind : stop ⟨String.ofList text, index, line, line + text.count '\n', follower⟩ =
        (before ++ text).length := by
      rw [stop, String.length_ofList, hindex, List.length_append]
    rw [behind, ← List.append_assoc, lineOf_append, List.count_append, hline, Nat.add_assoc]

/-- The next character is passed over, with the line that it ends. -/
theorem next_line (hline : line = 1 + before.count '\n') (c : Char) :
    (if c = '\n' then line + 1 else line) = 1 + (before ++ [c]).count '\n' := by
  rw [List.count_append, List.count_singleton, hline]
  by_cases newline : c = '\n' <;> simp [newline]
  omega

/-- What the scan finds behind a text stands in the whole text, in order, behind what was read
before. -/
theorem located_scan (hline : line = 1 + before.count '\n') (hindex : index = before.length) :
    (∀ comment ∈ scan skip line index cs,
      Located (before ++ cs) comment ∧ index + skip ≤ comment.index) ∧
    (scan skip line index cs).Pairwise Precedes := by
  induction cs generalizing skip line index before with
  | nil => exact ⟨by simp [scan], .nil⟩
  | cons c cs ih =>
    have length : index + 1 = (before ++ [c]).length := by
      rw [List.length_append, List.length_singleton, hindex]
    have rest : ∀ skip, (∀ comment ∈ scan skip (if c = '\n' then line + 1 else line) (index + 1) cs,
        Located (before ++ [c] ++ cs) comment ∧ index + 1 + skip ≤ comment.index) ∧
        (scan skip (if c = '\n' then line + 1 else line) (index + 1) cs).Pairwise Precedes :=
      fun skip => ih (next_line hline c) length
    rw [List.append_assoc, List.singleton_append] at rest
    cases skip with
    | succ skip =>
      rw [scan]
      refine ⟨fun comment found => ?_, (rest skip).2⟩
      obtain ⟨located, behind⟩ := (rest skip).1 comment found
      exact ⟨located, by omega⟩
    | zero =>
      rw [scan]
      cases matched : after? (c :: cs) with
      | none =>
        refine ⟨fun comment found => ?_, (rest 0).2⟩
        obtain ⟨located, behind⟩ := (rest 0).1 comment found
        exact ⟨located, by omega⟩
      | some after =>
        obtain ⟨text, ne, split⟩ := exists_of_after? matched
        have cut : (c :: cs).take (cs.length + 1 - after.length) = text := by
          rw [← List.length_cons (a := c), split, List.length_append, Nat.add_sub_cancel,
            List.take_left]
        have pos := List.length_pos_iff.2 ne
        dsimp only
        rw [cut]
        -- The scan goes on behind the comment and the line of code that was read with it.
        have later := rest (text.length + (follow after).2 - 1)
        refine ⟨fun comment found => ?_, .cons (fun comment found => ?_) later.2⟩
        · rcases List.mem_cons.1 found with rfl | found
          · rw [split]
            exact ⟨located_of_match hline hindex, Nat.le_refl _⟩
          · obtain ⟨located, behind⟩ := later.1 comment found
            exact ⟨located, by omega⟩
        · have behind := (later.1 comment found).2
          simp only [Precedes, stop, String.length_ofList]
          omega

variable {comment : Comment}

theorem Located.lines (located : Located source comment) :
    comment.endLine - comment.startLine = comment.text.toList.count '\n' := by
  have whole : source.take comment.stop = source.take comment.index ++ comment.text.toList := by
    rw [located.text, stop, List.take_add]
  rw [located.endLine, located.startLine, lineOf, lineOf, whole, List.count_append,
    ← Nat.add_assoc, Nat.add_sub_cancel_left]

theorem Located.startLine_le (located : Located source comment) :
    comment.startLine ≤ comment.endLine := by
  rw [located.startLine, located.endLine]
  exact lineOf_le (Nat.le_add_right _ _) source

/-- A comment ends no later than one behind it. -/
theorem Located.endLine_le {first second : Comment} (hf : Located source first)
    (hs : Located source second) (order : Precedes first second) :
    first.endLine ≤ second.endLine := by
  rw [hf.endLine, hs.endLine]
  exact lineOf_le (Nat.le_trans order.2 (Nat.le_add_right _ _)) source

/-- The comments of a source stand in it, in order. -/
theorem scanned_ofSource (source : List Char) :
    (∀ comment ∈ ofSource source, Located source comment) ∧
      (ofSource source).Pairwise Precedes := by
  have start : 1 = 1 + [].count '\n' := rfl
  obtain ⟨located, ordered⟩ := located_scan start rfl
  exact ⟨fun comment found => (located comment found).1, ordered⟩

theorem located_of_mem (found : comment ∈ ofSource source) : Located source comment :=
  (scanned_ofSource source).1 comment found

theorem ordered_ofSource (source : List Char) :
    (ofSource source).Pairwise (·.endLine ≤ ·.endLine) :=
  (scanned_ofSource source).2.imp_of_mem fun hf hs order =>
    (located_of_mem hf).endLine_le (located_of_mem hs) order

/-- The comments of a source stand in it in order, none in another, each where it tells, on the
lines that are counted by line feeds and found by their starts. -/
theorem located_ofSource (source : List Char) :
    (ofSource source).Pairwise Precedes ∧
    (ofSource source).Pairwise (·.endLine ≤ ·.endLine) ∧
    ∀ comment ∈ ofSource source, Located source comment ∧
      comment.startLine = lineAt (lineStarts source) comment.index ∧
      comment.endLine = lineAt (lineStarts source) comment.stop ∧
      comment.endLine - comment.startLine = comment.text.toList.count '\n' := by
  refine ⟨(scanned_ofSource source).2, ordered_ofSource source, fun comment found => ?_⟩
  have located := located_of_mem found
  rw [lineAt_lineStarts, lineAt_lineStarts]
  exact ⟨located, located.startLine, located.endLine, located.lines⟩

end Comment

end Docblock
