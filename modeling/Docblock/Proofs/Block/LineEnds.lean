import Docblock.Proofs.Block.Naming
import Docblock.Proofs.Block.Rendered
import Docblock.Proofs.Block.Spelling
import Docblock.Proofs.Schema.Reading
import Docblock.Proofs.Text.LineEnds
import Mathlib

/-!
# Sources whose lines end in a return

A source is read to the same blocks, or with the same fault, if its lines end in a return and a line
feed (`Block.ofSource_withReturns`). The same comments are found on the same lines
(`Comment.scan_withReturns`), and they say the same (`linesOf_withReturns`), as far as no comment
ends within one of them: such an end is a mark in front of a line feed, but not in front of a
return.

The places of comments differ, since a source with returns is longer, and so do their texts. They
are compared by what they come to (`Comment.Alike`): the same lines, the same line of code after
them, and a text that is the other with returns. Each step of the scan is followed in both sources.
A step may stop in the middle of a line end, so that a return is left over, and the scan passes over
it.

Sources that have returns already are left out. A line that ends in a return and a line feed would
get a second return, and it is not asked what that would be.
-/

namespace Docblock

open Text

variable {cs rest : List Char}

namespace Comment

/-! ## What is matched

What a part of the pattern leaves of a source with returns is what it leaves of the other source,
with returns. It is matched just when it is matched there. -/

/-- What follows a line. -/
theorem drop_line_withReturns (cs : List Char) :
    ((withReturns cs).dropWhile (· != '\n')).drop 1 =
      withReturns ((cs.dropWhile (· != '\n')).drop 1) := by
  induction cs with
  | nil => rfl
  | cons c cs ih =>
    by_cases hc : c = '\n'
    · simp [hc]
    · rw [withReturns_cons hc, List.dropWhile_cons_of_pos (by simpa using hc), ih,
        List.dropWhile_cons_of_pos (by simpa using hc)]

theorem afterInnerLine?_withReturns (cs : List Char) :
    afterInnerLine? (withReturns cs) = (afterInnerLine? cs).map withReturns := by
  have indent := takeWhile_withReturns_of_stop (p := isIndent) rfl rfl cs
  have line := dropWhile_withReturns (p := isIndent) rfl cs
  have star := head?_withReturns_iff (c := '*') (by decide) (by decide) (cs.dropWhile isIndent)
  have ends : (withReturns cs).contains '\n' = cs.contains '\n' := by
    rw [Bool.eq_iff_iff, List.contains_iff_mem, List.contains_iff_mem, newline_mem_withReturns]
  unfold afterInnerLine?
  rw [indent, line, ends, drop_line_withReturns]
  simp only [star]
  split <;> rfl

theorem afterClosing?_withReturns (cs : List Char) :
    afterClosing? (withReturns cs) = (afterClosing? cs).map withReturns := by
  have run := takeWhile_withReturns_of_stop (p := fun c => isIndent c || c == '*') rfl rfl cs
  have line := dropWhile_withReturns (p := fun c => isIndent c || c == '*') rfl cs
  have slash := head?_withReturns_iff (c := '/') (by decide) (by decide)
    (cs.dropWhile fun c => isIndent c || c == '*')
  unfold afterClosing?
  dsimp only
  rw [drop_length_takeWhile, drop_length_takeWhile, run, line]
  simp only [slash]
  split
  · rename_i ends
    obtain ⟨more, split⟩ := List.head?_eq_some_iff.1 ends.2
    rw [split, withReturns_cons (by decide)]
    rfl
  · rfl

/-- The lines after an inner line are tried before its end is. -/
theorem afterLines?_eq (cs : List Char) : afterLines? cs =
    (afterInnerLine? cs).bind fun rest => (afterLines? rest).or (afterClosing? rest) := by
  cases inner : afterInnerLine? cs with
  | none =>
    rw [afterLines?]
    split
    · rfl
    · rename_i found
      cases inner.symm.trans found
  | some rest =>
    obtain ⟨line, starred, rfl⟩ := afterInnerLine?_eq_some_iff.1 inner
    exact afterLines?_of_inner starred rest

theorem afterLines?_withReturns (cs : List Char) :
    afterLines? (withReturns cs) = (afterLines? cs).map withReturns := by
  induction hn : cs.length using Nat.strongRecOn generalizing cs with
  | _ n ih =>
    rw [afterLines?_eq, afterLines?_eq cs, afterInnerLine?_withReturns]
    cases inner : afterInnerLine? cs with
    | none => rfl
    | some rest =>
      have below := ih rest.length (hn ▸ length_afterInnerLine_lt inner) rest rfl
      dsimp only [Option.map_some, Option.bind_some]
      rw [below, afterClosing?_withReturns, Option.map_or]

theorem afterBlock?_withReturns (hr : '\r' ∉ cs) :
    afterBlock? (withReturns cs) = (afterBlock? cs).map withReturns := by
  have line := dropWhile_withReturns (p := isIndent) rfl cs
  have clean : '\r' ∉ cs.dropWhile isIndent := fun hm =>
    hr ((List.dropWhile_suffix isIndent).subset hm)
  unfold afterBlock?
  rw [line]
  generalize cs.dropWhile isIndent = line at clean ⊢
  rcases line with _ | ⟨c, more⟩
  · rfl
  · by_cases hc : c = '\n'
    · subst hc
      exact afterLines?_withReturns more
    · have carriage : c ≠ '\r' := fun same => clean (same ▸ List.mem_cons_self)
      rw [withReturns_cons hc]
      split
      · rename_i first
        exact absurd (List.cons.inj first).1 hc
      · rename_i first
        exact absurd (List.cons.inj first).1 carriage
      · split
        · rename_i first
          exact absurd (List.cons.inj first).1 hc
        · rename_i first
          exact absurd (List.cons.inj first).1 carriage
        · rfl

theorem afterInline?_withReturns (cs : List Char) :
    afterInline? (withReturns cs) = (afterInline? cs).map withReturns := by
  induction cs with
  | nil => rfl
  | cons c cs ih =>
    by_cases hc : c = '\n'
    · subst hc
      rfl
    · rw [withReturns_cons hc]
      have slash := head?_withReturns_iff (c := '/') (by decide) (by decide) cs
      by_cases here : c = '*' ∧ cs.head? = some '/'
      · obtain ⟨rfl, head⟩ := here
        obtain ⟨more, rfl⟩ := List.head?_eq_some_iff.1 head
        rfl
      · rw [afterInline?_cons here, afterInline?_cons (by rwa [slash]), if_neg hc, if_neg hc, ih]

/-- A comment is matched up to the same place. -/
theorem after?_withReturns (hr : '\r' ∉ cs) :
    after? (withReturns cs) = (after? cs).map withReturns := by
  by_cases opens : ∃ body, cs = '/' :: '*' :: '*' :: body
  · obtain ⟨body, rfl⟩ := opens
    have clean : '\r' ∉ body := by
      intro hm
      exact hr (by simp [hm])
    have mark : withReturns ('/' :: '*' :: '*' :: body) =
        '/' :: '*' :: '*' :: withReturns body := rfl
    rw [mark, after?_mark, after?_mark, afterBlock?_withReturns clean, afterInline?_withReturns,
      Option.map_or]
  · have unopened : ∀ text, (∀ body, text ≠ '/' :: '*' :: '*' :: body) → after? text = none := by
      intro text other
      unfold after?
      split
      · exact absurd rfl (other _)
      · rfl
    rw [unopened cs fun body same => opens ⟨body, same⟩, unopened]
    · rfl
    · intro body same
      obtain ⟨stars, rfl, second⟩ := eq_cons_of_withReturns same (by decide)
      obtain ⟨star, rfl, third⟩ := eq_cons_of_withReturns second (by decide)
      obtain ⟨rest, rfl, -⟩ := eq_cons_of_withReturns third (by decide)
      exact opens ⟨rest, rfl⟩

/-! ## What is read with a comment -/

/-- The line of code after a comment begins with the first character that is not blank. -/
theorem follow_eq (cs : List Char) : follow cs =
    if (trimStart cs).head?.all (· == '/') then
      ([], (cs.takeWhile isBlank).length -
        ((cs.takeWhile isBlank).reverse.takeWhile (· != '\n')).length)
    else
      (trim ((trimStart cs).takeWhile (· != '\n')),
        (cs.takeWhile isBlank).length + ((trimStart cs).takeWhile (· != '\n')).length) := by
  have starts := @head?_trimStart cs
  unfold follow
  dsimp only
  rw [drop_length_takeWhile, ← trimStart]
  generalize trimStart cs = tail at starts ⊢
  rcases tail with _ | ⟨c, tail⟩
  · rfl
  · have hc : c ≠ '\n' := by
      rintro rfl
      cases starts (c := '\n') rfl
    have line : (c :: tail).takeWhile (· != '\n') = c :: tail.takeWhile (· != '\n') :=
      List.takeWhile_cons_of_pos (by simpa using hc)
    rw [line]
    simp

/-- The blanks before the line of code, on that line. -/
def indentOf (cs : List Char) : List Char :=
  ((cs.takeWhile isBlank).reverse.takeWhile (· != '\n')).reverse

theorem newline_not_mem_indentOf (cs : List Char) : '\n' ∉ indentOf cs := by
  intro hm
  have inside := List.all_eq_true.1 List.all_takeWhile _ (List.mem_reverse.1 hm)
  exact absurd inside (by decide)

/-- Read with a comment are the lines before the line of code, and that line unless it begins with a
slash. -/
theorem drop_follow (cs : List Char) : cs.drop (follow cs).2 =
    if (trimStart cs).head?.all (· == '/') then indentOf cs ++ trimStart cs
    else (trimStart cs).dropWhile (· != '\n') := by
  have whole : cs.takeWhile isBlank ++ trimStart cs = cs := List.takeWhile_append_dropWhile
  rw [follow_eq]
  split
  · obtain ⟨before, split⟩ : indentOf cs <:+ cs.takeWhile isBlank := by
      have start := List.takeWhile_prefix (l := (cs.takeWhile isBlank).reverse) (· != '\n')
      have ends := List.reverse_suffix.2 start
      rwa [List.reverse_reverse] at ends
    have length : (cs.takeWhile isBlank).length -
        ((cs.takeWhile isBlank).reverse.takeWhile (· != '\n')).length = before.length := by
      have count : ((cs.takeWhile isBlank).reverse.takeWhile (· != '\n')).length =
          (indentOf cs).length := List.length_reverse.symm
      rw [count, ← split, List.length_append, Nat.add_sub_cancel]
    dsimp only
    rw [length]
    calc cs.drop before.length
        = (before ++ (indentOf cs ++ trimStart cs)).drop before.length := by
          rw [← List.append_assoc, split, whole]
      _ = indentOf cs ++ trimStart cs := List.drop_left
  · dsimp only
    rw [← drop_length_takeWhile, ← List.drop_drop]
    exact congrArg (List.drop _) (drop_length_takeWhile isBlank cs)

theorem indentOf_withReturns (cs : List Char) : indentOf (withReturns cs) = indentOf cs := by
  unfold indentOf
  rw [takeWhile_withReturns (p := isBlank) rfl, takeWhile_reverse_withReturns]

theorem trimStart_withReturns (cs : List Char) :
    trimStart (withReturns cs) = withReturns (trimStart cs) :=
  dropWhile_withReturns (p := isBlank) rfl cs

theorem head?_trimStart_withReturns (cs : List Char) :
    (trimStart (withReturns cs)).head? = (trimStart cs).head? := by
  have starts := @head?_trimStart cs
  rw [trimStart_withReturns]
  generalize trimStart cs = tail at starts ⊢
  rcases tail with _ | ⟨c, tail⟩
  · rfl
  · have hc : c ≠ '\n' := by
      rintro rfl
      cases starts (c := '\n') rfl
    rw [withReturns_cons hc]
    rfl

/-- A line ends in a return, and the line end follows it; or it is the last line. -/
theorem line_withReturns (cs : List Char) :
    (withReturns cs).takeWhile (· != '\n') = cs.takeWhile (· != '\n') ∧
        withReturns (cs.dropWhile (· != '\n')) = (withReturns cs).dropWhile (· != '\n') ∨
      (withReturns cs).takeWhile (· != '\n') = cs.takeWhile (· != '\n') ++ ['\r'] ∧
        withReturns (cs.dropWhile (· != '\n')) =
          '\r' :: (withReturns cs).dropWhile (· != '\n') := by
  induction cs with
  | nil => exact .inl ⟨rfl, rfl⟩
  | cons c cs ih =>
    by_cases hc : c = '\n'
    · subst hc
      exact .inr ⟨rfl, rfl⟩
    · have pass : (c != '\n') = true := by simpa using hc
      have kept (more : List Char) : (c :: more).takeWhile (· != '\n') =
          c :: more.takeWhile (· != '\n') := List.takeWhile_cons_of_pos pass
      have passed (more : List Char) : (c :: more).dropWhile (· != '\n') =
          more.dropWhile (· != '\n') := List.dropWhile_cons_of_pos pass
      rw [withReturns_cons hc, kept, kept, passed, passed, List.cons_append, List.cons_inj_right,
        List.cons_inj_right]
      exact ih

/-- The same line of code is read with a comment, up to its line end, of which the return may be
read with it. -/
theorem follow_withReturns (cs : List Char) :
    (follow (withReturns cs)).1 = (follow cs).1 ∧
      (withReturns (cs.drop (follow cs).2) = (withReturns cs).drop (follow (withReturns cs)).2 ∨
        withReturns (cs.drop (follow cs).2) =
          '\r' :: (withReturns cs).drop (follow (withReturns cs)).2) := by
  rw [drop_follow, drop_follow (withReturns cs), follow_eq, follow_eq cs,
    head?_trimStart_withReturns, indentOf_withReturns, trimStart_withReturns]
  split
  · rw [withReturns_append, withReturns_of_not_mem (newline_not_mem_indentOf cs)]
    exact ⟨rfl, .inl rfl⟩
  · dsimp only
    rcases line_withReturns (trimStart cs) with ⟨line, rest⟩ | ⟨line, rest⟩
    · exact ⟨by rw [line], .inl rest⟩
    · have return_ : Blanks ['\r'] := fun c hc => List.mem_singleton.1 hc ▸ rfl
      exact ⟨by rw [line, trim_append_blanks _ return_], .inr rest⟩

/-! ## What is found -/

/-- A comment found in a source and the same one in the source with returns: their lines end in
different ways. -/
structure Alike (returned comment : Comment) : Prop where
  carriage : '\r' ∉ comment.text.toList
  text : returned.text.toList = withReturns comment.text.toList
  startLine : returned.startLine = comment.startLine
  endLine : returned.endLine = comment.endLine
  follower : returned.follower = comment.follower

theorem scan_return (line index : Nat) (cs : List Char) :
    scan 0 line index ('\r' :: cs) = scan 0 line (index + 1) cs := scan_of_none rfl line index

theorem scan_newline (line index : Nat) (cs : List Char) :
    scan 0 line index ('\n' :: cs) = scan 0 (line + 1) (index + 1) cs := scan_of_none rfl line index

/-- As many lines end before what is read with a comment ends. -/
theorem count_follow_withReturns (cs : List Char) :
    ((withReturns cs).take (follow (withReturns cs)).2).count '\n' =
      (cs.take (follow cs).2).count '\n' := by
  have rest : ((withReturns cs).drop (follow (withReturns cs)).2).count '\n' =
      (cs.drop (follow cs).2).count '\n' := by
    rw [← count_withReturns (cs.drop (follow cs).2)]
    rcases (follow_withReturns cs).2 with same | return_
    · rw [same]
    · rw [return_, List.count_cons_of_ne (by decide)]
  have whole (n : Nat) (text : List Char) :
      (text.take n).count '\n' + (text.drop n).count '\n' = text.count '\n' := by
    rw [← List.count_append, List.take_append_drop]
  have lines := whole (follow cs).2 cs
  have lines' := whole (follow (withReturns cs)).2 (withReturns cs)
  rw [count_withReturns] at lines'
  omega

/-- If the same is found after the line of code, it is found where the scan goes on. -/
theorem scan_drop_follow {after : List Char}
    (next : ∀ line index index', List.Forall₂ Alike
      (scan 0 line index' (withReturns (after.drop (follow after).2)))
      (scan 0 line index (after.drop (follow after).2)))
    (line index : Nat) {index' : Nat} (ne : index' ≠ 0) :
    List.Forall₂ Alike
      (scan 0 line index' ((withReturns after).drop (follow (withReturns after)).2))
      (scan 0 line index (after.drop (follow after).2)) := by
  rcases (follow_withReturns after).2 with whole | return_
  · rw [← whole]
    exact next line index index'
  · -- The return that was read with the comment is passed over without it.
    obtain ⟨start, rfl⟩ := Nat.exists_eq_succ_of_ne_zero ne
    rw [← scan_return, ← return_]
    exact next line index start

/-- The same comments are found on the same lines. -/
theorem scan_withReturns (hr : '\r' ∉ cs) (line index index' : Nat) :
    List.Forall₂ Alike (scan 0 line index' (withReturns cs)) (scan 0 line index cs) := by
  induction hn : cs.length using Nat.strongRecOn generalizing cs line index index' with
  | _ n ih =>
    cases cs with
    | nil => exact .nil
    | cons c cs =>
      have carriage : '\r' ∉ cs := fun hm => hr (List.mem_cons_of_mem c hm)
      have same := after?_withReturns hr
      cases matched : after? (c :: cs) with
      | none =>
        have next := fun line index index' =>
          ih cs.length (hn ▸ Nat.lt_succ_self _) carriage line index index' rfl
        rw [matched] at same
        -- Where no comment begins the scan goes on by one character, or by two where a return was
        -- added.
        by_cases hc : c = '\n'
        · subst hc
          rw [withReturns_newline, scan_return, scan_newline, scan_newline]
          exact next ..
        · rw [withReturns_cons hc] at same ⊢
          rw [scan_of_none same, scan_of_none matched]
          exact next ..
      | some after =>
        obtain ⟨text, ne, opens⟩ := exists_of_after? matched
        rw [opens] at hr matched hn same ⊢
        rw [matched, withReturns_append] at same
        have ne' : withReturns text ≠ [] := mt withReturns_eq_nil_iff.1 ne
        have shorter : (after.drop (follow after).2).length < n := by
          have := List.length_pos_iff.2 ne
          rw [← hn, List.length_append, List.length_drop]
          omega
        have next := fun line index index' => ih _ shorter
          (fun hm => hr (List.mem_append_right _ (List.mem_of_mem_drop hm))) line index index' rfl
        have passed : index' + (withReturns text).length + (follow (withReturns after)).2 ≠ 0 := by
          have := List.length_pos_iff.2 ne'
          omega
        rw [withReturns_append, scan_of_match ne' same, scan_of_match ne matched,
          count_withReturns, count_follow_withReturns]
        refine .cons ⟨?_, ?_, rfl, rfl, congrArg String.ofList (follow_withReturns after).1⟩
          (scan_drop_follow next _ _ passed)
        · rw [String.toList_ofList]
          exact fun hm => hr (List.mem_append_left _ hm)
        · rw [String.toList_ofList, String.toList_ofList]

end Comment

/-! ## What the lines of a comment say -/

/-- No comment ends in a text but at its end. -/
def Sealed (text : List Char) : Prop :=
  ∀ before after, text = before ++ '*' :: '/' :: after → after = []

theorem Sealed.right {before : List Char} (h : Sealed (before ++ cs)) : Sealed cs := by
  intro start after split
  exact h (before ++ start) after (by rw [split, List.append_assoc])

theorem Sealed.left {after : List Char} (h : Sealed (cs ++ after)) : Sealed cs := by
  intro start rest split
  have ended := h start (rest ++ after) (by rw [split]; simp)
  exact (List.append_eq_nil_iff.1 ended).1

theorem Sealed.trim (h : Sealed cs) : Sealed (trim cs) := by
  obtain ⟨before, after, -, -, split⟩ := exists_trim cs
  rw [split] at h
  exact h.left.right

theorem Sealed.renameTags (h : Sealed cs) : Sealed (renameTags 0 cs) := by
  intro before after split
  obtain ⟨before', after', rfl, rfl⟩ := ends_of_renameTags split
  rw [h before' after' rfl]
  rfl

/-- Tags are renamed alike. -/
theorem renameTags_withReturns (cs : List Char) :
    renameTags 0 (withReturns cs) = withReturns (renameTags 0 cs) := by
  induction hn : cs.length using Nat.strongRecOn generalizing cs with
  | _ n ih =>
    subst hn
    cases cs with
    | nil => rfl
    | cons c cs =>
      have next := ih cs.length (Nat.lt_succ_self _) cs rfl
      by_cases hc : c = '\n'
      · subst hc
        rw [withReturns_newline, renameTags_of_none (renamed?_of_ne (by decide) _),
          renameTags_of_none (renamed?_of_ne (by decide) _),
          renameTags_of_none (renamed?_of_ne (by decide) _), next, withReturns_newline]
      · have same : renamed? c (withReturns cs) = renamed? c cs := by
          unfold renamed?
          rw [takeWhile_withReturns_of_stop (p := Char.isLower) rfl rfl]
        rw [withReturns_cons hc]
        cases changed : renamed? c cs with
        | none =>
          rw [renameTags_of_none changed, renameTags_of_none (same.trans changed), next,
            withReturns_cons hc]
        | some tag =>
          have word : '\n' ∉ c :: tag.toList := by
            intro hm
            rcases List.mem_cons.1 hm with rfl | hm
            · exact hc rfl
            · cases (isLower_of_renamed? changed).2 '\n' hm
          have shorter := Nat.lt_succ_of_le (cs.dropWhile_suffix Char.isLower).length_le
          rw [renameTags_of_some changed, renameTags_of_some (same.trans changed),
            dropWhile_withReturns (p := Char.isLower) rfl, ih _ shorter _ rfl,
            withReturns_append, withReturns_of_not_mem word]

/-- A comment ends at the same place, since no line ends after it. -/
theorem afterEnd?_withReturns (h : Sealed cs) :
    afterEnd? (withReturns cs) = (afterEnd? cs).map withReturns := by
  have line := dropWhile_withReturns (p := isIndent) rfl cs
  by_cases ends : ∃ rest, cs.dropWhile isIndent = '*' :: '/' :: rest
  · obtain ⟨rest, split⟩ := ends
    have tail : Sealed (cs.dropWhile isIndent) := by
      rw [← cs.takeWhile_append_dropWhile (p := isIndent)] at h
      exact h.right
    obtain rfl := tail [] rest split
    rw [split] at line
    rw [afterEnd?, afterEnd?, line, split]
    rfl
  · rw [afterEnd?_of_other fun rest same => ends ⟨rest, same⟩, afterEnd?_of_other]
    · rfl
    · intro rest same
      obtain ⟨slash, star, second⟩ := eq_cons_of_withReturns (line.symm.trans same) (by decide)
      obtain ⟨rest, rfl, -⟩ := eq_cons_of_withReturns second (by decide)
      exact ends ⟨rest, star⟩

theorem dropLineEnd_withReturns (hr : '\r' ∉ cs) :
    dropLineEnd (withReturns cs) = withReturns (dropLineEnd cs) := by
  cases cs with
  | nil => rfl
  | cons c cs =>
    by_cases hc : c = '\n'
    · subst hc
      rfl
    · have carriage : c ≠ '\r' := fun same => hr (same ▸ List.mem_cons_self)
      have kept (more : List Char) : dropLineEnd (c :: more) = c :: more := by
        unfold dropLineEnd
        split
        · rename_i first
          exact absurd (List.cons.inj first).1 carriage
        · rename_i first
          exact absurd (List.cons.inj first).1 carriage
        · rename_i first
          exact absurd (List.cons.inj first).1 hc
        · rfl
      rw [withReturns_cons hc, kept, kept, withReturns_cons hc]

/-- The mark at the start of a line is the same, with its line end. -/
theorem afterLeadingMark?_withReturns (hr : '\r' ∉ cs) :
    afterLeadingMark? (withReturns cs) = (afterLeadingMark? cs).map withReturns := by
  have line := dropWhile_withReturns (p := isIndent) rfl cs
  have indent := takeWhile_withReturns_of_stop (p := isIndent) rfl rfl cs
  have spaces (rest : List Char) := dropWhile_withReturns (p := (· == ' ')) rfl rest
  have left := cs.dropWhile_suffix isIndent
  by_cases opening : ∃ rest, cs.dropWhile isIndent = '/' :: '*' :: '*' :: rest
  · obtain ⟨rest, split⟩ := opening
    have clean : '\r' ∉ rest.dropWhile (· == ' ') := by
      refine fun hm => hr (left.subset ?_)
      rw [split]
      have := (rest.dropWhile_suffix (· == ' ')).subset hm
      simp [this]
    have line' : withReturns ('/' :: '*' :: '*' :: rest) = '/' :: '*' :: '*' :: withReturns rest :=
      rfl
    rw [split, line'] at line
    rw [afterLeadingMark?_of_opening line, afterLeadingMark?_of_opening split, spaces,
      dropLineEnd_withReturns clean]
    rfl
  · by_cases star : ∃ rest, cs.dropWhile isIndent = '*' :: rest
    · obtain ⟨rest, split⟩ := star
      have line' : withReturns ('*' :: rest) = '*' :: withReturns rest := rfl
      rw [split, line'] at line
      rw [afterLeadingMark?_of_star line, afterLeadingMark?_of_star split, indent, spaces]
      split <;> rfl
    · rw [afterLeadingMark?_of_other (fun rest same => opening ⟨rest, same⟩)
        fun rest same => star ⟨rest, same⟩, afterLeadingMark?_of_other]
      · rfl
      · intro rest same
        obtain ⟨stars, first, second⟩ := eq_cons_of_withReturns (line.symm.trans same) (by decide)
        obtain ⟨star, rfl, third⟩ := eq_cons_of_withReturns second (by decide)
        obtain ⟨rest, rfl, -⟩ := eq_cons_of_withReturns third (by decide)
        exact opening ⟨rest, first⟩
      · intro rest same
        obtain ⟨rest, first, -⟩ := eq_cons_of_withReturns (line.symm.trans same) (by decide)
        exact star ⟨rest, first⟩

theorem afterMark?_withReturns {c : Char} (hc : c ≠ '\n') (h : Sealed (c :: cs))
    (hr : '\r' ∉ c :: cs) (lineStart : Bool) :
    afterMark? lineStart (withReturns (c :: cs)) =
      (afterMark? lineStart (c :: cs)).map withReturns := by
  have closing : afterClosingMark? (withReturns (c :: cs)) =
      (afterClosingMark? (c :: cs)).map withReturns := by
    rw [afterClosingMark?_cons hc, ← afterEnd?_withReturns h, withReturns_cons hc,
      afterClosingMark?_cons hc]
  rw [afterMark?, afterMark?, closing, Option.map_or]
  cases lineStart with
  | false => rfl
  | true => exact congrArg _ (afterLeadingMark?_withReturns hr)

theorem afterMark?_return (lineStart : Bool) (cs : List Char) :
    afterMark? lineStart ('\r' :: cs) = none := by
  cases lineStart <;> rfl

/-- At a line end only a closing mark begins. -/
theorem afterMark?_newline (lineStart : Bool) (cs : List Char) :
    afterMark? lineStart ('\n' :: cs) = afterEnd? cs := by
  rw [afterMark?, afterClosingMark?_newline]
  cases lineStart <;> exact Option.or_none

/-- At a line end the same is left, if the same is left after it. -/
theorem dropMarks_newline_withReturns (h : Sealed cs) (lineStart : Bool)
    (next : (dropMarks 0 true (withReturns cs)).filter (· != '\r') = dropMarks 0 true cs) :
    (dropMarks 0 lineStart (withReturns ('\n' :: cs))).filter (· != '\r') =
      dropMarks 0 lineStart ('\n' :: cs) := by
  have closing' := afterEnd?_withReturns h
  rw [withReturns_newline, dropMarks_of_none (afterMark?_return ..)]
  cases closing : afterEnd? cs with
  | none =>
    rw [closing] at closing'
    rw [dropMarks_of_none ((afterMark?_newline ..).trans closing'),
      dropMarks_of_none ((afterMark?_newline ..).trans closing)]
    exact congrArg _ next
  | some rest =>
    obtain ⟨⟨blanks, -, split⟩, -⟩ := afterEnd?_eq_some_iff.1 closing
    obtain rfl := h blanks rest split
    rw [closing] at closing'
    rw [dropMarks_of_last ((afterMark?_newline ..).trans closing'),
      dropMarks_of_last ((afterMark?_newline ..).trans closing)]
    rfl

/-- The same is left without marks, but for returns. -/
theorem dropMarks_withReturns (h : Sealed cs) (hr : '\r' ∉ cs) (lineStart : Bool) :
    (dropMarks 0 lineStart (withReturns cs)).filter (· != '\r') = dropMarks 0 lineStart cs := by
  induction hn : cs.length using Nat.strongRecOn generalizing cs lineStart with
  | _ n ih =>
    subst hn
    cases cs with
    | nil => rfl
    | cons c cs =>
      have carriage : '\r' ∉ cs := fun hm => hr (List.mem_cons_of_mem c hm)
      have open_ : Sealed cs := Sealed.right (show Sealed ([c] ++ cs) from h)
      have next := fun lineStart => ih _ (Nat.lt_succ_self _) open_ carriage lineStart rfl
      by_cases hc : c = '\n'
      · subst hc
        exact dropMarks_newline_withReturns open_ lineStart (next true)
      · have same := afterMark?_withReturns hc h hr lineStart
        cases marked : afterMark? lineStart (c :: cs) with
        | none =>
          have ne : c ≠ '\r' := fun return_ => hr (return_ ▸ List.mem_cons_self)
          have kept (more : List Char) : (c :: more).filter (· != '\r') =
              c :: more.filter (· != '\r') := List.filter_cons_of_pos (by simpa using ne)
          rw [marked, withReturns_cons hc] at same
          rw [withReturns_cons hc, dropMarks_of_none same, dropMarks_of_none marked, kept,
            next]
        | some rest =>
          obtain ⟨mark, ne, split⟩ := exists_of_afterMark? marked
          have shorter : rest.length < (c :: cs).length := by
            have := List.length_pos_iff.2 ne
            rw [split, List.length_append]
            omega
          rw [marked] at same
          rw [split] at h hr marked same ⊢
          rw [withReturns_append] at same ⊢
          rw [dropMarks_of_mark (mt withReturns_eq_nil_iff.1 ne) same,
            dropMarks_of_mark ne marked, getLast?_withReturns]
          exact ih _ shorter h.right (fun hm => hr (List.mem_append_right _ hm)) _ rfl

/-- The lines of a comment say the same. -/
theorem linesOf_withReturns (h : Sealed cs) (hr : '\r' ∉ cs) :
    linesOf (removeMarks (renameTags 0 (withReturns cs))) =
      linesOf (removeMarks (renameTags 0 cs)) := by
  have clean : '\r' ∉ trim (renameTags 0 cs) := by
    intro hm
    rcases mem_of_mem_renameTags (mem_of_mem_trim hm) with inside | letter
    · exact hr inside
    · cases letter
  have left := dropMarks_withReturns h.renameTags.trim clean true
  unfold linesOf removeMarks
  rw [renameTags_withReturns, trim_withReturns, ← left, List.filter_filter]
  simp only [Bool.and_self]

/-! ## Blocks -/

/-- A comment is read to the same elements, at the same place. -/
theorem Block.ofComment_of_alike {returned comment : Comment} (alike : returned.Alike comment)
    (h : Sealed comment.text.toList) (file : String) :
    ofComment file returned = ofComment file comment := by
  unfold ofComment Elements.ofComment
  rw [alike.text, linesOf_withReturns h alike.carriage, alike.startLine, alike.endLine,
    alike.follower]

theorem Block.mapM_ofComment_of_alike {returned comments : List Comment}
    (alike : List.Forall₂ Comment.Alike returned comments)
    (h : ∀ comment ∈ comments, Sealed comment.text.toList) (file : String) :
    returned.mapM (ofComment file) = comments.mapM (ofComment file) := by
  induction alike with
  | nil => rfl
  | cons first rest ih =>
    obtain ⟨here, there⟩ := List.forall_mem_cons.1 h
    rw [List.mapM_cons, List.mapM_cons, ofComment_of_alike first here, ih there]

/-- A source is read to the same blocks, or with the same fault, if its lines end in a return and a
line feed, where no comment ends within one of its comments. -/
theorem Block.ofSource_withReturns (file : String) {code : String} (hr : '\r' ∉ code.toList)
    (h : ∀ comment ∈ Comment.ofSource code.toList, Sealed comment.text.toList) :
    ofSource file (String.ofList (withReturns code.toList)) = ofSource file code := by
  rw [ofSource, String.toList_ofList]
  exact mapM_ofComment_of_alike (Comment.scan_withReturns hr 1 0 0) h file

/-! ### A comment of several lines -/

namespace Several

def line : List Char := "@typedef {any} T".toList

/-- The comment that says the line, on three lines. -/
def code : String := String.ofList (Comment.rendered [line])

def tag : Tag := ⟨.typedef, "any", [.any "*"], "T", "", [], false, none, none, 0⟩

theorem ofSource_code :
    Comment.ofSource code.toList = [⟨code, 0, 1, 3, ""⟩] := by
  rw [code, String.toList_ofList]
  exact Comment.ofSource_rendered (by decide) (by decide)

theorem ofText_line : Tag.ofText .typedef line = .ok tag :=
  Tag.ofText_naming (by cbv) (by cbv) (by cbv) (by cbv)
    (TypeExpr.read_of_shorthand (show _ = some [TypeExpr.any "*"] by cbv)) (by cbv) (by cbv)

theorem ofComment_code : Block.ofComment "a.js" ⟨code, 0, 1, 3, ""⟩ =
    .ok ⟨.naming tag, "a.js", 1, 3, ""⟩ :=
  Block.ofComment_naming "a.js" (by cbv)
    (Elements.ofLines_naming (by cbv) (by cbv) (by cbv) (by decide) ofText_line)

end Several

/-- The comment is read to the same block with returns in front of its line feeds. -/
theorem Block.ofSource_withReturns_several :
    ('\r' ∉ Several.code.toList ∧
      ∀ comment ∈ Comment.ofSource Several.code.toList, Sealed comment.text.toList) ∧
    ofSource "a.js" (String.ofList (withReturns Several.code.toList)) =
      .ok [⟨.naming Several.tag, "a.js", 1, 3, ""⟩] := by
  have carriage : '\r' ∉ Several.code.toList := by decide
  have sealed_ : ∀ comment ∈ Comment.ofSource Several.code.toList,
      Sealed comment.text.toList := by
    rw [Several.ofSource_code]
    intro comment hm
    rw [List.mem_singleton.1 hm]
    exact Comment.ends_of_tails (by decide)
  refine ⟨⟨carriage, sealed_⟩, ?_⟩
  rw [ofSource_withReturns "a.js" carriage sealed_, ofSource, Several.ofSource_code,
    List.mapM_cons, Several.ofComment_code]
  rfl

end Docblock
