import Docblock.Proofs.Filter.Extend
import Docblock.Proofs.Schema.Filtered
import Docblock.Proofs.Text.Nesting

/-!
# Where a filter literal is cut out of a text

The literal in a description is cut out by counting braces, wherever they stand, and only then it is
read. A brace inside a quoted string or a regular expression counts too, and then the cut need not
be where the literal ends (`ofTail_literal`).

There are three cases, and every literal is one of them. Either its braces are nested, and the
description and the filters are told apart. Or one stays open, there is nothing to cut out, and all
of the filters are taken for description. Or they are closed early, and what was cut out is not a
literal, because no literal goes on as another one (`not_readLiteral_append`).

The text in front of the literal has no brace, since the first one is where the cut begins. The
literal stands on one line. Line ends would be put together with the description before the cut, and
a string with a line end in it would be read as another string.
-/

namespace Docblock

namespace Filter

open Text

/-! ## Descriptions on one line -/

/-- A text without the dash that it begins with. -/
def undash : List Char → List Char
  | '-' :: rest => trimStart rest
  | cs => cs

/-- A text whose lines are put on one. -/
def onOneLine (cs : List Char) : List Char :=
  (cs.filter (· != '\r')).map fun c => if c = '\n' then ' ' else c

theorem undash_eq {c : Char} (h : c ≠ '-') (cs : List Char) : undash (c :: cs) = c :: cs := by
  unfold undash
  split
  · rename_i same
    cases same
    exact absurd rfl h
  · rfl

theorem flatten_eq (cs : List Char) : flatten cs = onOneLine (undash (trimStart cs)) := by
  unfold flatten onOneLine
  dsimp only
  cases trimStart cs with
  | nil => rfl
  | cons c rest =>
    by_cases dash : c = '-'
    · subst dash
      rfl
    · rw [undash_eq dash]
      split
      · rename_i same
        cases same
        exact absurd rfl dash
      · rfl

theorem onOneLine_append (cs rest : List Char) :
    onOneLine (cs ++ rest) = onOneLine cs ++ onOneLine rest := by
  simp [onOneLine]

theorem onOneLine_eq {cs : List Char} (h : ∀ c ∈ cs, c ≠ '\n' ∧ c ≠ '\r') : onOneLine cs = cs := by
  have kept : cs.filter (· != '\r') = cs := List.filter_eq_self.2 fun c hc => by simp [h c hc]
  rw [onOneLine, kept]
  refine (List.map_congr_left fun c hc => ?_).trans (List.map_id cs)
  rw [if_neg (h c hc).1, id]

theorem blanks_onOneLine {cs : List Char} (h : Blanks cs) : Blanks (onOneLine cs) := by
  intro c hc
  obtain ⟨d, hd, rfl⟩ := List.mem_map.1 hc
  split
  · rfl
  · exact h d ((List.mem_filter.1 hd).1)

theorem mem_of_mem_onOneLine {cs : List Char} {c : Char} (h : c ∈ onOneLine cs) :
    c ∈ cs ∨ c = ' ' := by
  obtain ⟨d, hd, rfl⟩ := List.mem_map.1 h
  split
  · exact .inr rfl
  · exact .inl ((List.mem_filter.1 hd).1)

theorem mem_of_mem_undash {cs : List Char} {c : Char} (h : c ∈ undash cs) : c ∈ cs := by
  unfold undash at h
  split at h
  · exact List.mem_cons_of_mem _ (mem_of_mem_trimStart h)
  · exact h

theorem mem_of_mem_flatten {cs : List Char} {c : Char} (h : c ∈ flatten cs) :
    c ∈ cs ∨ c = ' ' := by
  rw [flatten_eq] at h
  exact (mem_of_mem_onOneLine h).imp_left fun h => mem_of_mem_trimStart (mem_of_mem_undash h)

/-- What follows a text stays as it is, when it is on one line and begins with neither a blank nor
a dash. -/
theorem flatten_append {w : List Char} (hw : ∀ c ∈ w.head?, isBlank c = false ∧ c ≠ '-')
    (line : ∀ c ∈ w, c ≠ '\n' ∧ c ≠ '\r') (cs : List Char) :
    flatten (cs ++ w) = flatten cs ++ w := by
  have starts : ∀ c ∈ w.head?, isBlank c = false := fun c hc => (hw c hc).1
  have undashed : undash (trimStart cs ++ w) = undash (trimStart cs) ++ w := by
    cases trimStart cs with
    | nil =>
      cases w with
      | nil => rfl
      | cons c rest => exact undash_eq (hw c rfl).2 rest
    | cons c rest =>
      by_cases dash : c = '-'
      · subst dash
        exact trimStart_append_of_head starts rest
      · rw [List.cons_append, undash_eq dash, undash_eq dash, List.cons_append]
  rw [flatten_eq, flatten_eq, trimStart_append_of_head starts, undashed, onOneLine_append,
    onOneLine_eq line]

theorem exists_undash_append {blanks : List Char} (hb : Blanks blanks) (cs : List Char) :
    ∃ more, Blanks more ∧ undash (cs ++ blanks) = undash cs ++ more := by
  cases cs with
  | nil =>
    refine ⟨blanks, hb, ?_⟩
    cases blanks with
    | nil => rfl
    | cons c rest =>
      refine undash_eq ?_ rest
      rintro rfl
      cases hb '-' (by simp)
  | cons c rest =>
    by_cases dash : c = '-'
    · subst dash
      exact exists_trimStart_append hb rest
    · refine ⟨blanks, hb, ?_⟩
      rw [List.cons_append, undash_eq dash, undash_eq dash, List.cons_append]

/-- Blanks at the end of a text are trimmed from its description. -/
theorem trim_flatten_append {blanks : List Char} (hb : Blanks blanks) (cs : List Char) :
    trim (flatten (cs ++ blanks)) = trim (flatten cs) := by
  obtain ⟨more, hm, start⟩ := exists_trimStart_append hb cs
  obtain ⟨more', hm', undashed⟩ := exists_undash_append hm (trimStart cs)
  rw [flatten_eq, flatten_eq, start, undashed, onOneLine_append]
  exact trim_append_blanks _ (blanks_onOneLine hm')

/-! ## The cut -/

/-- A text is cut at its first brace, and where the braces are closed again. -/
theorem splitBraces?_append {before rest : List Char} (plain : '{' ∉ before) :
    splitBraces? (before ++ '{' :: rest) = (closingBracket? ('{' :: rest)).map fun n =>
      (before, ('{' :: rest).take (n + 1), ('{' :: rest).drop (n + 1)) := by
  have taken : (before ++ '{' :: rest).takeWhile (· != '{') = before := by
    rw [List.takeWhile_append_of_pos]
    · simp
    · intro c hc
      exact bne_iff_ne.2 fun same => plain (same ▸ hc)
  unfold splitBraces?
  rw [taken]
  dsimp only
  rw [List.drop_left]
  cases closingBracket? ('{' :: rest) <;> rfl

/-! ## Filters that are allowed -/

theorem checkOne_of_fits {category : Category} {shown : Except Fault String} {filter : Filter}
    (h : filter.Fits category) : checkOne category shown filter = .ok () := by
  obtain ⟨rule, hrule, hkind, hstep⟩ := h
  unfold checkOne
  rw [hrule]
  dsimp only
  rw [if_neg (by simp [hkind]), if_neg (by simpa using hstep)]

theorem checkAllowed_of_takes {literal : String} {filters : List Filter} {type : TypeExpr}
    (h : filters = [] ∨ type.Takes filters) : checkAllowed literal filters type = .ok () := by
  unfold checkAllowed
  rcases h with rfl | nullish | ⟨category, hc, fits⟩
  · rfl
  · rw [if_pos (by simp [nullish])]
  · split
    · rfl
    · rw [hc]
      exact forM_eq_ok.2 fun filter hf => checkOne_of_fits (fits filter hf)

theorem forM_checkAllowed {literal : String} {filters : List Filter} {types : List TypeExpr}
    (h : Allowed types filters) : types.forM (checkAllowed literal filters) = .ok () :=
  forM_eq_ok.2 fun type ht => checkAllowed_of_takes (h.imp_right fun all => all type ht)

/-! ## Literals -/

/-- Blanks around a literal make no difference. -/
theorem readLiteral_trim (cs : List Char) : readLiteral (trim cs) = readLiteral cs := by
  unfold readLiteral
  rw [trim_trim]

/-- A literal begins with a brace. -/
theorem exists_of_readLiteral {cs : List Char} {entries : List (String × Value)}
    (h : readLiteral cs = .ok entries) : ∃ rest, trim cs = '{' :: rest := by
  obtain ⟨rest, opened, -⟩ := bind_eq_ok.1 h
  have start : trimStart (trim cs) = trim cs := trimStart_append [] (by simp) (tight_trim cs).starts
  unfold expect at opened
  rw [start] at opened
  split at opened
  · rename_i c rest' same
    split at opened
    · rename_i brace
      exact ⟨rest', brace ▸ same⟩
    · exact absurd opened refuse_ne_ok
  · exact absurd opened refuse_ne_ok

/-! ## What is read of a description before a literal -/

theorem join_singleton_filter (part : List Char) :
    join [' '] ([part, []].filter fun part => !part.isEmpty) = part := by
  cases part <;> rfl

/-- On one line, a description ends in its literal and blanks. -/
theorem flatten_literal {literal : List Char} {entries : List (String × Value)}
    (line : ∀ c ∈ literal, c ≠ '\n' ∧ c ≠ '\r') (read : readLiteral literal = .ok entries)
    (before : List Char) :
    ∃ spaces after, Blanks spaces ∧ Blanks after ∧
      flatten (before ++ ' ' :: literal) =
        flatten (before ++ spaces) ++ (trim literal ++ after) := by
  obtain ⟨tail, brace⟩ := exists_of_readLiteral read
  obtain ⟨blanks, after, hb, ha, split⟩ := exists_trim literal
  rw [List.append_assoc] at split
  refine ⟨' ' :: blanks, after, ?_, ha, ?_⟩
  · intro c hc
    rcases List.mem_cons.1 hc with rfl | hc
    · rfl
    · exact hb c hc
  · have whole : before ++ ' ' :: literal = before ++ ' ' :: blanks ++ (trim literal ++ after) := by
      rw [List.append_assoc, List.cons_append, ← split]
    rw [whole]
    refine flatten_append (fun c hc => ?_) (fun c hc => line c ?_) _
    · rw [brace] at hc
      cases hc
      decide
    · rw [split]
      exact List.mem_append_right _ hc

theorem brace_not_mem_flatten {cs spaces : List Char} (plain : '{' ∉ cs) (hs : Blanks spaces) :
    '{' ∉ flatten (cs ++ spaces) := by
  intro hm
  rcases mem_of_mem_flatten hm with hm | hm
  · rcases List.mem_append.1 hm with hm | hm
    · exact plain hm
    · exact hs.not_mem (by decide) hm
  · cases hm

/-- A description with a literal at its end is cut where the braces of the literal are closed,
counted wherever they stand. -/
theorem ofTail_cut {before literal : List Char} {entries : List (String × Value)}
    (plain : '{' ∉ before) (line : ∀ c ∈ literal, c ≠ '\n' ∧ c ≠ '\r')
    (read : readLiteral literal = .ok entries) (types : List TypeExpr) :
    ofTail (before ++ ' ' :: literal) types =
      match closingBracket? (trim literal) with
      | none => .ok (String.ofList (trim (flatten (before ++ ' ' :: literal))), [])
      | some n => do
        let parts := [trim (flatten before), trim ((trim literal).drop (n + 1))].filter
          fun part => !part.isEmpty
        let filters := (← readLiteral ((trim literal).take (n + 1))).map ofEntry
        types.forM (checkAllowed (String.ofList ((trim literal).take (n + 1))) filters)
        return (String.ofList (join [' '] parts), filters) := by
  obtain ⟨tail, brace⟩ := exists_of_readLiteral read
  obtain ⟨spaces, after, hs, ha, flat⟩ := flatten_literal line read before
  rw [brace, List.cons_append] at flat
  -- What is left of the line behind the literal has no bracket in it.
  have closed : closingBracket? ('{' :: (tail ++ after)) = closingBracket? (trim literal) := by
    rw [brace, closingBracket?_brace, closingBracket?_brace,
      closingFrom_append (ha.not_mem (by decide)) (ha.not_mem (by decide))]
  unfold ofTail
  dsimp only
  rw [flat, splitBraces?_append (brace_not_mem_flatten plain hs), closed, ← flat]
  cases found : closingBracket? (trim literal) with
  | none => rfl
  | some n =>
    have inside : n + 1 ≤ (trim literal).length := by
      rw [brace] at found ⊢
      exact closingBracket?_lt found
    have front : ('{' :: (tail ++ after)).take (n + 1) = (trim literal).take (n + 1) := by
      rw [← List.cons_append, ← brace, List.take_append_of_le_length inside]
    have back : trim (('{' :: (tail ++ after)).drop (n + 1)) =
        trim ((trim literal).drop (n + 1)) := by
      rw [← List.cons_append, ← brace, List.drop_append_of_le_length inside,
        trim_append_blanks _ ha]
    rw [Option.map_some]
    dsimp only
    rw [front, back, trim_flatten_append hs]

/-! ## Where the cut falls -/

section

variable {before literal : List Char} {entries : List (String × Value)} {types : List TypeExpr}

/-- A description and a literal of nested braces are told apart. -/
theorem ofTail_of_nested (plain : '{' ∉ before) (line : ∀ c ∈ literal, c ≠ '\n' ∧ c ≠ '\r')
    (read : readLiteral literal = .ok entries) (allowed : Allowed types (entries.map ofEntry))
    (nested : Nested (trim literal)) :
    ofTail (before ++ ' ' :: literal) types =
      .ok (String.ofList (trim (flatten before)), entries.map ofEntry) := by
  obtain ⟨tail, brace⟩ := exists_of_readLiteral read
  have found : closingBracket? (trim literal) = some tail.length := by
    rw [brace] at nested ⊢
    exact closingBracket?_eq_length_iff.2 nested
  have size : (trim literal).length = tail.length + 1 := by rw [brace, List.length_cons]
  rw [ofTail_cut plain line read, found]
  dsimp only
  rw [← size, List.take_length, List.drop_length, readLiteral_trim, read]
  refine bind_eq_ok.2 ⟨_, rfl, bind_eq_ok.2 ⟨(), forM_checkAllowed allowed, ?_⟩⟩
  rw [pure_eq_ok]
  exact congrArg (fun part => (String.ofList part, entries.map ofEntry)) (join_singleton_filter _)

/-- A literal in which a brace stays open is no literal, but more description. -/
theorem ofTail_of_open (plain : '{' ∉ before) (line : ∀ c ∈ literal, c ≠ '\n' ∧ c ≠ '\r')
    (read : readLiteral literal = .ok entries)
    (stays : StaysOpen (trim literal)) :
    ofTail (before ++ ' ' :: literal) types =
      .ok (String.ofList (trim (flatten (before ++ ' ' :: literal))), []) := by
  obtain ⟨tail, brace⟩ := exists_of_readLiteral read
  have missing : closingBracket? (trim literal) = none := by
    rw [brace] at stays ⊢
    exact closingBracket?_eq_none_iff.2 stays
  rw [ofTail_cut plain line read, missing]

/-- What is cut out of a literal before its end cannot be read. -/
theorem ofTail_of_early (plain : '{' ∉ before) (line : ∀ c ∈ literal, c ≠ '\n' ∧ c ≠ '\r')
    (read : readLiteral literal = .ok entries) (early : ClosesEarly (trim literal)) :
    ∃ fault, ofTail (before ++ ' ' :: literal) types = .error fault := by
  obtain ⟨n, early, pos, closed⟩ := early
  obtain ⟨tail, brace⟩ := exists_of_readLiteral read
  rw [ofTail_cut plain line read]
  cases found : closingBracket? (trim literal) with
  | none =>
    rw [brace] at found closed
    exact absurd (closingBracket?_eq_none_iff.1 found n pos) closed
  | some m =>
    dsimp only
    have cut : (trim literal).drop (m + 1) ≠ [] := by
      intro all
      -- Then the braces are closed at the end, and no earlier.
      have all : tail.length ≤ m := by
        have size := List.drop_eq_nil_iff.1 all
        rw [brace, List.length_cons] at size
        omega
      rw [brace] at found early closed
      have inside := closingBracket?_lt found
      rw [List.length_cons] at inside
      rw [Nat.le_antisymm (Nat.le_of_lt_succ inside) all] at found
      exact closed ((closingBracket?_eq_length_iff.1 found).inside n early pos)
    cases hr : readLiteral ((trim literal).take (m + 1)) with
    | error fault => exact ⟨fault, rfl⟩
    | ok others =>
      have whole := List.take_append_drop (m + 1) (trim literal)
      have tight := tight_trim literal
      rw [← whole] at tight
      have again : readLiteral (trim literal) = .ok entries := by rw [readLiteral_trim, read]
      rw [← whole] at again
      exact absurd again (not_readLiteral_append hr tight cut)

/-- A description and a literal at its end are told apart just when the braces of the literal are
nested, those in its strings and regular expressions counted too. If one stays open, all filters
are lost and the literal is taken for description; if they are closed before the end, reading ends
in a fault. -/
theorem ofTail_literal (plain : '{' ∉ before) (line : ∀ c ∈ literal, c ≠ '\n' ∧ c ≠ '\r')
    (read : readLiteral literal = .ok entries) (allowed : Allowed types (entries.map ofEntry)) :
    (ofTail (before ++ ' ' :: literal) types =
        .ok (String.ofList (trim (flatten before)), entries.map ofEntry) ↔
      Nested (trim literal)) ∧
    (StaysOpen (trim literal) → ofTail (before ++ ' ' :: literal) types =
      .ok (String.ofList (trim (flatten (before ++ ' ' :: literal))), [])) ∧
    (ClosesEarly (trim literal) →
      ∃ fault, ofTail (before ++ ' ' :: literal) types = .error fault) := by
  refine ⟨⟨fun told => ?_, ofTail_of_nested plain line read allowed⟩,
    ofTail_of_open plain line read, ofTail_of_early plain line read⟩
  rcases nested_or_staysOpen_or_closesEarly (trim literal) with nested | stays | early
  · exact nested
  · -- The brace of the literal is in what is taken for the description.
    rw [ofTail_of_open plain line read stays] at told
    injection told with told
    have same := String.ofList_injective (congrArg Prod.fst told)
    obtain ⟨tail, brace⟩ := exists_of_readLiteral read
    obtain ⟨spaces, after, -, -, flat⟩ := flatten_literal line read before
    have kept : '{' ∈ trim (flatten (before ++ ' ' :: literal)) := by
      refine mem_trim ?_ (by decide)
      rw [flat, brace]
      simp
    rw [same] at kept
    have absent := brace_not_mem_flatten plain blanks_nil
    rw [List.append_nil] at absent
    exact absurd (mem_of_mem_trim kept) absent
  · obtain ⟨fault, refused⟩ := ofTail_of_early plain line read early
    rw [refused] at told
    cases told

/-- A string with a brace that is not closed takes its filter, and every other, with it. -/
theorem ofTail_literal_unclosed :
    readLiteral "\x7bincludes: '\x7b', min: 2\x7d".toList =
      .ok [("includes", .string "\x7b"), ("min", .int 2)] ∧
    ofTail "name \x7bincludes: '\x7b', min: 2\x7d".toList [.primitive "string" .string] =
      .ok ("name \x7bincludes: '\x7b', min: 2\x7d", []) := by
  have read : readLiteral "\x7bincludes: '\x7b', min: 2\x7d".toList =
      .ok [("includes", .string "\x7b"), ("min", .int 2)] := by rfl
  have allowed : Allowed [.primitive "string" .string]
      ([("includes", Value.string "\x7b"), ("min", .int 2)].map ofEntry) := by
    refine .inr fun type mem => .inr ⟨.string, ?_⟩
    cases List.mem_singleton.1 mem
    refine ⟨rfl, fun filter mem => ?_⟩
    simp only [List.map_cons, List.map_nil, List.mem_cons, List.not_mem_nil, or_false] at mem
    rcases mem with rfl | rfl
    · exact ⟨_, rfl, rfl, by decide⟩
    · exact ⟨_, rfl, rfl, by decide⟩
  have all := ofTail_literal (by decide : '{' ∉ "name".toList) (by decide) read allowed
  refine ⟨read, all.2.1 (closingBracket?_eq_none_iff.1 ?_)⟩
  rfl

end

end Filter

end Docblock
