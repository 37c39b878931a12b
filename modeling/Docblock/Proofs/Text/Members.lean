import Docblock.Proofs.Text.Remark

/-!
# Members are cut once

Cutting a text at separators loses nothing: the pieces with the separators between them are the text
(`exists_woven_pieces`). A piece is scanned alone as it was scanned in the text, whatever follows it
there and whatever stays open in it, so no member is cut again (`pieces_of_mem_pieces`). One text is
an exception: an open parenthesis and nothing else is taken for a pair of them, and is lost
(`cuts_split_iff`).

The scan looks ahead for closing brackets and quotes, so a piece could be read otherwise once the
rest is gone. It is not, and that is the argument of this file: a search that ended inside the piece
ends there still, and one that ended behind it would have skipped the separator that ends the piece
(`getD_succ_eq_of_le`, `spanOffset_of_append`, `skipFrom_of_append`).

Nothing is assumed of brackets or quotes. Where the cuts should be is another question, which only
texts with closed strings and nested brackets have an answer to.
-/

namespace Docblock.Text

variable {separators cs : List Char}

/-! ## Searches that end inside a text -/

theorem closingFrom_of_append {opener closer : Char} {depth n : Nat} {more : List Char}
    (ne : opener ≠ closer) (pos : 0 < depth)
    (h : closingFrom opener closer depth (cs ++ more) = some n) (inside : n < cs.length) :
    closingFrom opener closer depth cs = some n := by
  have here := (closingFrom_eq_some_iff ne pos).1 h
  refine (closingFrom_eq_some_iff ne pos).2 ⟨inside, fun m hm => ?_, ?_⟩
  · have unclosed := here.unclosed m hm
    rwa [List.take_append_of_le_length (by omega)] at unclosed
  · have closed := here.closed
    rwa [List.take_append_of_le_length (by omega)] at closed

theorem closingQuoteFrom_of_append {quote before : Char} {n : Nat} {more : List Char}
    (h : closingQuoteFrom quote before (cs ++ more) = some n) (inside : n < cs.length) :
    closingQuoteFrom quote before cs = some n := by
  induction cs generalizing before n with
  | nil => exact absurd inside (Nat.not_lt_zero n)
  | cons c cs ih =>
    rw [List.cons_append, closingQuoteFrom] at h
    rw [closingQuoteFrom]
    split at h
    · rwa [if_pos (by assumption)]
    · obtain ⟨m, hm, rfl⟩ := Option.map_eq_some_iff.1 h
      rw [if_neg (by assumption), ih hm (Nat.lt_of_succ_lt_succ inside)]
      rfl

/-- A search that ends inside a text ends there in the text alone. -/
theorem getD_succ_eq_of_le {short long : Option Nat} {length : Nat}
    (extends_ : ∀ n, short = some n → long = some n)
    (restricts : ∀ n, long = some n → n < length → short = some n)
    (inside : (long.map (· + 1)).getD 0 ≤ length) :
    (short.map (· + 1)).getD 0 = (long.map (· + 1)).getD 0 := by
  cases found : long with
  | none =>
    cases hs : short with
    | none => rfl
    | some n =>
      rw [extends_ n hs] at found
      cases found
  | some n =>
    rw [found] at inside
    rw [restricts n found inside]

/-! ## Spans -/

section

variable {c : Char}

/-- A span that ends inside a text, or is not closed in more than it, is the span in the text. -/
theorem spanOffset_of_append {more : List Char}
    (inside : spanOffset (c :: (cs ++ more)) ≤ cs.length) :
    spanOffset (c :: cs) = spanOffset (c :: (cs ++ more)) := by
  cases pair : closerOf? c with
  | some closer =>
    have ne := (closerOf?_disjoint pair pair).1
    rw [spanOffset_of_opener pair] at inside
    rw [spanOffset_of_opener pair, spanOffset_of_opener pair]
    exact getD_succ_eq_of_le (fun n hn => closingFrom_append_of_some ne (by decide) hn more)
      (fun n => closingFrom_of_append ne (by decide)) inside
  | none =>
    cases quote : isQuote c with
    | true =>
      rw [spanOffset_of_quote quote] at inside
      rw [spanOffset_of_quote quote, spanOffset_of_quote quote]
      exact getD_succ_eq_of_le (fun n hn => closingQuoteFrom_append_of_some hn more)
        (fun n => closingQuoteFrom_of_append) inside
    | false => rw [spanOffset_of_other pair quote, spanOffset_of_other pair quote]

/-- What is skipped inside a text is skipped in the text alone. -/
theorem skipFrom_of_append {previous : Option Char} {more : List Char} (ne : more ≠ [])
    (inside : skipFrom previous (c :: (cs ++ more)) ≤ cs.length) :
    skipFrom previous (c :: cs) = skipFrom previous (c :: (cs ++ more)) := by
  by_cases remark : c = '/' ∧ previous = some '/'
  · rw [skipFrom, if_pos remark] at inside
    rw [skipFrom, skipFrom, if_pos remark, if_pos remark]
    rw [← List.cons_append] at inside ⊢
    by_cases ends : '\n' ∈ c :: cs
    · obtain ⟨line, rest, split, one⟩ := List.eq_append_cons_of_mem ends
      rw [split, List.append_assoc, List.cons_append, lineEnd_newline one, lineEnd_newline one]
    · -- A remark that goes on to the end of the text, or to a later line, is not inside.
      exfalso
      by_cases after : '\n' ∈ more
      · obtain ⟨line, rest, rfl, one⟩ := List.eq_append_cons_of_mem after
        have free : '\n' ∉ c :: cs ++ line := fun hm => (List.mem_append.1 hm).elim ends one
        rw [← List.append_assoc, lineEnd_newline free] at inside
        simp only [List.length_append, List.length_cons] at inside
        omega
      · have free : '\n' ∉ c :: cs ++ more := fun hm => (List.mem_append.1 hm).elim ends after
        have pos := List.length_pos_iff.2 ne
        rw [lineEnd_last free] at inside
        simp only [List.length_append, List.length_cons] at inside
        omega
  · rw [skipFrom, if_neg remark] at inside
    rw [skipFrom, skipFrom, if_neg remark, if_neg remark]
    exact spanOffset_of_append inside

end

/-! ## Pieces -/

section

variable {skip : Nat} {previous : Option Char} {piece : List Char} {more ps : List (List Char)}

/-- The first piece is all of the text, or a separator stands behind it. -/
theorem exists_of_pieces_eq_cons (h : pieces separators skip previous cs = piece :: more) :
    (more = [] ∧ piece = cs) ∨ ∃ s rest, s ∈ separators ∧ cs = piece ++ s :: rest ∧
      skip ≤ piece.length ∧ more = pieces separators 0 (some s) rest := by
  induction cs generalizing skip previous piece with
  | nil =>
    refine .inl ?_
    cases skip <;>
    · rw [pieces] at h
      cases h
      exact ⟨rfl, rfl⟩
  | cons c cs ih =>
    cases skip with
    | succ skip =>
      rw [pieces] at h
      obtain ⟨rest, tail, rfl⟩ := exists_of_consPiece_eq_cons h (pieces_ne_nil _ _ _ _)
      rcases ih tail with ⟨rfl, rfl⟩ | ⟨s, after, hs, rfl, inside, rfl⟩
      · exact .inl ⟨rfl, rfl⟩
      · exact .inr ⟨s, after, hs, rfl, Nat.succ_le_succ inside, rfl⟩
    | zero =>
      rw [pieces] at h
      split at h
      · rename_i separator
        obtain ⟨rfl, rfl⟩ := List.cons.inj h
        exact .inr ⟨c, cs, separator, rfl, Nat.zero_le _, rfl⟩
      · obtain ⟨rest, tail, rfl⟩ := exists_of_consPiece_eq_cons h (pieces_ne_nil _ _ _ _)
        rcases ih tail with ⟨rfl, rfl⟩ | ⟨s, after, hs, rfl, -, rfl⟩
        · exact .inl ⟨rfl, rfl⟩
        · exact .inr ⟨s, after, hs, rfl, Nat.zero_le _, rfl⟩

/-- What a scan skips in the first piece it skips there when nothing else follows. -/
theorem pieces_of_head (h : pieces separators skip previous cs = piece :: more) :
    pieces separators skip previous piece = [piece] := by
  induction cs generalizing skip previous piece with
  | nil =>
    cases skip <;>
    · rw [pieces] at h
      cases h
      rfl
  | cons c cs ih =>
    cases skip with
    | succ skip =>
      rw [pieces] at h
      obtain ⟨rest, tail, rfl⟩ := exists_of_consPiece_eq_cons h (pieces_ne_nil _ _ _ _)
      rw [pieces, ih tail, consPiece]
    | zero =>
      by_cases separator : c ∈ separators
      · rw [pieces, if_pos separator] at h
        obtain ⟨rfl, -⟩ := List.cons.inj h
        rfl
      · have whole := h
        rw [pieces, if_neg separator] at h
        obtain ⟨rest, tail, rfl⟩ := exists_of_consPiece_eq_cons h (pieces_ne_nil _ _ _ _)
        rcases exists_of_pieces_eq_cons tail with ⟨rfl, rfl⟩ | ⟨s, after, -, rfl, inside, -⟩
        · exact whole
        · rw [pieces, if_neg separator, skipFrom_of_append (List.cons_ne_nil s after) inside,
            ih tail, consPiece]

/-- A piece is not cut again. -/
theorem pieces_of_mem_pieces (free : Separating separators) (fresh : previous ≠ some '/')
    (h : piece ∈ pieces separators 0 previous cs) : pieces separators 0 none piece = [piece] := by
  induction cut : pieces separators 0 previous cs generalizing cs previous with
  | nil => exact absurd cut (pieces_ne_nil _ _ _ _)
  | cons first more ih =>
    rw [cut] at h
    rcases List.mem_cons.1 h with rfl | h
    · rw [← pieces_previous fresh (by simp)]
      exact pieces_of_head cut
    · rcases exists_of_pieces_eq_cons cut with ⟨rfl, -⟩ | ⟨s, rest, hs, -, -, rfl⟩
      · cases h
      · have other : some s ≠ some '/' := fun same => (free s hs).2.2.2 (Option.some.inj same)
        exact ih other h rfl

/-! ## Nothing is lost -/

/-- A first piece, and more pieces with the separator in front of each. -/
def woven (first : List Char) (more : List (Char × List Char)) : List Char :=
  first ++ more.flatMap fun next => next.1 :: next.2

/-- Some members are those of a text that is cut at separators: the trimmed pieces, in order. -/
def Cuts (separators text : List Char) (members : List (List Char)) : Prop :=
  ∃ first more, (∀ next ∈ more, next.1 ∈ separators) ∧ text = woven first more ∧
    members = (first :: more.map (·.2)).map trim

/-- The pieces of a text and the separators between them are the text. -/
theorem exists_woven_pieces (separators : List Char) (skip : Nat) (previous : Option Char)
    (cs : List Char) : ∃ first more, (∀ next ∈ more, next.1 ∈ separators) ∧
      cs = woven first more ∧ pieces separators skip previous cs = first :: more.map (·.2) := by
  induction cut : pieces separators skip previous cs generalizing cs skip previous with
  | nil => exact absurd cut (pieces_ne_nil _ _ _ _)
  | cons piece others ih =>
    rcases exists_of_pieces_eq_cons cut with ⟨rfl, rfl⟩ | ⟨s, rest, hs, rfl, -, rfl⟩
    · exact ⟨piece, [], by simp, by simp [woven], rfl⟩
    · obtain ⟨first, more, separate, rfl, tail⟩ := ih _ _ _ rfl
      refine ⟨piece, (s, first) :: more, ?_, by simp [woven], by rw [tail]; rfl⟩
      rintro next (_ | ⟨_, hn⟩)
      · exact hs
      · exact separate next hn

/-- The characters of a piece are characters of the text. -/
theorem mem_of_mem_pieces {c : Char} (hp : piece ∈ pieces separators skip previous cs)
    (hc : c ∈ piece) : c ∈ cs := by
  obtain ⟨first, more, -, rfl, cut⟩ := exists_woven_pieces separators skip previous cs
  rw [cut] at hp
  rcases List.mem_cons.1 hp with rfl | hp
  · exact List.mem_append_left _ hc
  · obtain ⟨next, hn, rfl⟩ := List.mem_map.1 hp
    exact List.mem_append_right _ (List.mem_flatMap.2 ⟨next, hn, List.mem_cons_of_mem _ hc⟩)

end

/-! ## Members -/

/-- The characters that types and members are separated by. -/
def memberSeparators : List Char := ['|', '&', ',', ':']

theorem separating_of_subset (chosen : separators ⊆ memberSeparators) : Separating separators := by
  have all : Separating memberSeparators := by
    unfold Separating
    decide
  exact fun c hc => all c (chosen hc)

/-- What is left of a text without the blanks around it and one pair of parentheses around all of
it. -/
def Stripped (cs text : List Char) : Prop :=
  (¬InParentheses cs ∧ text = trim cs) ∨
    ∃ inner, Paired '(' ')' inner ∧ trim cs = parenthesized inner ∧ text = trim inner

theorem not_inParentheses_of_alone (alone : trim cs = ['(']) : ¬InParentheses cs := by
  rintro ⟨inner, -, text⟩
  have lengths := congrArg List.length (alone.symm.trans text)
  simp [parenthesized] at lengths

theorem unwrap_of_stripped {text : List Char} (stripped : Stripped cs text)
    (several : trim cs ≠ ['(']) : unwrap cs = text := by
  rcases stripped with ⟨bare, rfl⟩ | ⟨inner, paired, whole, rfl⟩
  · rcases unwrap_cases cs with same | alone | wrapped
    · exact same
    · exact absurd alone several
    · exact absurd wrapped bare
  · rw [← unwrap_trim, whole, unwrap_parenthesized paired]

theorem mem_of_mem_unwrap {c : Char} (h : c ∈ unwrap cs) : c ∈ cs := by
  unfold unwrap at h
  dsimp only at h
  split at h
  · exact mem_of_mem_trim (List.mem_of_mem_drop (List.mem_of_mem_dropLast (mem_of_mem_trim h)))
  · exact mem_of_mem_trim h

/-- The characters of a member are characters of the text. -/
theorem mem_of_mem_split {member : List Char} {c : Char} (hm : member ∈ split separators cs)
    (hc : c ∈ member) : c ∈ cs := by
  obtain ⟨piece, hp, rfl⟩ := List.mem_map.1 hm
  exact mem_of_mem_unwrap (mem_of_mem_pieces hp (mem_of_mem_trim hc))

/-- An open parenthesis and nothing else has one member, which is empty. -/
theorem split_of_alone (alone : trim cs = ['(']) : split separators cs = [[]] := by
  have empty : unwrap cs = [] := by
    rw [← unwrap_trim, alone]
    rfl
  rw [split, empty]
  rfl

theorem split_of_mem_split (free : Separating separators) {member : List Char}
    (h : member ∈ split separators cs) (whole : unwrap member = trim member) :
    split separators member = [member] := by
  rw [split_eq_members] at h
  rw [members_eq free] at h
  obtain ⟨piece, hp, rfl⟩ := List.mem_map.1 h
  rw [split_eq_members, whole, trim_trim, members_trim, members_eq free,
    pieces_of_mem_pieces free (by simp) hp, List.map_singleton]

/-- Cutting a text at separators loses nothing, and a member that is not in parentheses is not cut
again: both just when the text, or the member, is not an open parenthesis alone. Parentheses count
wherever they stand, in quoted text as well. -/
theorem cuts_split_iff (chosen : separators ⊆ memberSeparators) (cs : List Char) :
    (∀ text, Stripped cs text → (Cuts separators text (split separators cs) ↔ trim cs ≠ ['('])) ∧
    ∀ member ∈ split separators cs, ¬InParentheses member →
      (split separators member = [member] ↔ member ≠ ['(']) := by
  have free := separating_of_subset chosen
  refine ⟨fun text stripped => ⟨?_, fun several => ?_⟩,
    fun member found bare => ⟨?_, fun several => ?_⟩⟩
  · rintro ⟨first, more, -, rfl, same⟩ alone
    rw [split_of_alone alone] at same
    obtain ⟨blank, none⟩ := List.cons.inj same
    obtain rfl : more = [] := by simpa using none.symm
    rcases stripped with ⟨-, text⟩ | ⟨inner, paired, wrapped, -⟩
    · rw [woven, List.flatMap_nil, List.append_nil] at text
      rw [text, alone] at blank
      cases blank
    · exact not_inParentheses_of_alone alone ⟨inner, paired, wrapped⟩
  · obtain ⟨first, more, separate, whole, cut⟩ := exists_woven_pieces separators 0 none text
    refine ⟨first, more, separate, whole, ?_⟩
    rw [split, unwrap_of_stripped stripped several, cut]
  · rintro same rfl
    rw [split_of_alone rfl] at same
    cases same
  · have tight : trim member = member := by
      obtain ⟨piece, -, rfl⟩ := List.mem_map.1 found
      exact trim_trim piece
    refine split_of_mem_split free found ?_
    rcases unwrap_cases member with whole | alone | wrapped
    · exact whole
    · rw [tight] at alone
      exact absurd alone several
    · exact absurd wrapped bare

/-- A text in parentheses, with brackets and quotes around separators and a bracket that stays
open, is cut without loss, and the member with the open bracket is not cut again. -/
theorem cuts_split_iff_open :
    ['|'] ⊆ memberSeparators ∧
    Stripped " (a<b|c>|'d|e'|f<|(g)) ".toList "a<b|c>|'d|e'|f<|(g)".toList ∧
    Cuts ['|'] "a<b|c>|'d|e'|f<|(g)".toList (split ['|'] " (a<b|c>|'d|e'|f<|(g)) ".toList) ∧
    "f<".toList ∈ split ['|'] " (a<b|c>|'d|e'|f<|(g)) ".toList ∧
    split ['|'] "f<".toList = ["f<".toList] := by
  have chosen : ['|'] ⊆ memberSeparators := by decide
  have stripped : Stripped " (a<b|c>|'d|e'|f<|(g)) ".toList "a<b|c>|'d|e'|f<|(g)".toList :=
    .inr ⟨"a<b|c>|'d|e'|f<|(g)".toList, by decide, by decide, by decide⟩
  have found : "f<".toList ∈ split ['|'] " (a<b|c>|'d|e'|f<|(g)) ".toList := by decide
  have bare : ¬InParentheses "f<".toList := by
    rintro ⟨inner, -, text⟩
    have start : (trim "f<".toList).head? = some '(' := congrArg List.head? text
    exact absurd start (by decide)
  obtain ⟨whole, member⟩ := cuts_split_iff chosen " (a<b|c>|'d|e'|f<|(g)) ".toList
  exact ⟨chosen, stripped, (whole _ stripped).2 (by decide), found,
    (member _ found bare).2 (by decide)⟩

example : split ['|'] "a|(".toList = ["a".toList, "(".toList] ∧ split ['|'] "(".toList = [[]] := by
  decide

end Docblock.Text
