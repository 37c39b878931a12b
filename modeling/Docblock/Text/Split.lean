import Docblock.Text.Bracket

/-!
# Splitting at the top level

A text is cut at separators that stand outside brackets, quotes and remarks. Cutting loses nothing
but the separators: the pieces and the separators between them make up the text.

What is outside is found from the left, one span after the other, and is not the same as what a
reader of the whole text would see. The pieces are trimmed at the end and may be empty. Which of
them mean anything is left to the caller.
-/

namespace Docblock.Text

/-- How many characters after this one are skipped with it: the rest of a bracketed or quoted
span, or of a line after two slashes. -/
def skipFrom (previous : Option Char) : List Char → Nat
  | [] => 0
  | c :: rest =>
    if c = '/' ∧ previous = some '/' then (lineEnd (c :: rest) 0).toNat
    else spanOffset (c :: rest)

/-- Put a character in front of the first piece. -/
def consPiece (c : Char) : List (List Char) → List (List Char)
  | [] => [[c]]
  | piece :: rest => (c :: piece) :: rest

/-- The pieces between all occurrences of one character. -/
def splitOn (separator : Char) : List Char → List (List Char)
  | [] => [[]]
  | c :: rest =>
    if c = separator then [] :: splitOn separator rest else consPiece c (splitOn separator rest)

/-- The pieces between top-level separators. The first `skip` characters are taken as they are;
`previous` is the character that opened the span before this place. -/
def pieces (separators : List Char) : Nat → Option Char → List Char → List (List Char)
  | _, _, [] => [[]]
  | skip + 1, previous, c :: rest => consPiece c (pieces separators skip previous rest)
  | 0, previous, c :: rest =>
    if c ∈ separators then [] :: pieces separators 0 (some c) rest
    else consPiece c (pieces separators (skipFrom previous (c :: rest)) (some c) rest)

/-- The trimmed members of a text, after one wrapping pair of parentheses is taken off. -/
def split (separators : List Char) (cs : List Char) : List (List Char) :=
  (pieces separators 0 none (unwrap cs)).map trim

/-- The length of the longest text of a list. -/
def longest : List (List Char) → Nat
  | [] => 0
  | text :: rest => max text.length (longest rest)

/-- The length of all texts of a list together. -/
def totalLength : List (List Char) → Nat
  | [] => 0
  | text :: rest => text.length + totalLength rest

theorem consPiece_lengths (c : Char) {ps : List (List Char)} (h : ps ≠ []) :
    totalLength (consPiece c ps) = totalLength ps + 1 ∧ (consPiece c ps).length = ps.length := by
  cases ps with
  | nil => exact absurd rfl h
  | cons p rest =>
    simp only [consPiece, totalLength, List.length_cons, and_true]
    omega

theorem pieces_ne_nil (separators : List Char) (skip : Nat) (previous : Option Char)
    (cs : List Char) : pieces separators skip previous cs ≠ [] := by
  induction cs generalizing skip previous with
  | nil => cases skip <;> simp [pieces]
  | cons c rest ih =>
    have cons_ne : ∀ ps : List (List Char), consPiece c ps ≠ [] := by
      intro ps; cases ps <;> simp [consPiece]
    cases skip with
    | zero => unfold pieces; split <;> simp [cons_ne]
    | succ n => simp [pieces, cons_ne]

/-- The characters of the pieces and one separator between each two are the whole text. -/
theorem pieces_lengths (separators : List Char) (skip : Nat) (previous : Option Char)
    (cs : List Char) :
    totalLength (pieces separators skip previous cs) +
      (pieces separators skip previous cs).length = cs.length + 1 := by
  induction cs generalizing skip previous with
  | nil => cases skip <;> simp [pieces, totalLength]
  | cons c rest ih =>
    have step : ∀ skip previous,
        totalLength (consPiece c (pieces separators skip previous rest)) +
          (consPiece c (pieces separators skip previous rest)).length = rest.length + 2 := by
      intro skip previous
      have h := consPiece_lengths c (pieces_ne_nil separators skip previous rest)
      have := ih skip previous
      omega
    cases skip with
    | zero =>
      unfold pieces
      split
      · have := ih 0 (some c)
        simp only [totalLength, List.length_nil, List.length_cons]
        omega
      · simpa using step _ _
    | succ n => simpa [pieces] using step _ _

theorem length_le_totalLength {text : List Char} {texts : List (List Char)} (h : text ∈ texts) :
    text.length ≤ totalLength texts := by
  induction texts with
  | nil => cases h
  | cons t rest ih =>
    simp only [totalLength]
    rcases List.mem_cons.1 h with rfl | h
    · omega
    · have := ih h
      omega

theorem totalLength_map_trim_le (texts : List (List Char)) :
    totalLength (texts.map trim) ≤ totalLength texts := by
  induction texts with
  | nil => exact Nat.le_refl _
  | cons t rest ih =>
    simp only [List.map_cons, totalLength]
    have := length_trim_le t
    omega

/-- The members and the separators are no longer than the text. -/
theorem split_lengths_le (separators cs : List Char) :
    totalLength (split separators cs) + (split separators cs).length ≤ cs.length + 1 := by
  have := pieces_lengths separators 0 none (unwrap cs)
  have := totalLength_map_trim_le (pieces separators 0 none (unwrap cs))
  have := length_unwrap_le cs
  simp only [split, List.length_map]
  omega

theorem longest_le {bound : Nat} {texts : List (List Char)}
    (h : ∀ text ∈ texts, text.length ≤ bound) : longest texts ≤ bound := by
  induction texts with
  | nil => exact Nat.zero_le _
  | cons t rest ih =>
    simp only [longest]
    exact Nat.max_le.2 ⟨h t (by simp), ih fun text ht => h text (by simp [ht])⟩

theorem length_le_longest {text : List Char} {texts : List (List Char)} (h : text ∈ texts) :
    text.length ≤ longest texts := by
  induction texts with
  | nil => cases h
  | cons t rest ih =>
    simp only [longest]
    rcases List.mem_cons.1 h with rfl | h
    · exact Nat.le_max_left _ _
    · exact Nat.le_trans (ih h) (Nat.le_max_right _ _)

/-- A member and the separators are no longer than the text. -/
theorem length_member_le {separators cs member : List Char} (h : member ∈ split separators cs) :
    member.length + (split separators cs).length ≤ cs.length + 1 := by
  have := length_le_totalLength h
  have := split_lengths_le separators cs
  omega

theorem split_ne_nil (separators cs : List Char) : split separators cs ≠ [] := by
  simp [split, pieces_ne_nil]

theorem longest_split_le (separators cs : List Char) :
    longest (split separators cs) ≤ cs.length := by
  refine longest_le fun text h => ?_
  have := length_member_le h
  have : 0 < (split separators cs).length := List.length_pos_iff.2 (split_ne_nil _ _)
  omega

/-- When a text is really split, every member is shorter than it. -/
theorem longest_split_lt {separators cs : List Char} (h : 1 < (split separators cs).length) :
    longest (split separators cs) < cs.length := by
  have pos : 0 < cs.length := by
    obtain ⟨member, hm⟩ := List.exists_mem_of_ne_nil _ (split_ne_nil separators cs)
    have := length_member_le hm
    omega
  have : longest (split separators cs) ≤ cs.length - 1 := by
    refine longest_le fun text ht => ?_
    have := length_member_le ht
    omega
  omega

end Docblock.Text
