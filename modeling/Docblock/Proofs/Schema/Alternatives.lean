import Docblock.Proofs.Schema.RoundTrip
import Docblock.Proofs.Text.Closed
import Docblock.Proofs.Text.Paired

/-!
# Alternatives

A type expression is read alternative by alternative (`read_eq_readAll`): its alternatives are the
members between bars and ampersands that are not blank. So reading takes two expressions with a
separator between them to the alternatives of the first and then those of the second (`read_union`),
provided that the first is closed, for else the scan would run on into the second. Of the second
nothing is asked but that it has an alternative.

The alternatives of an expression are found without taking parentheses off (`alternatives`), and
parentheses around a whole union are treated on their own, because a union in parentheses is one
member of the text that it stands in. Whether an alternative is repeated does not matter: both are
kept, as in the text.

An expression with blank members only is left out. It is read as any value, which is no alternative
that was written anywhere, so there is nothing to compare.
-/

namespace Docblock.TypeExpr

open Text

variable {cs : List Char}

/-! ## Reading gives at least one type -/

theorem readForm_ne_nil {text : String} {layer : Layer} {types : List TypeExpr}
    (h : readForm text layer = .ok types) : types ≠ [] := by
  cases layer with
  | array element =>
    obtain ⟨_, -, h⟩ := bind_eq_ok.1 h
    cases h
    simp
  | object members =>
    obtain ⟨_, -, h⟩ := bind_eq_ok.1 h
    cases h
    simp
  | tuple members =>
    obtain ⟨_, -, h⟩ := bind_eq_ok.1 h
    cases h
    simp
  | map key value =>
    obtain ⟨_, -, h⟩ := bind_eq_ok.1 h
    obtain ⟨_, -, h⟩ := bind_eq_ok.1 h
    cases h
    simp
  | _ =>
    cases h
    simp

theorem shorthand?_ne_nil {types : List TypeExpr} (h : shorthand? cs = some types) :
    types ≠ [] := by
  unfold shorthand? at h
  dsimp only at h
  split at h
  · cases h
    simp
  · split at h
    · cases h
      simp
    · split at h
      · cases h
        simp
      · cases h

/-- Every expression that can be read admits some type. -/
theorem read_ne_nil {types : List TypeExpr} (h : read cs = .ok types) : types ≠ [] := by
  cases hs : shorthand? (trim cs) with
  | some short =>
    rw [read_of_shorthand hs] at h
    cases h
    exact shorthand?_ne_nil hs
  | none =>
    cases hu : unionMembers? (trim cs) with
    | none =>
      rw [read_of_form hs hu] at h
      exact readForm_ne_nil h
    | some members =>
      rw [read_of_union hs hu] at h
      obtain ⟨all, -, h⟩ := bind_eq_ok.1 h
      cases h
      split
      · simp
      · rename_i ne
        simpa using ne

/-! ## Reading several expressions -/

theorem readAll_cons (text : List Char) (rest : List (List Char)) :
    readAll (text :: rest) = (do return (← read text) ++ (← readAll rest)) := by
  rw [readAll]

theorem readAll_singleton (text : List Char) : readAll [text] = read text := by
  rw [readAll_cons, readAll]
  cases read text <;> simp [bind, Except.bind, pure, Except.pure]

theorem readAll_append (texts more : List (List Char)) :
    readAll (texts ++ more) = (do return (← readAll texts) ++ (← readAll more)) := by
  induction texts with
  | nil =>
    rw [List.nil_append, readAll]
    cases readAll more <;> rfl
  | cons text rest ih =>
    rw [List.cons_append, readAll_cons, ih, readAll_cons]
    cases read text <;> cases readAll rest <;> cases readAll more <;>
      simp [bind, Except.bind, pure, Except.pure]

theorem readAll_ne_nil {texts : List (List Char)} {types : List TypeExpr} (ne : texts ≠ [])
    (h : readAll texts = .ok types) : types ≠ [] := by
  obtain ⟨text, rest, rfl⟩ := List.exists_cons_of_ne_nil ne
  rw [readAll_cons] at h
  obtain ⟨first, hf, h⟩ := bind_eq_ok.1 h
  obtain ⟨others, -, h⟩ := bind_eq_ok.1 h
  cases h
  simp [read_ne_nil hf]

/-! ## Alternative by alternative -/

/-- The members of an expression between bars and ampersands, without those that are blank. No
parentheses are taken off: what stands in them is one member. -/
def alternatives (cs : List Char) : List (List Char) :=
  (members unionSeparators cs).filter (!·.isEmpty)

theorem separating_union : Separating unionSeparators := by
  unfold Separating
  decide

/-- Blanks around an expression make no difference. -/
theorem read_trim (cs : List Char) : read (trim cs) = read cs := by
  have tight := trim_trim cs
  cases hs : shorthand? (trim cs) with
  | some short => rw [read_of_shorthand hs, read_of_shorthand (by rw [tight, hs])]
  | none =>
    cases hu : unionMembers? (trim cs) with
    | none =>
      rw [read_of_form hs hu, read_of_form (by rw [tight, hs]) (by rw [tight, hu]), tight]
    | some members =>
      rw [read_of_union hs hu, read_of_union (by rw [tight, hs]) (by rw [tight, hu]), tight]

/-- An expression that is cut is no shorthand. -/
theorem shorthand?_of_members (several : 1 < (members unionSeparators cs).length) :
    shorthand? (trim cs) = none := by
  obtain ⟨s, hs, within⟩ : ∃ s ∈ unionSeparators, s ∈ trim cs := by
    by_contra free
    have single : members unionSeparators cs = [trim (trim cs)] := by
      rw [members, pieces_eq_singleton fun c hc hs => free ⟨c, hs, hc⟩]
      rfl
    rw [single] at several
    exact absurd several (by simp)
  have other : ∀ s ∈ unionSeparators, ∀ word ∈ shorthandWords, s.toLower ∉ word := by decide
  exact shorthand?_eq_none (asciiLower_not_mem within (other s hs))

/-- An expression that is cut is the union of its alternatives. -/
theorem unionMembers?_of_members (several : 1 < (members unionSeparators cs).length) :
    unionMembers? (trim cs) = some (alternatives cs) := by
  have pieces : split unionSeparators (trim cs) = members unionSeparators cs := by
    rw [split_eq_members, unwrap_of_members separating_union (by rwa [members_trim]), members_trim,
      members_trim]
  unfold unionMembers?
  rw [pieces]
  dsimp only
  rw [if_pos several]
  rfl

/-- A union with a member that is not blank is read member by member. -/
theorem read_of_members {texts : List (List Char)} (short : shorthand? (trim cs) = none)
    (union : unionMembers? (trim cs) = some texts) (ne : texts ≠ []) :
    read cs = readAll texts := by
  rw [read_of_union short union]
  cases all : readAll texts with
  | error fault => rfl
  | ok types =>
    have some : ¬types.isEmpty = true := by simpa using readAll_ne_nil ne all
    exact congrArg Except.ok (if_neg some)

/-- An expression is read alternative by alternative. -/
theorem read_eq_readAll (h : alternatives cs ≠ []) : read cs = readAll (alternatives cs) := by
  by_cases several : 1 < (members unionSeparators cs).length
  · exact read_of_members (shorthand?_of_members several) (unionMembers?_of_members several) h
  · -- Nothing is cut off, so the only alternative is the whole expression.
    have solid : trim cs ≠ [] := by
      intro none
      refine h ?_
      rw [alternatives, members_of_uncut several, none]
      rfl
    have only : alternatives cs = [trim cs] := by
      rw [alternatives, members_of_uncut several]
      simp [solid]
    rw [only, readAll_singleton, read_trim]

theorem alternatives_append {a : List Char} {s : Char} (hs : s ∈ unionSeparators)
    (closed : ClosedText a) (b : List Char) :
    alternatives (a ++ s :: b) = alternatives a ++ alternatives b := by
  rw [alternatives, members_append separating_union hs closed, List.filter_append]
  rfl

/-- Two expressions with a separator between them are read as the one and then the other. -/
theorem read_append {a b : List Char} {s : Char} (hs : s ∈ unionSeparators) (closed : ClosedText a)
    (ha : alternatives a ≠ []) (hb : alternatives b ≠ []) :
    read (a ++ s :: b) = (do return (← read a) ++ (← read b)) := by
  have both := alternatives_append hs closed b
  have ne : alternatives (a ++ s :: b) ≠ [] := by
    rw [both]
    exact List.append_ne_nil_of_left_ne_nil ha _
  rw [read_eq_readAll ne, both, readAll_append, read_eq_readAll ha, read_eq_readAll hb]

/-! ## In parentheses -/

theorem shorthand?_parenthesized (cs : List Char) : shorthand? (parenthesized cs) = none :=
  shorthand?_eq_none (asciiLower_not_mem (List.mem_cons_self : '(' ∈ parenthesized cs) (by decide))

/-- One pair of parentheses makes no difference to the members of a union. -/
theorem unionMembers?_parenthesized (paired : Paired '(' ')' cs) (bare : unwrap cs = trim cs) :
    unionMembers? (parenthesized cs) = unionMembers? (trim cs) := by
  have around : split unionSeparators (parenthesized cs) = members unionSeparators cs := by
    rw [split_eq_members, unwrap_parenthesized paired, members_trim]
  have within : split unionSeparators (trim cs) = members unionSeparators cs := by
    rw [split_eq_members, unwrap_trim, bare, members_trim]
  rw [unionMembers?, unionMembers?, around, within]

/-- A union in parentheses is read as the union. -/
theorem read_parenthesized_union (paired : Paired '(' ')' cs)
    (several : 1 < (members unionSeparators cs).length) (ne : alternatives cs ≠ []) :
    read (parenthesized cs) = read cs := by
  have tight := (tight_parenthesized cs).trim_eq
  have union : unionMembers? (trim (parenthesized cs)) = some (alternatives cs) := by
    rw [tight, unionMembers?_parenthesized paired (unwrap_of_members separating_union several),
      unionMembers?_of_members several]
  rw [read_of_members (by rw [tight, shorthand?_parenthesized]) union ne, read_eq_readAll ne]

theorem alternatives_parenthesized (paired : Paired '(' ')' cs) :
    alternatives (parenthesized cs) = [parenthesized cs] := by
  rw [alternatives, members_parenthesized separating_union paired]
  rfl

/-! ## Unions -/

/-- The alternatives of two expressions with a separator between them are those of the first and
then those of the second, and a union in parentheses on either side has its own alternatives
there. -/
theorem read_union {a b : List Char} {s : Char} (hs : s ∈ unionSeparators) (closed : ClosedText a)
    (ha : alternatives a ≠ []) (hb : alternatives b ≠ []) :
    read (a ++ s :: b) = (do return (← read a) ++ (← read b)) ∧
    ∀ u, Paired '(' ')' u → 1 < (members unionSeparators u).length → alternatives u ≠ [] →
      read (parenthesized u ++ s :: b) = (do return (← read u) ++ (← read b)) ∧
      read (a ++ s :: parenthesized u) = (do return (← read a) ++ (← read u)) := by
  refine ⟨read_append hs closed ha hb, fun u paired several ne => ?_⟩
  have grouped : alternatives (parenthesized u) ≠ [] := by simp [alternatives_parenthesized paired]
  rw [read_append hs (closed_parenthesized paired) grouped hb, read_append hs closed ha grouped,
    read_parenthesized_union paired several ne]
  exact ⟨rfl, rfl⟩

/-- A union in parentheses before and behind another type. -/
theorem read_union_grouped :
    '&' ∈ unionSeparators ∧ ClosedText ['A'] ∧ alternatives ['A'] ≠ [] ∧
    Paired '(' ')' "string|null".toList ∧
    1 < (members unionSeparators "string|null".toList).length ∧
    read "(string|null)&A".toList =
      .ok [.primitive "string" .string, .null "null", .named "A" "A"] := by
  have hs : '&' ∈ unionSeparators := by decide
  have closed : ClosedText ['A'] := by decide
  have ha : alternatives ['A'] ≠ [] := by decide
  have paired : Paired '(' ')' "string|null".toList := by decide
  have several : 1 < (members unionSeparators "string|null".toList).length := by decide
  have hu : alternatives "string|null".toList ≠ [] := by decide
  have union : read "string|null".toList = .ok [.primitive "string" .string, .null "null"] :=
    (TypeUnion.more (.primitive .string) (.one .null)).read_print.1
  have name : read ['A'] = .ok [.named "A" "A"] := by
    have form : Layer.ofText (unwrap (trim ['A'])) = .named ['A'] := by rfl
    rw [read_of_form (by decide) (by decide), form]
    rfl
  have grouped := ((read_union hs closed ha ha).2 _ paired several hu).1
  rw [union, name] at grouped
  exact ⟨hs, closed, ha, paired, several, grouped⟩

end Docblock.TypeExpr
