import Docblock.Proofs.Schema.Parentheses

/-!
# The array suffix

A pair of brackets behind a type makes an array of it, and one more pair an array of arrays, at any
depth (`read_suffixes`). Behind parentheses only the first pair does so (`read_suffixed_iff`). With
a second pair the text in front of the suffix begins with a parenthesis and does not end with one:
it has neither of the shapes that an element type may have, so that any value is admitted.

What stands in front of the suffixes is not a printed type but any text with the right outside
(`Operand`), and between its brackets only those of the same kind have to be paired. The theorem
says what the suffix does to an expression, whatever that expression is read as, and also when it
cannot be read. Numbers and quoted strings are not among the operands.
-/

namespace Docblock

open Text

/-- A word of any script that does not begin with a digit. -/
structure Word where
  chars : List Char
  nonempty : chars ≠ []
  word : ∀ c ∈ chars, isWord c = true
  starts : ∀ c ∈ chars.head?, isLetter c = true ∨ c = '_'

/-- What the suffix can stand behind. Between brackets there may be any text in which those of the
same kind are paired. -/
inductive Operand where
  | any
  | word (name : Word)
  | generic (name : Word) (point : Bool) (arguments : List Char)
      (paired : Paired '<' '>' arguments)
  | object (fields : List Char) (paired : Paired '{' '}' fields)
  | tuple (items : List Char) (paired : Paired '[' ']' items)
  | group (type : List Char) (paired : Paired '(' ')' type)

namespace Operand

/-- The text of an operand. -/
def print : Operand → List Char
  | any => ['*']
  | word name => name.chars
  | generic name point arguments _ =>
    name.chars ++ ((if point then ['.'] else []) ++ '<' :: (arguments ++ ['>']))
  | object fields _ => '{' :: (fields ++ ['}'])
  | tuple items _ => '[' :: (items ++ [']'])
  | group type _ => parenthesized type

/-- The operand is a type in parentheses. -/
def grouped : Operand → Bool
  | group _ _ => true
  | _ => false

/-- An operand with a number of suffixes. -/
def suffixed (x : Operand) : Nat → List Char
  | 0 => x.print
  | n + 1 => x.suffixed n ++ ['[', ']']

/-- The type that one more suffix makes an array of: what stands before it, without the
parentheses of a group. -/
def element : Operand → Nat → List Char
  | group type _, 0 => type
  | x, n => x.suffixed n

/-- The types that a number of suffixes makes of some types, each with its text. -/
def arrays (x : Operand) : Nat → List TypeExpr → List TypeExpr
  | 0, types => types
  | n + 1, types => [.array (String.ofList (x.suffixed (n + 1))) (x.arrays n types)]

variable (x : Operand) (n : Nat)

/-! ## The scanners -/

theorem run_print : (x : Operand) → Run TypeExpr.unionSeparators x.print
  | any => Plain.run (by decide) (by decide)
  | word name => Plain.run (by decide) fun c hc => .of_isWord (name.word c hc)
  | generic name point arguments paired => by
    have start : Run TypeExpr.unionSeparators name.chars :=
      Plain.run (by decide) fun c hc => .of_isWord (name.word c hc)
    have dot : Run TypeExpr.unionSeparators (if point then ['.'] else []) :=
      Plain.run (by decide) (by cases point <;> decide)
    exact start.append (dot.append (.paired rfl (by decide) paired))
  | object _ paired => .paired rfl (by decide) paired
  | tuple _ paired => .paired rfl (by decide) paired
  | group _ paired => .paired rfl (by decide) paired

/-- No separator stands outside the brackets. -/
theorem run_suffixed : Run TypeExpr.unionSeparators (x.suffixed n) := by
  induction n with
  | zero => exact x.run_print
  | succ n ih =>
    have none : Paired '[' ']' [] := by decide
    exact ih.append (.paired rfl (by decide) none)

/-! ## The ends -/

/-- What an operand begins with: a parenthesis just when it is a group. -/
theorem exists_cons_print : (x : Operand) → ∃ c rest, x.print = c :: rest ∧ Leading c ∧
    (c = '(' ↔ x.grouped = true) := by
  have words : ∀ (name : Word) (more : List Char), ∃ c rest, name.chars ++ more = c :: rest ∧
      Leading c ∧ (c = '(' ↔ false = true) := by
    intro name more
    obtain ⟨c, rest, text⟩ := List.exists_cons_of_ne_nil name.nonempty
    have word : isWord c = true := name.word c (by rw [text]; simp)
    have round : c ≠ '(' := (Plain.of_isWord word).ne (by decide)
    exact ⟨c, rest ++ more, by rw [text]; rfl, .of_word word (name.starts c (by rw [text]; rfl)),
      by simp [round]⟩
  intro x
  cases x with
  | word name =>
    have := words name []
    rwa [List.append_nil] at this
  | generic name point arguments paired => exact words name _
  | any | object | tuple | group => exact ⟨_, _, rfl, by decide, by simp [grouped]⟩

theorem exists_cons_suffixed : ∃ c rest, x.suffixed n = c :: rest ∧ Leading c ∧
    (c = '(' ↔ x.grouped = true) := by
  induction n with
  | zero => exact x.exists_cons_print
  | succ n ih =>
    obtain ⟨c, rest, text, leading, round⟩ := ih
    exact ⟨c, rest ++ ['[', ']'], by rw [suffixed, text]; rfl, leading, round⟩

/-- Only a group without a suffix ends with a parenthesis. -/
theorem getLast?_suffixed_ne (h : ¬(x.grouped = true ∧ n = 0)) :
    (x.suffixed n).getLast? ≠ some ')' := by
  cases n with
  | succ n => simp [suffixed]
  | zero =>
    cases x with
    | word name =>
      intro last
      exact (Plain.of_isWord (name.word _ (List.mem_of_getLast? last))).ne (by decide) rfl
    | group type paired => exact absurd ⟨rfl, rfl⟩ h
    | any | generic | object | tuple => simp [suffixed, print, List.getLast?_cons]

theorem getLast?_suffixed_succ : (x.suffixed (n + 1)).getLast? = some ']' := by simp [suffixed]

theorem tight_suffixed : Tight (x.suffixed (n + 1)) where
  starts c hc := by
    obtain ⟨d, rest, text, leading, -⟩ := x.exists_cons_suffixed (n + 1)
    rw [text] at hc
    cases hc
    exact leading.blank
  ends c hc := by
    rw [getLast?_suffixed_succ] at hc
    cases hc
    decide

/-- Parentheses at the start are not around the suffix, and stay. -/
theorem unwrap_suffixed : unwrap (x.suffixed (n + 1)) = x.suffixed (n + 1) := by
  have tight := (x.tight_suffixed n).trim_eq
  have last := x.getLast?_suffixed_succ n
  have bare : unwrap (x.suffixed (n + 1)) = trim (x.suffixed (n + 1)) :=
    unwrap_of_last (by simp [tight, last]) (by simp [tight, last])
  rw [bare, tight]

theorem element_eq (h : ¬(x.grouped = true ∧ n = 0)) : x.element n = x.suffixed n := by
  cases x with
  | group type paired =>
    cases n with
    | zero => exact absurd ⟨rfl, rfl⟩ h
    | succ n => rfl
  | _ => rfl

end Operand

/-! ## The form -/

namespace Layer

/-- What the suffix is taken from: a text that neither begins with a parenthesis nor ends with a
closing one, or one that does both. -/
theorem arraySuffix?_append (body : List Char) : arraySuffix? (body ++ ['[', ']']) =
    if body ≠ [] ∧ body.head? ≠ some '(' ∧ body.getLast? ≠ some ')' then some body
    else between? '(' ')' body := by
  have length : (body ++ ['[', ']']).length - 2 = body.length := by simp
  have bare : (!body.isEmpty && body.head? != some '(' && body.getLast? != some ')') = true ↔
      body ≠ [] ∧ body.head? ≠ some '(' ∧ body.getLast? ≠ some ')' := by simp [and_assoc]
  unfold arraySuffix?
  rw [length, List.drop_left, List.take_left, if_pos rfl]
  exact if_congr bare rfl rfl

variable (x : Operand) (n : Nat)

/-- The suffix is found, unless it is not the first behind parentheses. -/
theorem arraySuffix?_suffixed : arraySuffix? (x.suffixed (n + 1)) =
    if x.grouped = true ∧ 0 < n then none else some (x.element n) := by
  obtain ⟨c, rest, text, -, round⟩ := x.exists_cons_suffixed n
  have head : (x.suffixed n).head? = some c := by rw [text]; rfl
  have nonempty : x.suffixed n ≠ [] := by simp [text]
  rw [Operand.suffixed, arraySuffix?_append]
  by_cases first : x.grouped = true ∧ n = 0
  · obtain ⟨grouped, rfl⟩ := first
    cases x with
    | group type paired =>
      rw [if_neg fun h => h.2.1 rfl, if_neg (by simp)]
      exact between?_enclosed '(' ')' type
    | _ => cases grouped
  · have last := x.getLast?_suffixed_ne n first
    by_cases grouped : x.grouped = true
    · have stacked : x.grouped = true ∧ 0 < n :=
        ⟨grouped, Nat.pos_of_ne_zero fun zero => first ⟨grouped, zero⟩⟩
      rw [if_neg fun h => h.2.1 (by rw [head, round.2 grouped]), if_pos stacked]
      exact between?_eq_none_of_last last
    · have other : (x.suffixed n).head? ≠ some '(' := by
        rw [head]
        exact fun h => grouped (round.1 (Option.some.inj h))
      rw [if_pos ⟨nonempty, other, last⟩, if_neg fun h => grouped h.1, x.element_eq n first]

/-- An operand with suffixes is an array type, unless more than one stands behind parentheses. -/
theorem ofText_suffixed : ofText (x.suffixed (n + 1)) =
    if x.grouped = true ∧ 0 < n then .any else .array (x.element n) := by
  obtain ⟨c, rest, text, leading, round⟩ := x.exists_cons_suffixed (n + 1)
  have suffix := arraySuffix?_suffixed x n
  have last := x.getLast?_suffixed_succ n
  have angle : (x.suffixed (n + 1)).getLast? ≠ some '>' := by simp [last]
  split at suffix <;> rename_i stacked
  · obtain rfl := round.2 stacked.1
    rw [if_pos stacked, text]
    rw [text] at suffix angle
    exact ofText_of_parenthesis suffix angle
  · have square : ']' ∈ x.suffixed (n + 1) := List.mem_of_getLast? last
    have unworded : Unworded (x.suffixed (n + 1)) := by
      rw [text] at square ⊢
      exact .of_leading ']' leading (by decide) square
    have generic : generic? arrayWord (x.suffixed (n + 1)) = none :=
      generic?_eq_none_of_last angle
    rw [if_neg stacked]
    simp only [ofText, forms, unworded.word, unworded.number, unworded.string, unworded.primitive,
      generic, suffix, Option.map_none, Option.map_some, List.findSome?_cons, id, Option.getD_some]

end Layer

namespace TypeExpr

variable (x : Operand) (n : Nat)

/-- The only shorthand that ends with a bracket has nothing in front of its two. -/
theorem shorthand?_suffixed : shorthand? (x.suffixed (n + 1)) = none := by
  have brackets : ∀ word ∈ shorthandWords, word.getLast? = some ']' → word.length = 2 := by decide
  obtain ⟨c, rest, text, -⟩ := x.exists_cons_suffixed n
  refine shorthand?_eq_none fun hw => ?_
  have length := brackets _ hw (by simp [asciiLower, x.getLast?_suffixed_succ n])
  simp [asciiLower, Operand.suffixed, text] at length

theorem unionMembers?_suffixed : unionMembers? (x.suffixed (n + 1)) = none := by
  have single : split unionSeparators (x.suffixed (n + 1)) = [x.suffixed (n + 1)] := by
    rw [split, x.unwrap_suffixed, (Joined.one (x.run_suffixed (n + 1))).pieces_eq none,
      List.map_singleton, (x.tight_suffixed n).trim_eq]
  simp [unionMembers?, single]

/-- What an operand with suffixes is read as. -/
theorem read_suffixed : read (x.suffixed (n + 1)) =
    if x.grouped = true ∧ 0 < n then .ok [.any (String.ofList (x.suffixed (n + 1)))]
    else do return [.array (String.ofList (x.suffixed (n + 1))) (← read (x.element n))] := by
  have tight := (x.tight_suffixed n).trim_eq
  rw [read_of_form (by rw [tight, shorthand?_suffixed]) (by rw [tight, unionMembers?_suffixed]),
    tight, x.unwrap_suffixed, Layer.ofText_suffixed]
  split <;> rfl

/-- Without parentheses there is an array for every suffix. -/
theorem read_suffixes (bare : x.grouped = false) :
    read (x.suffixed n) = do return x.arrays n (← read x.print) := by
  induction n with
  | zero =>
    rw [Operand.suffixed]
    cases read x.print <;> rfl
  | succ n ih =>
    have element : x.element n = x.suffixed n := x.element_eq n (by simp [bare])
    rw [read_suffixed, if_neg (by simp [bare]), element, ih]
    cases read x.print <;> rfl

/-- A further suffix makes an array of the types that it stands behind just when there are no
parentheses or it is the first; any other behind parentheses makes any value of them. -/
theorem read_suffixed_iff :
    (read (x.suffixed (n + 1)) =
        (do return [.array (String.ofList (x.suffixed (n + 1))) (← read (x.element n))]) ↔
      (x.grouped = true → n = 0)) ∧
    (x.grouped = true → 0 < n →
      read (x.suffixed (n + 1)) = .ok [.any (String.ofList (x.suffixed (n + 1)))]) := by
  refine ⟨⟨fun array grouped => ?_, fun first => ?_⟩, fun grouped several => ?_⟩
  · by_contra several
    rw [read_suffixed, if_pos ⟨grouped, Nat.pos_of_ne_zero several⟩] at array
    cases element : read (x.element n) <;> rw [element] at array <;> cases array
  · rw [read_suffixed, if_neg fun ⟨grouped, several⟩ => Nat.ne_of_gt several (first grouped)]
  · rw [read_suffixed, if_pos ⟨grouped, several⟩]

/-- A union in parentheses with one suffix and with two. -/
theorem read_suffixed_twice :
    read "(string|number)[]".toList = .ok [.array "(string|number)[]"
      [.primitive "string" .string, .primitive "number" .number]] ∧
    read "(string|number)[][]".toList = .ok [.any "(string|number)[][]"] := by
  have union : read "string|number".toList =
      .ok [.primitive "string" .string, .primitive "number" .number] :=
    (TypeUnion.more (.primitive .string) (.one (.primitive .number))).read_print.1
  let x : Operand := .group "string|number".toList (by decide)
  have once := (read_suffixed_iff x 0).1.2 fun _ => rfl
  have twice := (read_suffixed_iff x 1).2 rfl (by decide)
  rw [show x.element 0 = "string|number".toList from rfl, union] at once
  exact ⟨once, twice⟩

end TypeExpr

end Docblock
