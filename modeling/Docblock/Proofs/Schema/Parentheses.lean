import Docblock.Proofs.Schema.Alternatives

/-!
# Types in parentheses

One pair of parentheses around an expression does not change how it is read, apart from the text
that the types keep (`read_parenthesized`): the pair is taken off before anything else is looked at.
No more than one is taken off, so an expression that is itself in parentheses has none of the known
forms when it is put in another pair, and any value is admitted.

The words that stand for longer expressions are looked for before the parentheses are taken off;
nothing is said of them in parentheses here, except for the two that are also forms of their own.

Types keep the text that they were read from for messages, and that text has the parentheses in it.
So two readings are compared without it (`apartFromText`), at the outermost level only: the texts
inside are the same on both sides. What parentheses do change is shown by example, for each of the
hypotheses that cannot be dropped (`changed_by_parentheses`).
-/

namespace Docblock

open Text

variable {cs e before after : List Char}

/-- A text in parentheses that is not followed by an array suffix has none of the known forms. -/
theorem Layer.ofText_of_parenthesis {rest : List Char} (suffix : arraySuffix? ('(' :: rest) = none)
    (last : ('(' :: rest).getLast? ≠ some '>') : ofText ('(' :: rest) = .any := by
  have unworded : Unworded ('(' :: rest) := .of_mark '(' (by decide) (by decide) (by simp)
  have generic : ∀ word, generic? word ('(' :: rest) = none :=
    fun word => generic?_eq_none_of_last last
  have braces : between? '{' '}' ('(' :: rest) = none := between?_eq_none_of_head (by simp)
  have squares : between? '[' ']' ('(' :: rest) = none := between?_eq_none_of_head (by simp)
  have word : ¬(!('(' :: rest).isEmpty && ('(' :: rest).all isWord) = true := by
    simp [show isWord '(' = false by decide]
  simp only [ofText, forms, unworded.word, unworded.number, unworded.string, unworded.primitive,
    generic, suffix, braces, squares, if_neg word, Option.map_none, List.findSome?_cons,
    List.findSome?_nil, id, Option.getD_none]

theorem Layer.ofText_parenthesized (cs : List Char) : ofText (parenthesized cs) = .any := by
  have last : (parenthesized cs).getLast? = some ')' := by simp [parenthesized, List.getLast?_cons]
  refine ofText_of_parenthesis (arraySuffix?_eq_none_of_last ?_) ?_ <;>
  · show (parenthesized cs).getLast? ≠ _
    rw [last]
    decide

namespace TypeExpr

/-- A type without the text that it was read from. -/
def untexted : TypeExpr → TypeExpr
  | any _ => any ""
  | literal _ value => literal "" value
  | primitive _ name => primitive "" name
  | null _ => null ""
  | undefined _ => undefined ""
  | array _ types => array "" types
  | tuple _ items => tuple "" items
  | map _ keys values => map "" keys values
  | object _ fields => object "" fields
  | named _ name => named "" name

/-- What is read from an expression, apart from the text that it is read from. The types inside
keep their texts. -/
def apartFromText (outcome : Except Fault (List TypeExpr)) : Except Fault (List TypeExpr) :=
  outcome.map (·.map untexted)

/-- A form does not hang on the text that it is read from. -/
theorem apartFromText_readForm (text other : String) (layer : Layer) :
    apartFromText (readForm text layer) = apartFromText (readForm other layer) := by
  cases layer with
  | array element =>
    rw [readForm, readForm]
    cases read element <;> rfl
  | object members =>
    rw [readForm, readForm]
    cases readFields true members [] <;> rfl
  | tuple members =>
    rw [readForm, readForm]
    cases readFields false members [] <;> rfl
  | map key value =>
    rw [readForm, readForm]
    cases read key <;> cases read value <;> rfl
  | _ => rfl

/-- Expressions with one form, or with the same members, are read alike. -/
theorem apartFromText_read {other : List Char} (short : shorthand? (trim cs) = none)
    (short' : shorthand? (trim other) = none)
    (members : unionMembers? (trim cs) = unionMembers? (trim other))
    (form : Layer.ofText (unwrap (trim cs)) = Layer.ofText (unwrap (trim other))) :
    apartFromText (read cs) = apartFromText (read other) := by
  cases hu : unionMembers? (trim cs) with
  | none =>
    rw [read_of_form short hu, read_of_form short' (members ▸ hu), form]
    exact apartFromText_readForm _ _ _
  | some texts =>
    rw [read_of_union short hu, read_of_union short' (members ▸ hu)]
    cases readAll texts with
    | error fault => rfl
    | ok types => cases types <;> rfl

/-! ## One pair -/

/-- An expression that is none of the words that stand for longer expressions, except those that
are known in parentheses too. -/
def Longhand (cs : List Char) : Prop :=
  asciiLower (trim cs) ∈ shorthandWords → trim cs = [] ∨ trim cs = ['a', 'n', 'y']

instance (cs : List Char) : Decidable (Longhand cs) :=
  inferInstanceAs (Decidable (_ → _))

/-- One pair of parentheses around an expression in none makes no difference. -/
theorem apartFromText_read_parenthesized (paired : Paired '(' ')' cs) (bare : ¬InParentheses cs)
    (long : Longhand cs) :
    apartFromText (read (parenthesized cs)) = apartFromText (read cs) := by
  have tight := (tight_parenthesized cs).trim_eq
  have same := unwrap_of_not_inParentheses paired bare
  have members : unionMembers? (trim (parenthesized cs)) = unionMembers? (trim cs) := by
    rw [tight, unionMembers?_parenthesized paired same]
  have inside : unwrap (trim (parenthesized cs)) = trim cs := by
    rw [tight, unwrap_parenthesized paired]
  have short : shorthand? (trim (parenthesized cs)) = none := by
    rw [tight, shorthand?_parenthesized]
  cases hs : shorthand? (trim cs) with
  | none => exact apartFromText_read short hs members (by rw [inside, unwrap_trim, same])
  | some types =>
    -- One of the two words that any value is written with.
    have word : asciiLower (trim cs) ∈ shorthandWords := by
      by_contra other
      rw [shorthand?_eq_none other] at hs
      cases hs
    have known : ∀ w, w = [] ∨ w = ['a', 'n', 'y'] → unionMembers? w = none ∧
        Layer.ofText w = .any ∧ shorthand? w = some [.any "*"] := by
      rintro w (rfl | rfl) <;> exact ⟨by decide +kernel, by decide +kernel, by rfl⟩
    obtain ⟨alone, form, any⟩ := known _ (long word)
    rw [read_of_shorthand any, read_of_form short (by rw [members, alone]), inside, form]
    rfl

/-! ## More than one pair -/

/-- Of two pairs the inner one stays, and no form begins with a parenthesis. -/
theorem read_parenthesized_twice (paired : Paired '(' ')' cs) (h : InParentheses cs) :
    read (parenthesized cs) = .ok [.any (String.ofList (parenthesized cs))] := by
  obtain ⟨inner, paired', text⟩ := h
  have tight := (tight_parenthesized cs).trim_eq
  have alone : unionMembers? (parenthesized cs) = none := by
    have single : split unionSeparators (parenthesized cs) = [parenthesized inner] := by
      rw [split_eq_members, unwrap_parenthesized paired, text,
        members_parenthesized separating_union paired']
    simp [unionMembers?, single]
  rw [read_of_form (by rw [tight, shorthand?_parenthesized]) (by rw [tight, alone]), tight,
    unwrap_parenthesized paired, text, Layer.ofText_parenthesized]
  rfl

/-- An expression in parentheses, with blanks around it or not, is read like the expression, unless
it is a shorthand or has parentheses of its own already; two pairs admit any value. -/
theorem read_parenthesized (paired : Paired '(' ')' e) (hb : Blanks before) (ha : Blanks after) :
    (¬InParentheses e → Longhand e →
      apartFromText (read (parenthesized (before ++ e ++ after))) = apartFromText (read e)) ∧
    (InParentheses e → read (parenthesized (before ++ e ++ after)) =
      .ok [.any (String.ofList (parenthesized (before ++ e ++ after)))]) := by
  have free : ∀ {blanks}, Blanks blanks → Paired '(' ')' blanks := fun h =>
    .of_free (h.not_mem (by decide)) (h.not_mem (by decide))
  have whole : Paired '(' ')' (before ++ e ++ after) := ((free hb).append paired).append (free ha)
  have text : trim (before ++ e ++ after) = trim e := by
    rw [trim_append_blanks _ ha, trim_blanks_append hb]
  constructor
  · intro bare long
    have bare' : ¬InParentheses (before ++ e ++ after) := by
      unfold InParentheses
      rwa [text]
    have long' : Longhand (before ++ e ++ after) := by
      unfold Longhand
      rwa [text]
    rw [apartFromText_read_parenthesized whole bare' long', ← read_trim, text, read_trim]
  · intro nested
    refine read_parenthesized_twice whole ?_
    unfold InParentheses
    rwa [text]

/-- A union in parentheses with spaces inside them, and a type in two pairs. -/
theorem read_parenthesized_spaced :
    Paired '(' ')' "string|null".toList ∧ Paired '(' ')' "(string)".toList ∧ Blanks [' '] ∧
    ¬InParentheses "string|null".toList ∧ Longhand "string|null".toList ∧
    InParentheses "(string)".toList ∧
    apartFromText (read "( string|null )".toList) = apartFromText (read "string|null".toList) ∧
    read "( (string) )".toList = .ok [.any "( (string) )"] := by
  have union : Paired '(' ')' "string|null".toList := by decide
  have type : Paired '(' ')' "(string)".toList := by decide
  have space : Blanks [' '] := by
    intro c hc
    rw [List.mem_singleton.1 hc]
    decide
  have bare : ¬InParentheses "string|null".toList := by
    rintro ⟨inner, -, text⟩
    have starts : (trim "string|null".toList).head? = some '(' := congrArg List.head? text
    exact absurd starts (by decide)
  have long : Longhand "string|null".toList := by decide
  have nested : InParentheses "(string)".toList := ⟨"string".toList, by decide, by decide⟩
  exact ⟨union, type, space, bare, long, nested,
    (read_parenthesized union space space).1 bare long,
    (read_parenthesized type space space).2 nested⟩

/-- What a pair of parentheses does change: a type that is in parentheses already, a shorthand, and
a quoted parenthesis, which the scan takes for the end of the pair. -/
theorem changed_by_parentheses :
    (ClosedText "(string)".toList ∧
      apartFromText (read "((string))".toList) ≠ apartFromText (read "(string)".toList)) ∧
    (ClosedText "object".toList ∧
      apartFromText (read "(object)".toList) ≠ apartFromText (read "object".toList)) ∧
    ClosedText "')'".toList ∧
      apartFromText (read "(')')".toList) ≠ apartFromText (read "')'".toList) := by
  have twice : read "((string))".toList = .ok [.any "((string))"] :=
    @read_parenthesized_twice "(string)".toList (by decide) ⟨"string".toList, by decide, by decide⟩
  have once : read "(string)".toList = .ok [.primitive "(string)" .string] := by
    rw [read_of_form (by decide +kernel) (by decide +kernel)]
    rfl
  have grouped : read "(object)".toList = .ok [.named "(object)" "object"] := by
    rw [read_of_form (by decide +kernel) (by decide +kernel)]
    rfl
  have short : read "object".toList = .ok [.map "Object<*,*>" [.any "*"] [.any "*"]] :=
    read_of_shorthand rfl
  have quoted : read "')'".toList = .ok [.literal "')'" (.string ")")] := by
    rw [read_of_form (by decide +kernel) (by decide +kernel)]
    rfl
  have cut : read "(')')".toList = .ok [.any "(')')"] := by
    rw [read_of_form (by decide +kernel) (by decide +kernel)]
    rfl
  rw [twice, once, grouped, short, quoted, cut]
  refine ⟨⟨by decide, ?_⟩, ⟨by decide, ?_⟩, by decide, ?_⟩ <;>
  · intro same
    simp [apartFromText, Except.map, untexted] at same

end TypeExpr

end Docblock
