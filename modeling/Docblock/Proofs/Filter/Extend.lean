import Docblock.Filter.Literal
import Docblock.Proofs.Number.Extend
import Docblock.Proofs.Outcome
import Docblock.Proofs.Text.Plain
import Docblock.Proofs.Text.Trim
import Mathlib.Data.List.TakeDrop

/-!
# Readers of literals look no further than they read

What a reader takes from the start of a text it also takes when the text goes on, and then leaves so
much more (`readEntries_append`). Names, numbers and flags are read as far as they go, so this holds
only where something that ends them is left already. After a value there is: the reader of entries
goes on only at a comma or a closing bracket (`Delimited`).

So no text that is a literal goes on as another literal (`not_readLiteral_append`).

There is one lemma for every reader, and each is used by the next. Two literals occur in them: a
reader is told the whole literal for its messages, and when the text goes on that literal is another
one. A reader that succeeds writes no message, so the two need not be the same. Nothing follows for
readers that fail. A text that is no literal may become one when it goes on.
-/

namespace Docblock

namespace Text

theorem takeWhile_append_of_drop {p : Char → Bool} {cs : List Char}
    (h : cs.drop (cs.takeWhile p).length ≠ []) (more : List Char) :
    (cs ++ more).takeWhile p = cs.takeWhile p := by
  rw [List.takeWhile_append, if_neg]
  intro all
  rw [all, List.drop_length] at h
  exact h rfl

end Text

namespace Filter

open Text

variable {literal literal' cs rest : List Char}

/-! ## Single characters -/

theorem expect_append {c : Char} (h : expect literal c cs = .ok rest) (more : List Char) :
    expect literal' c (cs ++ more) = .ok (rest ++ more) := by
  unfold expect at h ⊢
  cases start : trimStart cs with
  | nil =>
    rw [start] at h
    exact absurd h refuse_ne_ok
  | cons d tail =>
    rw [start] at h
    rw [trimStart_append_of_ne_nil (by simp [start]), start]
    dsimp only at h
    show (if d = c then Except.ok (tail ++ more) else _) = _
    split at h
    · rename_i same
      cases h
      rw [if_pos same]
    · exact absurd h refuse_ne_ok

theorem trimStart_ne_nil_of_expect {c : Char} (h : expect literal c cs = .ok rest) :
    trimStart cs ≠ [] := by
  intro none
  unfold expect at h
  rw [none] at h
  exact absurd h refuse_ne_ok

theorem next_append (h : trimStart cs ≠ []) (c : Char) (more : List Char) :
    next c (cs ++ more) = next c cs := by
  unfold next
  rw [trimStart_append_of_ne_nil h, head?_append_left h]

theorem nextQuote_append (h : trimStart cs ≠ []) (more : List Char) :
    nextQuote (cs ++ more) = nextQuote cs := by
  unfold nextQuote
  rw [trimStart_append_of_ne_nil h, head?_append_left h]

theorem trimStart_ne_nil_of_next {c : Char} (h : next c cs = true) : trimStart cs ≠ [] := by
  intro none
  unfold next at h
  rw [none] at h
  cases h

theorem drop_append_of_next {c : Char} (h : next c cs = true) (more : List Char) :
    (trimStart (cs ++ more)).drop 1 = (trimStart cs).drop 1 ++ more := by
  have some := trimStart_ne_nil_of_next h
  rw [trimStart_append_of_ne_nil some, List.drop_append_of_le_length]
  exact List.length_pos_iff.2 some

/-! ## Strings and names -/

theorem stringBody?_quote {quote : Char} (hq : quote ≠ '\\') (cs : List Char) :
    stringBody? quote (quote :: cs) = some ([], cs) := by
  cases cs with
  | nil => exact if_pos rfl
  | cons d rest => rw [stringBody?, if_neg hq, if_pos rfl]

theorem stringBody?_append {quote : Char} (hq : quote ≠ '\\') {body : List Char}
    (h : stringBody? quote cs = some (body, rest)) (more : List Char) :
    stringBody? quote (cs ++ more) = some (body, rest ++ more) := by
  induction cs using stringBody?.induct quote generalizing body with
  | case1 => cases h
  | case2 =>
    rw [stringBody?_quote hq] at h
    cases h
    exact stringBody?_quote hq more
  | case3 c other =>
    rw [stringBody?, if_neg other] at h
    cases h
  | case4 d tail ih =>
    rw [stringBody?, if_pos rfl] at h
    obtain ⟨⟨after, left⟩, inside, h⟩ := Option.bind_eq_some_iff.1 h
    cases h
    rw [List.cons_append, List.cons_append, stringBody?, if_pos rfl, ih inside]
    rfl
  | case5 d tail =>
    rw [stringBody?_quote hq] at h
    cases h
    exact stringBody?_quote hq _
  | case6 c d tail escape other ih =>
    rw [stringBody?, if_neg escape, if_neg other] at h
    obtain ⟨⟨after, left⟩, inside, h⟩ := Option.bind_eq_some_iff.1 h
    cases h
    have longer := ih inside
    rw [List.cons_append] at longer
    rw [List.cons_append, List.cons_append, stringBody?, if_neg escape, if_neg other, longer]
    rfl

theorem readString_append {s : String} (quoted : nextQuote cs = true)
    (h : readString literal cs = .ok (s, rest)) (more : List Char) :
    readString literal' (cs ++ more) = .ok (s, rest ++ more) := by
  unfold readString nextQuote at *
  cases start : trimStart cs with
  | nil =>
    rw [start] at quoted
    cases quoted
  | cons quote tail =>
    have hq : quote ≠ '\\' := by
      rintro rfl
      rw [start] at quoted
      cases quoted
    rw [start] at h
    rw [trimStart_append_of_ne_nil (by simp [start]), start, List.cons_append]
    dsimp only at h ⊢
    cases inside : stringBody? quote tail with
    | none =>
      rw [inside] at h
      exact absurd h refuse_ne_ok
    | some found =>
      rw [inside] at h
      cases h
      rw [stringBody?_append hq inside]

theorem trimStart_ne_nil_of_nextQuote (h : nextQuote cs = true) : trimStart cs ≠ [] := by
  intro none
  unfold nextQuote at h
  rw [none] at h
  cases h

theorem trimStart_ne_nil_of_readName {name : String} (h : readName literal cs = .ok (name, rest)) :
    trimStart cs ≠ [] := by
  unfold readName at h
  split at h
  · rename_i quoted
    exact trimStart_ne_nil_of_nextQuote quoted
  · intro none
    rw [none] at h
    exact absurd h refuse_ne_ok

/-- A name is read alike when something that ends it is left. -/
theorem readName_append {name : String} (h : readName literal cs = .ok (name, rest))
    (ended : rest ≠ []) (more : List Char) :
    readName literal' (cs ++ more) = .ok (name, rest ++ more) := by
  have some := trimStart_ne_nil_of_readName h
  unfold readName at h ⊢
  rw [nextQuote_append some]
  split at h
  · rename_i quoted
    rw [if_pos quoted]
    exact readString_append quoted h more
  · rename_i bare
    rw [if_neg bare, trimStart_append_of_ne_nil some]
    cases start : trimStart cs with
    | nil => exact absurd start some
    | cons c tail =>
      rw [start] at h
      rw [List.cons_append]
      dsimp only at h ⊢
      split at h
      · rename_i starts
        cases h
        rw [if_pos starts, takeWhile_append_of_drop ended,
          List.drop_append_of_le_length (List.takeWhile_sublist _).length_le]
      · exact absurd h refuse_ne_ok

/-! ## Regular expressions -/

theorem patternBody?_slash (cs : List Char) : patternBody? false ('/' :: cs) = some ([], cs) := by
  cases cs with
  | nil => rfl
  | cons d rest => rfl

theorem patternBody?_append {inSet : Bool} {body : List Char}
    (h : patternBody? inSet cs = some (body, rest)) (more : List Char) :
    patternBody? inSet (cs ++ more) = some (body, rest ++ more) := by
  have slash : ∀ {inSet : Bool} {c : Char} {tail body rest : List Char},
      (decide (c = '/') && !inSet) = true → patternBody? inSet (c :: tail) = some (body, rest) →
      patternBody? inSet (c :: tail ++ more) = some (body, rest ++ more) := by
    intro inSet c tail body rest closes h
    simp only [Bool.and_eq_true, decide_eq_true_eq, Bool.not_eq_true'] at closes
    obtain ⟨rfl, rfl⟩ := closes
    rw [patternBody?_slash] at h
    cases h
    exact patternBody?_slash _
  induction inSet, cs using patternBody?.induct generalizing body with
  | case1 => cases h
  | case2 inSet c closes => exact slash closes h
  | case3 inSet c open' =>
    rw [patternBody?, if_neg open'] at h
    cases h
  | case4 inSet d tail ih =>
    rw [patternBody?, if_pos rfl] at h
    obtain ⟨⟨after, left⟩, inside, h⟩ := Option.bind_eq_some_iff.1 h
    cases h
    rw [List.cons_append, List.cons_append, patternBody?, if_pos rfl, ih inside]
    rfl
  | case5 inSet c d tail escape closes => exact slash closes h
  | case6 inSet c d tail escape open' inSet' =>
    rename_i ih
    rw [patternBody?, if_neg escape, if_neg open'] at h
    obtain ⟨⟨after, left⟩, inside, h⟩ := Option.bind_eq_some_iff.1 h
    cases h
    have longer := ih inside
    rw [List.cons_append] at longer
    rw [List.cons_append, List.cons_append, patternBody?, if_neg escape, if_neg open']
    dsimp only
    rw [longer]
    rfl

theorem readPattern_append {value : Value} (h : readPattern literal cs = .ok (value, rest))
    (ended : rest ≠ []) (more : List Char) :
    readPattern literal' (cs ++ more) = .ok (value, rest ++ more) := by
  unfold readPattern at h ⊢
  cases inside : patternBody? false cs with
  | none =>
    rw [inside] at h
    exact absurd h refuse_ne_ok
  | some found =>
    obtain ⟨source, after⟩ := found
    rw [inside] at h
    rw [patternBody?_append inside]
    obtain ⟨pattern, read, h⟩ := bind_eq_ok.1 h
    rw [pure_eq_ok] at h
    cases h
    dsimp only
    rw [takeWhile_append_of_drop ended,
      List.drop_append_of_le_length (List.takeWhile_sublist _).length_le]
    exact bind_eq_ok.2 ⟨pattern, read, rfl⟩

/-! ## Values -/

/-- What follows a value: after blanks, a comma or a closing bracket. -/
def Delimited (rest : List Char) : Prop :=
  ∃ c, (c = ',' ∨ c = '}' ∨ c = ']') ∧ next c rest = true

theorem Delimited.ne_nil (h : Delimited rest) : rest ≠ [] := by
  obtain ⟨c, -, hc⟩ := h
  rintro rfl
  exact trimStart_ne_nil_of_next hc rfl

/-- What follows a value begins with a blank or with what delimits it, and either ends a number. -/
theorem Delimited.ended (h : Delimited rest) : NumberLiteral.Ended rest := by
  obtain ⟨c, mark, hc⟩ := h
  unfold next at hc
  cases rest with
  | nil => cases hc
  | cons d tail =>
    cases hd : isBlank d with
    | true =>
      have codes : ∀ code ∈ blankCodes, isDigit (Char.ofNat code) = false := by decide +kernel
      refine .intro ?_ ?_ ?_ ?_
      · rw [← Char.ofNat_toNat d]
        exact codes _ (mem_blankCodes hd)
      all_goals
        rintro rfl
        cases hd
    | false =>
      have start : trimStart (d :: tail) = d :: tail :=
        trimStart_append [] (by simp) (by simpa using hd)
      rw [start] at hc
      cases eq_of_beq hc
      rcases mark with rfl | rfl | rfl <;>
        exact .intro (by decide) (by decide) (by decide) (by decide)

theorem readNumber_append {value : Value} (h : readNumber literal cs = .ok (value, rest))
    (delimited : Delimited rest) (more : List Char) :
    readNumber literal' (cs ++ more) = .ok (value, rest ++ more) := by
  unfold readNumber at h ⊢
  cases read : NumberLiteral.read? cs with
  | none =>
    rw [read] at h
    exact absurd h refuse_ne_ok
  | some found =>
    obtain ⟨number, after⟩ := found
    rw [read] at h
    dsimp only at h
    have same : after = rest := by
      split at h
      · cases h
      · split at h <;> cases h <;> rfl
    subst same
    rw [NumberLiteral.read?_append read delimited.ended]
    dsimp only
    split at h
    · cases h
    · rename_i short
      rw [if_neg short]
      split at h <;> cases h <;> rfl

/-- A value that is no string, and begins with none of three characters, is a number. -/
theorem readPlain_of_number {c : Char} {tail : List Char} (bare : ¬nextQuote cs = true)
    (start : trimStart cs = c :: tail) (slash : c ≠ '/') (t : c ≠ 't') (f : c ≠ 'f') :
    readPlain literal cs = readNumber literal (c :: tail) := by
  rw [readPlain, if_neg bare, start]
  simp [slash, t, f]

theorem trimStart_ne_nil_of_readPlain {value : Value}
    (h : readPlain literal cs = .ok (value, rest)) : trimStart cs ≠ [] := by
  unfold readPlain at h
  split at h
  · rename_i quoted
    exact trimStart_ne_nil_of_nextQuote quoted
  · intro none
    rw [none] at h
    exact absurd h refuse_ne_ok

theorem readPlain_append {value : Value} (h : readPlain literal cs = .ok (value, rest))
    (delimited : Delimited rest) (more : List Char) :
    readPlain literal' (cs ++ more) = .ok (value, rest ++ more) := by
  have ne := trimStart_ne_nil_of_readPlain h
  have longer := trimStart_append_of_ne_nil ne more
  by_cases quoted : nextQuote cs = true
  · rw [readPlain, if_pos quoted] at h
    obtain ⟨⟨s, after⟩, read, h⟩ := bind_eq_ok.1 h
    rw [pure_eq_ok] at h
    cases h
    rw [readPlain, nextQuote_append ne, if_pos quoted]
    exact bind_eq_ok.2 ⟨(s, _), readString_append quoted read more, rfl⟩
  have bare : ¬nextQuote (cs ++ more) = true := by rwa [nextQuote_append ne]
  rw [readPlain, if_neg quoted] at h
  split at h
  · rename_i tail start
    rw [start] at longer
    rw [readPlain, if_neg bare, longer]
    exact readPattern_append h delimited.ne_nil more
  · rename_i tail start
    cases h
    rw [start] at longer
    rw [readPlain, if_neg bare, longer]
    rfl
  · rename_i tail start
    cases h
    rw [start] at longer
    rw [readPlain, if_neg bare, longer]
    rfl
  · cases start : trimStart cs with
    | nil => exact absurd start ne
    | cons c tail =>
      rw [start] at h longer
      -- Only a number begins as what was read, whatever comes after it.
      have other : ∀ {mark : Char}, isDigit mark = false → mark ≠ '-' → mark ≠ '.' → mark ≠ 'I' →
          c ≠ mark := by
        rintro mark digit minus point infinity rfl
        rw [readNumber, NumberLiteral.read?_eq_none digit minus point infinity] at h
        exact absurd h refuse_ne_ok
      rw [readPlain_of_number bare longer (other (by decide) (by decide) (by decide) (by decide))
        (other (by decide) (by decide) (by decide) (by decide))
        (other (by decide) (by decide) (by decide) (by decide))]
      exact readNumber_append h delimited more

/-! ## Values with messages

A value may stand in brackets with a message behind it. What is read after the value is cut into
the steps of the reader, from its end to its start: the closing bracket, the message with the
comma that may follow it, and the comma before it. A number or a flag as the value needs a mark
behind it, and each step tells that it begins at one. -/

theorem delimited_of_expect (h : expect literal ']' cs = .ok rest) : Delimited cs := by
  refine ⟨']', .inr (.inr rfl), ?_⟩
  unfold expect at h
  unfold next
  cases start : trimStart cs with
  | nil =>
    rw [start] at h
    exact absurd h refuse_ne_ok
  | cons c tail =>
    rw [start] at h
    dsimp only at h
    split at h
    · rename_i same
      rw [same]
      rfl
    · exact absurd h refuse_ne_ok

/-- The end of a value with a message. -/
def closePair (literal : List Char) (value : Value) (message : String) (cs : List Char) :
    Except Fault (Value × List Char) := do
  return (.tuple [value, .string message], ← expect literal ']' cs)

theorem closePair_append {value pair : Value} {message : String}
    (h : closePair literal value message cs = .ok (pair, rest)) (more : List Char) :
    closePair literal' value message (cs ++ more) = .ok (pair, rest ++ more) ∧ Delimited cs := by
  obtain ⟨after, closed, h⟩ := bind_eq_ok.1 h
  rw [pure_eq_ok] at h
  cases h
  exact ⟨bind_eq_ok.2 ⟨_, expect_append closed more, rfl⟩, delimited_of_expect closed⟩

theorem Delimited.trimStart_ne_nil (h : Delimited rest) : trimStart rest ≠ [] := by
  obtain ⟨c, -, hc⟩ := h
  exact trimStart_ne_nil_of_next hc

/-- The end after a message, which a comma may follow. -/
theorem closePair_comma_append {value pair : Value} {message : String}
    (h : closePair literal value message (if next ',' cs then (trimStart cs).drop 1 else cs) =
      .ok (pair, rest)) (more : List Char) :
    closePair literal' value message
        (if next ',' (cs ++ more) then (trimStart (cs ++ more)).drop 1 else cs ++ more) =
      .ok (pair, rest ++ more) := by
  by_cases comma : next ',' cs = true
  · rw [if_pos comma] at h
    rw [next_append (trimStart_ne_nil_of_next comma), if_pos comma, drop_append_of_next comma]
    exact (closePair_append h more).1
  · rw [if_neg comma] at h
    obtain ⟨closed, delimited⟩ := closePair_append h more
    rw [next_append delimited.trimStart_ne_nil, if_neg comma]
    exact closed

/-- The message of a value after a comma, if there is one, and the end. -/
def readMessage (literal : List Char) (value : Value) (cs : List Char) :
    Except Fault (Value × List Char) :=
  if (trimStart cs).isEmpty || next ']' cs then closePair literal value "" cs
  else if !nextQuote cs then stop literal .messageExpected (trimStart cs)
  else do
    let (message, cs) ← readString literal cs
    closePair literal value message (if next ',' cs then (trimStart cs).drop 1 else cs)

theorem readMessage_append {value pair : Value}
    (h : readMessage literal value cs = .ok (pair, rest)) (more : List Char) :
    readMessage literal' value (cs ++ more) = .ok (pair, rest ++ more) := by
  unfold readMessage at h ⊢
  split at h
  · -- The message is missing.
    rename_i missing
    obtain ⟨closed, delimited⟩ := closePair_append h more
    have ne := delimited.trimStart_ne_nil
    rw [if_pos]
    · exact closed
    · have some : (trimStart cs).isEmpty = false := by simp [ne]
      rw [some, Bool.false_or] at missing
      rw [next_append ne, missing, Bool.or_true]
  rename_i there
  split at h
  · exact absurd h refuse_ne_ok
  · rename_i quoted
    have quoted : nextQuote cs = true := by simpa using quoted
    have ne := trimStart_ne_nil_of_nextQuote quoted
    obtain ⟨⟨message, after⟩, read, h⟩ := bind_eq_ok.1 h
    rw [if_neg, nextQuote_append ne, if_neg (by simp [quoted])]
    · exact bind_eq_ok.2 ⟨(message, after ++ more), readString_append quoted read more,
        closePair_comma_append h more⟩
    · rw [next_append ne, trimStart_append_of_ne_nil ne]
      simp only [Bool.or_eq_true, not_or] at there
      simp [there.2, ne]

/-- What follows the value of a pair. -/
def readRest (literal : List Char) (value : Value) (cs : List Char) :
    Except Fault (Value × List Char) :=
  if !next ',' cs then closePair literal value "" cs
  else readMessage literal value ((trimStart cs).drop 1)

theorem readRest_append {value pair : Value}
    (h : readRest literal value cs = .ok (pair, rest)) (more : List Char) :
    readRest literal' value (cs ++ more) = .ok (pair, rest ++ more) ∧ Delimited cs := by
  unfold readRest at h ⊢
  by_cases comma : next ',' cs = true
  · have delimited : Delimited cs := ⟨',', .inl rfl, comma⟩
    refine ⟨?_, delimited⟩
    rw [if_neg (by simp [comma])] at h
    rw [next_append delimited.trimStart_ne_nil, if_neg (by simp [comma]),
      drop_append_of_next comma]
    exact readMessage_append h more
  · rw [if_pos (by simp [comma])] at h
    obtain ⟨closed, delimited⟩ := closePair_append h more
    refine ⟨?_, delimited⟩
    rw [next_append delimited.trimStart_ne_nil, if_pos (by simp [comma])]
    exact closed

theorem readPair_eq (literal cs : List Char) :
    readPair literal cs = (do
      let (value, cs) ← readPlain literal cs
      readRest literal value cs) := rfl

theorem readPair_append {pair : Value} (h : readPair literal cs = .ok (pair, rest))
    (more : List Char) : readPair literal' (cs ++ more) = .ok (pair, rest ++ more) := by
  rw [readPair_eq] at h ⊢
  obtain ⟨⟨value, after⟩, read, h⟩ := bind_eq_ok.1 h
  obtain ⟨closed, delimited⟩ := readRest_append h more
  exact bind_eq_ok.2 ⟨(value, after ++ more), readPlain_append read delimited more, closed⟩

theorem readValue_append {value : Value} (h : readValue literal cs = .ok (value, rest))
    (delimited : Delimited rest) (more : List Char) :
    readValue literal' (cs ++ more) = .ok (value, rest ++ more) := by
  unfold readValue at h ⊢
  split at h
  · rename_i pair
    rw [next_append (trimStart_ne_nil_of_next pair), if_pos pair, drop_append_of_next pair]
    exact readPair_append h more
  · rename_i plain
    rw [next_append (trimStart_ne_nil_of_readPlain h), if_neg plain]
    exact readPlain_append h delimited more

/-! ## Entries

The reader of entries counts its rounds by the length of the whole literal, so it has more of them
left when the text goes on. It needs no more than before. -/

/-- The entries are read alike when the text goes on, with as many rounds or more. -/
theorem readEntries_append {fuel fuel' : Nat} {done entries : List (String × Value)}
    (h : readEntries literal fuel done cs = .ok (entries, rest)) (enough : fuel ≤ fuel')
    (more : List Char) :
    readEntries literal' fuel' done (cs ++ more) = .ok (entries, rest ++ more) := by
  -- Rounds go from one entry to the next, or from the last one to the bracket.
  induction fuel generalizing fuel' done cs with
  | zero => exact absurd h refuse_ne_ok
  | succ fuel ih =>
    obtain ⟨fuel', rfl⟩ : ∃ n, fuel' = n + 1 := ⟨fuel' - 1, by omega⟩
    rw [readEntries] at h ⊢
    by_cases closed : next '}' cs = true
    · rw [if_pos closed, pure_eq_ok] at h
      cases h
      rw [next_append (trimStart_ne_nil_of_next closed), if_pos closed,
        drop_append_of_next closed]
      rfl
    · rw [if_neg closed] at h
      obtain ⟨⟨name, afterName⟩, readsName, h⟩ := bind_eq_ok.1 h
      obtain ⟨afterColon, colon, h⟩ := bind_eq_ok.1 h
      obtain ⟨⟨value, afterValue⟩, readsValue, h⟩ := bind_eq_ok.1 h
      have named : afterName ≠ [] := by
        rintro rfl
        exact trimStart_ne_nil_of_expect colon rfl
      rw [next_append (trimStart_ne_nil_of_readName readsName), if_neg closed]
      refine bind_eq_ok.2 ⟨_, readName_append readsName named more, ?_⟩
      refine bind_eq_ok.2 ⟨_, expect_append colon more, ?_⟩
      dsimp only at h ⊢
      -- A value is followed by a comma or the bracket, so what is added does not make it longer.
      have goesOn : ∀ {c : Char}, c = ',' ∨ c = '}' → next c afterValue = true →
          readValue literal' (afterColon ++ more) = .ok (value, afterValue ++ more) :=
        fun mark hc => readValue_append readsValue ⟨_, mark.imp_right .inl, hc⟩ more
      by_cases comma : next ',' afterValue = true
      · rw [if_pos comma] at h
        refine bind_eq_ok.2 ⟨_, goesOn (.inl rfl) comma, ?_⟩
        dsimp only
        rw [next_append (trimStart_ne_nil_of_next comma), if_pos comma,
          drop_append_of_next comma]
        exact ih h (by omega)
      · rw [if_neg comma] at h
        by_cases last : next '}' afterValue = true
        · rw [if_pos last] at h
          refine bind_eq_ok.2 ⟨_, goesOn (.inr rfl) last, ?_⟩
          have ne := trimStart_ne_nil_of_next last
          dsimp only
          rw [next_append ne, if_neg comma, next_append ne, if_pos last]
          exact ih h (by omega)
        · rw [if_neg last] at h
          exact absurd h refuse_ne_ok

/-! ## Literals -/

/-- A text that is a literal does not go on as another one. -/
theorem not_readLiteral_append {more : List Char} {entries others : List (String × Value)}
    (h : readLiteral cs = .ok entries) (tight : Tight (cs ++ more)) (ne : more ≠ []) :
    readLiteral (cs ++ more) ≠ .ok others := by
  intro longer
  obtain ⟨before, after, hb, ha, split⟩ := exists_trim cs
  obtain ⟨afterBrace, opened, h⟩ := bind_eq_ok.1 h
  obtain ⟨⟨read, rest⟩, reads, h⟩ := bind_eq_ok.1 h
  -- No blank stands before the brace, and what stands after the literal is not only blanks.
  have none : before = [] := by
    cases before with
    | nil => rfl
    | cons c tail =>
      have start := tight.starts c (by rw [split]; rfl)
      rw [hb c (by simp)] at start
      cases start
  rw [none, List.nil_append] at split
  have whole : cs ++ more = trim cs ++ (after ++ more) := by
    rw [← List.append_assoc, ← split]
  have more_left : trimStart (rest ++ (after ++ more)) ≠ [] := by
    intro blank
    have blank := trimStart_eq_nil_iff.1 blank
    exact tight.not_blanks ne fun c hc => blank c (by simp [hc])
  have enough : (trim cs).length + 1 ≤ (cs ++ more).length + 1 := by
    rw [whole, List.length_append]
    omega
  unfold readLiteral at longer
  rw [tight.trim_eq, whole] at longer
  rw [whole] at enough
  obtain ⟨afterBrace', opened', longer⟩ := bind_eq_ok.1 longer
  rw [expect_append opened] at opened'
  cases opened'
  obtain ⟨⟨read', rest'⟩, reads', longer⟩ := bind_eq_ok.1 longer
  rw [readEntries_append reads enough] at reads'
  cases reads'
  dsimp only at longer
  rw [if_neg (by simpa using more_left)] at longer
  exact absurd longer refuse_ne_ok

end Filter

end Docblock
