import Docblock.Proofs.Filter.Extend
import Docblock.Proofs.Number.Whole

/-!
# Printed filter literals

The text of a filter literal as a tree: what each entry holds, and how it was written (which quotes,
which blanks between two tokens, a comma after the last entry or none). Reading the text of a tree
gives the entries of the tree in their order (`readLiteral_print`), whatever stands in the keys and
the strings. Each reader leaves exactly what follows the token it reads.

Names are always in quotes, and numbers are whole. No two entries have one name, because a later one
would take the place of an earlier one. Regular expressions and numbers with a point or an exponent
are not printed. The first are compiled when they are read, and the second are rounded.

A number has no more digits than can be read (`PlainTree.integer`). A longer one is refused by the
reader, and not taken for something else.
-/

namespace Docblock

open Text

namespace NumberLiteral

variable {rest : List Char}

theorem spanDigits_toDigits (n : Nat) (ended : Ended rest) :
    spanDigits (Nat.toDigits 10 n ++ rest) = (Nat.toDigits 10 n, rest) := by
  obtain ⟨c, after, rfl, digit⟩ : ∃ c after, rest = c :: after ∧ isDigit c = false := by
    cases ended with
    | intro digit => exact ⟨_, _, rfl, digit⟩
  have stop : ¬isDigit c = true := by simp [digit]
  rw [spanDigits, List.span_eq_takeWhile_dropWhile,
    List.takeWhile_append_of_pos fun _ => isDigit_of_mem_toDigits,
    List.dropWhile_append_of_pos fun _ => isDigit_of_mem_toDigits,
    List.takeWhile_cons_of_neg stop, List.dropWhile_cons_of_neg stop, List.append_nil]

theorem readUnsigned_toDigits_append (negative : Bool) (n : Nat) (ended : Ended rest) :
    readUnsigned negative (Nat.toDigits 10 n ++ rest) =
      some (.decimal negative (Nat.toDigits 10 n) none none, rest) := by
  have span := spanDigits_toDigits n ended
  obtain ⟨d, ds, digits, -⟩ := exists_toDigits n
  obtain ⟨-, point, small, large⟩ := ended
  rw [digits] at span ⊢
  rw [readUnsigned_whole span point, withExponent, readExponent_of_ne small large]

/-- The digits of a whole number are read as far as they go. -/
theorem read?_wholeText_append (n : Int) (ended : Ended rest) :
    read? (wholeText n ++ rest) =
      some (.decimal (n < 0) (Nat.toDigits 10 n.natAbs) none none, rest) := by
  unfold wholeText
  by_cases negative : n < 0
  · rw [if_pos negative, decide_eq_true negative]
    exact readUnsigned_toDigits_append true _ ended
  · rw [if_neg negative, decide_eq_false negative, read?_toDigits_append]
    exact readUnsigned_toDigits_append false _ ended

end NumberLiteral

namespace Filter

/-! ## Trees -/

/-- What may stand between two tokens. -/
structure Gap where
  chars : List Char
  blank : Blanks chars

/-- A text in quotes of one of the kinds. -/
structure QuotedText where
  quote : Char
  kind : isQuote quote = true
  chars : List Char

/-- A number, a truth value or a text. A number has no more digits than can be read. -/
inductive PlainTree where
  | integer (n : Int) (short : (Nat.toDigits 10 n.natAbs).length ≤ digitLimit)
  | boolean (b : Bool)
  | string (text : QuotedText)

/-- A value, alone or with a message in square brackets. -/
inductive ValueTree where
  | plain (value : PlainTree)
  | pair (start : Gap) (value : PlainTree) (middle afterComma : Gap) (message : QuotedText)
      (stop : Gap)

/-- A name and its value. -/
structure EntryTree where
  start : Gap
  name : QuotedText
  afterName : Gap
  afterColon : Gap
  value : ValueTree
  stop : Gap

/-- Entries with commas between them. One may stand after the last as well. -/
inductive EntryTrees where
  | done (gap : Gap)
  | last (entry : EntryTree)
  | more (entry : EntryTree) (rest : EntryTrees)

/-- The text of a string with a backslash before each backslash and each of its quotes. -/
def escape (quote : Char) (cs : List Char) : List Char :=
  cs.flatMap fun c => if c = '\\' ∨ c = quote then ['\\', c] else [c]

def QuotedText.print (text : QuotedText) : List Char :=
  text.quote :: (escape text.quote text.chars ++ [text.quote])

def QuotedText.string (text : QuotedText) : String := String.ofList text.chars

def PlainTree.print : PlainTree → List Char
  | .integer n _ => NumberLiteral.wholeText n
  | .boolean b => (if b then "true" else "false").toList
  | .string text => text.print

def PlainTree.value : PlainTree → Value
  | .integer n _ => .int n
  | .boolean b => .bool b
  | .string text => .string text.string

def ValueTree.print : ValueTree → List Char
  | .plain value => value.print
  | .pair start value middle afterComma message stop =>
    '[' :: (start.chars ++ value.print ++ middle.chars ++ ',' :: (afterComma.chars ++
      message.print ++ stop.chars ++ [']']))

/-- The value of a tree: with a message, the pair of the two. -/
def ValueTree.value : ValueTree → Value
  | .plain value => value.value
  | .pair _ value _ _ message _ => .tuple [value.value, .string message.string]

def EntryTree.print (entry : EntryTree) : List Char :=
  entry.start.chars ++ entry.name.print ++ entry.afterName.chars ++ ':' ::
    (entry.afterColon.chars ++ entry.value.print ++ entry.stop.chars)

def EntryTrees.print : EntryTrees → List Char
  | .done gap => gap.chars
  | .last entry => entry.print
  | .more entry rest => entry.print ++ ',' :: rest.print

/-- The named values of entries, in their order. -/
def EntryTrees.values : EntryTrees → List (String × Value)
  | .done _ => []
  | .last entry => [(entry.name.string, entry.value.value)]
  | .more entry rest => (entry.name.string, entry.value.value) :: rest.values

/-- A filter literal: entries in braces, no two of one name. -/
structure LiteralTree where
  start : Gap
  entries : EntryTrees
  stop : Gap
  distinct : (entries.values.map Prod.fst).Nodup

def LiteralTree.print (tree : LiteralTree) : List Char :=
  tree.start.chars ++ '{' :: (tree.entries.print ++ ['}']) ++ tree.stop.chars

variable {literal rest : List Char}

/-! ## Single characters -/

/-- Blanks before a token make no difference to its reader. -/
theorem trimStart_gap (gap : Gap) {c : Char} (hc : isBlank c = false) (rest : List Char) :
    trimStart (gap.chars ++ c :: rest) = c :: rest :=
  trimStart_append gap.chars gap.blank (by rintro d ⟨⟩; exact hc)

theorem expect_gap (gap : Gap) {c : Char} (hc : isBlank c = false) :
    expect literal c (gap.chars ++ c :: rest) = .ok rest := by
  rw [expect, trimStart_gap gap hc]
  exact if_pos rfl

theorem next_gap (gap : Gap) (c : Char) {d : Char} (hd : isBlank d = false) :
    next c (gap.chars ++ d :: rest) = (d == c) := by
  rw [next, trimStart_gap gap hd]
  rfl

theorem nextQuote_gap (gap : Gap) {c : Char} (hc : isBlank c = false) :
    nextQuote (gap.chars ++ c :: rest) = isQuote c := by
  rw [nextQuote, trimStart_gap gap hc]
  rfl

theorem ne_of_isQuote {quote c : Char} (h : isQuote quote = true) (hc : isQuote c = false) :
    quote ≠ c := by
  rintro rfl
  rw [h] at hc
  cases hc

/-! ## Strings -/

theorem stringBody?_cons {quote c : Char} (escape : c ≠ '\\') (other : c ≠ quote)
    (ne : rest ≠ []) : stringBody? quote (c :: rest) =
      (stringBody? quote rest).map fun found => (c :: found.1, found.2) := by
  obtain ⟨d, tail, rfl⟩ := List.exists_cons_of_ne_nil ne
  rw [stringBody?, if_neg escape, if_neg other]
  cases stringBody? quote (d :: tail) <;> rfl

theorem unescape_of_escaped {quote c : Char} (kind : isQuote quote = true)
    (h : c = '\\' ∨ c = quote) : unescape c = c := by
  simp only [isQuote, Bool.or_eq_true, beq_iff_eq] at kind
  rcases h with rfl | rfl
  · rfl
  · rcases kind with (rfl | rfl) | rfl <;> rfl

/-- The body of a string ends at the quote that was put there. -/
theorem stringBody?_escape {quote : Char} (kind : isQuote quote = true) (cs rest : List Char) :
    stringBody? quote (escape quote cs ++ quote :: rest) = some (cs, rest) := by
  induction cs with
  | nil => exact stringBody?_quote (ne_of_isQuote kind rfl) rest
  | cons c cs ih =>
    rw [escape, List.flatMap_cons, ← escape]
    by_cases escaped : c = '\\' ∨ c = quote
    · rw [if_pos escaped, List.append_assoc, List.cons_append, List.cons_append, List.nil_append,
        stringBody?, if_pos rfl, ih, unescape_of_escaped kind escaped]
      rfl
    · obtain ⟨notBackslash, notQuote⟩ := not_or.1 escaped
      rw [if_neg escaped, List.append_assoc, List.cons_append, List.nil_append,
        stringBody?_cons notBackslash notQuote (by simp), ih]
      rfl

theorem nextQuote_print (gap : Gap) (text : QuotedText) :
    nextQuote (gap.chars ++ (text.print ++ rest)) = true := by
  rw [QuotedText.print, List.cons_append, nextQuote_gap gap (isBlank_of_isQuote text.kind),
    text.kind]

theorem readString_print (gap : Gap) (text : QuotedText) :
    readString literal (gap.chars ++ (text.print ++ rest)) = .ok (text.string, rest) := by
  rw [readString, QuotedText.print, List.cons_append,
    trimStart_gap gap (isBlank_of_isQuote text.kind), List.append_assoc]
  dsimp only
  rw [List.singleton_append, stringBody?_escape text.kind]
  rfl

theorem readName_print (gap : Gap) (text : QuotedText) :
    readName literal (gap.chars ++ (text.print ++ rest)) = .ok (text.string, rest) := by
  rw [readName, if_pos (nextQuote_print gap text)]
  exact readString_print gap text

/-! ## Values -/

theorem delimited_gap (gap : Gap) {c : Char} (mark : c = ',' ∨ c = '}' ∨ c = ']') :
    Delimited (gap.chars ++ c :: rest) := by
  refine ⟨c, mark, ?_⟩
  have solid : isBlank c = false := by rcases mark with rfl | rfl | rfl <;> rfl
  rw [next_gap gap c solid, beq_self_eq_true]

/-- A whole number begins as no other value does. -/
theorem exists_wholeText (n : Int) :
    ∃ c tail, NumberLiteral.wholeText n = c :: tail ∧ Plain c ∧ c ≠ 't' ∧ c ≠ 'f' := by
  unfold NumberLiteral.wholeText
  by_cases negative : n < 0
  · exact ⟨'-', _, if_pos negative, by decide⟩
  · obtain ⟨d, ds, digits, digit⟩ := NumberLiteral.exists_toDigits n.natAbs
    refine ⟨d, ds, by rw [if_neg negative, digits], .of_isDigit digit, ?_, ?_⟩
    all_goals
      rintro rfl
      cases digit

theorem readNumber_wholeText {n : Int}
    (short : (Nat.toDigits 10 n.natAbs).length ≤ digitLimit) (delimited : Delimited rest) :
    readNumber literal (NumberLiteral.wholeText n ++ rest) = .ok (.int n, rest) := by
  have value : (if decide (n < 0) = true then -(n.natAbs : Int) else n.natAbs) = n := by
    split <;> rename_i sign <;> simp only [decide_eq_true_eq] at sign <;> omega
  rw [readNumber, NumberLiteral.read?_wholeText_append n delimited.ended]
  simp only [NumberLiteral.wholeDigits?, Option.getD_some, if_neg (Nat.not_lt.2 short),
    NumberLiteral.toNumber, NumberLiteral.valueOf_toDigits, value]

theorem readPlain_print (gap : Gap) (tree : PlainTree) (delimited : Delimited rest) :
    readPlain literal (gap.chars ++ (tree.print ++ rest)) = .ok (tree.value, rest) := by
  cases tree with
  | integer n short =>
    obtain ⟨c, tail, text, plain, t, f⟩ := exists_wholeText n
    have start : trimStart (gap.chars ++ (NumberLiteral.wholeText n ++ rest)) =
        c :: (tail ++ rest) := by
      rw [text, List.cons_append, trimStart_gap gap plain.blank]
    have bare : ¬nextQuote (gap.chars ++ (NumberLiteral.wholeText n ++ rest)) = true := by
      rw [text, List.cons_append, nextQuote_gap gap plain.blank]
      simp [plain.quote]
    rw [PlainTree.print, readPlain_of_number bare start (plain.ne (by decide)) t f,
      ← List.cons_append, ← text]
    exact readNumber_wholeText short delimited
  | boolean b =>
    cases b with
    | false =>
      show readPlain literal (gap.chars ++ 'f' :: (['a', 'l', 's', 'e'] ++ rest)) = _
      rw [readPlain, nextQuote_gap gap rfl, trimStart_gap gap rfl]
      rfl
    | true =>
      show readPlain literal (gap.chars ++ 't' :: (['r', 'u', 'e'] ++ rest)) = _
      rw [readPlain, nextQuote_gap gap rfl, trimStart_gap gap rfl]
      rfl
  | string text =>
    rw [PlainTree.print, readPlain, if_pos (nextQuote_print gap text)]
    exact bind_eq_ok.2 ⟨_, readString_print gap text, rfl⟩

/-- What stands after the comma of a pair is its message and the closing bracket. -/
theorem readMessage_print (value : Value) (gap : Gap) (message : QuotedText) (stop : Gap) :
    readMessage literal value (gap.chars ++ (message.print ++ (stop.chars ++ ']' :: rest))) =
      .ok (.tuple [value, .string message.string], rest) := by
  have quoted : nextQuote (gap.chars ++ (message.print ++ (stop.chars ++ ']' :: rest))) = true :=
    nextQuote_print gap message
  have there : ¬((trimStart (gap.chars ++ (message.print ++ (stop.chars ++ ']' :: rest)))).isEmpty ||
      next ']' (gap.chars ++ (message.print ++ (stop.chars ++ ']' :: rest)))) = true := by
    rw [QuotedText.print, List.cons_append, next_gap gap ']' (isBlank_of_isQuote message.kind),
      trimStart_gap gap (isBlank_of_isQuote message.kind)]
    simp [ne_of_isQuote message.kind (c := ']') rfl]
  have closed : closePair literal value message.string (stop.chars ++ ']' :: rest) =
      .ok (.tuple [value, .string message.string], rest) :=
    bind_eq_ok.2 ⟨rest, expect_gap stop rfl, rfl⟩
  rw [readMessage, if_neg there, if_neg (by simp [quoted])]
  refine bind_eq_ok.2 ⟨_, readString_print gap message, ?_⟩
  dsimp only
  rw [next_gap stop ',' rfl]
  exact closed

/-- A value with a message is read up to its closing bracket. -/
theorem readPair_print (start : Gap) (value : PlainTree) (middle afterComma : Gap)
    (message : QuotedText) (stop : Gap) :
    readPair literal (start.chars ++ (value.print ++ (middle.chars ++ ',' :: (afterComma.chars ++
      (message.print ++ (stop.chars ++ ']' :: rest)))))) =
      .ok (.tuple [value.value, .string message.string], rest) := by
  rw [readPair_eq]
  refine bind_eq_ok.2 ⟨_, readPlain_print start value (delimited_gap middle (.inl rfl)), ?_⟩
  dsimp only
  rw [readRest, if_neg (by rw [next_gap middle ',' rfl]; exact Bool.noConfusion),
    trimStart_gap middle rfl]
  exact readMessage_print value.value afterComma message stop

/-- A value alone does not begin with a bracket. -/
theorem next_bracket_print (gap : Gap) (tree : PlainTree) :
    next '[' (gap.chars ++ (tree.print ++ rest)) = false := by
  obtain ⟨c, tail, text, solid, bracket⟩ :
      ∃ c tail, tree.print = c :: tail ∧ isBlank c = false ∧ c ≠ '[' := by
    cases tree with
    | integer n short =>
      obtain ⟨c, tail, text, plain, -⟩ := exists_wholeText n
      exact ⟨c, tail, text, plain.blank, plain.ne (by decide)⟩
    | boolean b => cases b <;> exact ⟨_, _, rfl, rfl, by decide⟩
    | string text =>
      exact ⟨text.quote, _, rfl, isBlank_of_isQuote text.kind, ne_of_isQuote text.kind rfl⟩
  rw [text, List.cons_append, next_gap gap '[' solid]
  simp [bracket]

theorem readValue_print (gap : Gap) (tree : ValueTree) (delimited : Delimited rest) :
    readValue literal (gap.chars ++ (tree.print ++ rest)) = .ok (tree.value, rest) := by
  cases tree with
  | plain value =>
    rw [ValueTree.print, readValue, if_neg (by simp [next_bracket_print])]
    exact readPlain_print gap value delimited
  | pair start value middle afterComma message stop =>
    rw [ValueTree.print, List.cons_append, readValue,
      if_pos (by rw [next_gap gap '[' rfl]; rfl), trimStart_gap gap rfl]
    simp only [List.append_assoc, List.cons_append, List.nil_append, List.drop_succ_cons,
      List.drop_zero]
    exact readPair_print start value middle afterComma message stop

/-! ## Entries -/

theorem insertNamed_of_not_mem {name : String} {value : Value} {done : List (String × Value)}
    (h : name ∉ done.map Prod.fst) : insertNamed name value done = done ++ [(name, value)] := by
  induction done with
  | nil => rfl
  | cons entry done ih =>
    obtain ⟨other, v⟩ := entry
    simp only [List.map_cons, List.mem_cons, not_or] at h
    rw [insertNamed, if_neg (Ne.symm h.1), ih h.2, List.cons_append]

/-- One round reads one entry, and goes on at the comma or the brace after it. -/
theorem readEntries_print (fuel : Nat) (done : List (String × Value)) (entry : EntryTree)
    (new : entry.name.string ∉ done.map Prod.fst) {c : Char} (mark : c = ',' ∨ c = '}') :
    readEntries literal (fuel + 1) done (entry.print ++ c :: rest) =
      readEntries literal fuel (done ++ [(entry.name.string, entry.value.value)])
        (if c = ',' then rest else entry.stop.chars ++ c :: rest) := by
  have text : entry.print ++ c :: rest = entry.start.chars ++ (entry.name.print ++
      (entry.afterName.chars ++ ':' :: (entry.afterColon.chars ++ (entry.value.print ++
        (entry.stop.chars ++ c :: rest))))) := by
    simp only [EntryTree.print, List.append_assoc, List.cons_append]
  have opened : next '}' (entry.print ++ c :: rest) = false := by
    rw [text, QuotedText.print, List.cons_append,
      next_gap entry.start _ (isBlank_of_isQuote entry.name.kind)]
    simp [ne_of_isQuote entry.name.kind (c := '}') rfl]
  have delimited : Delimited (entry.stop.chars ++ c :: rest) :=
    delimited_gap entry.stop (mark.imp_right .inl)
  have solid : isBlank c = false := by rcases mark with rfl | rfl <;> rfl
  rw [readEntries, if_neg (by simp [opened]), text, readName_print]
  simp only [bind, Except.bind, expect_gap entry.afterName (c := ':') rfl,
    readValue_print entry.afterColon entry.value delimited, insertNamed_of_not_mem new,
    next_gap entry.stop _ solid, trimStart_gap entry.stop solid]
  rcases mark with rfl | rfl
  · rfl
  · rfl

/-- The name of an entry is new where no two entries have one name. -/
theorem new_of_distinct {entry : String × Value} {done others : List (String × Value)}
    (distinct : ((done ++ entry :: others).map Prod.fst).Nodup) :
    entry.1 ∉ done.map Prod.fst := by
  rw [List.map_append, List.nodup_append] at distinct
  exact fun mem => distinct.2.2 _ mem _ (by simp) rfl

/-- The closing brace ends the entries. -/
theorem readEntries_close (fuel : Nat) (done : List (String × Value)) (gap : Gap) :
    readEntries literal (fuel + 1) done (gap.chars ++ '}' :: rest) = .ok (done, rest) := by
  rw [readEntries, if_pos (by rw [next_gap gap '}' rfl]; rfl), trimStart_gap gap rfl]
  rfl

/-- The entries of a tree are read in as many rounds as there are entries, and one more. -/
theorem readEntries_trees {fuel : Nat} {done : List (String × Value)} (trees : EntryTrees)
    (distinct : ((done ++ trees.values).map Prod.fst).Nodup)
    (enough : trees.values.length < fuel) :
    readEntries literal fuel done (trees.print ++ '}' :: rest) =
      .ok (done ++ trees.values, rest) := by
  obtain ⟨fuel, rfl⟩ : ∃ n, fuel = n + 1 := ⟨fuel - 1, by omega⟩
  induction trees generalizing fuel done with
  | done gap =>
    rw [EntryTrees.values, List.append_nil]
    exact readEntries_close fuel done gap
  | last entry =>
    obtain ⟨fuel, rfl⟩ := Nat.exists_eq_add_one.2 (Nat.lt_of_succ_lt_succ enough)
    rw [EntryTrees.print, readEntries_print (fuel + 1) done entry (new_of_distinct distinct)
      (.inr rfl)]
    exact readEntries_close fuel _ entry.stop
  | more entry trees ih =>
    have new := new_of_distinct distinct
    rw [EntryTrees.values, List.append_cons] at distinct
    have fewer : trees.values.length < fuel := Nat.lt_of_succ_lt_succ enough
    obtain ⟨fuel, rfl⟩ := Nat.exists_eq_add_one.2 (Nat.zero_lt_of_lt fewer)
    rw [EntryTrees.print, List.append_assoc, List.cons_append,
      readEntries_print (fuel + 1) done entry new (.inl rfl), if_pos rfl, ih distinct fuel fewer,
      EntryTrees.values, List.append_assoc, List.singleton_append]

theorem length_values_le (trees : EntryTrees) : trees.values.length ≤ trees.print.length := by
  induction trees with
  | done gap => exact Nat.zero_le _
  | last entry =>
    simp only [EntryTrees.values, EntryTrees.print, EntryTree.print, List.length_append,
      List.length_cons, List.length_nil]
    omega
  | more entry trees ih =>
    simp only [EntryTrees.values, EntryTrees.print, List.length_append, List.length_cons]
    omega

/-! ## Literals -/

/-- A printed literal is read as the entries that it was printed from. -/
theorem readLiteral_print (tree : LiteralTree) :
    readLiteral tree.print = .ok tree.entries.values := by
  have tight : Tight ('{' :: (tree.entries.print ++ ['}'])) := .between rfl rfl _
  have enough : tree.entries.values.length <
      ('{' :: (tree.entries.print ++ ['}'])).length + 1 := by
    have := length_values_le tree.entries
    simp only [List.length_cons, List.length_append, List.length_nil]
    omega
  unfold readLiteral LiteralTree.print
  rw [trim_between tree.start.blank tree.stop.blank tight]
  refine bind_eq_ok.2 ⟨_, expect_gap ⟨[], blanks_nil⟩ rfl, ?_⟩
  exact bind_eq_ok.2 ⟨_, readEntries_trees tree.entries tree.distinct enough, rfl⟩

/-- An entry with a quote in its name, and a value with a message. -/
def LiteralTree.quoted : LiteralTree where
  start := ⟨[], blanks_nil⟩
  entries := .more {
    start := ⟨[' '], blanks_space⟩
    name := ⟨'\'', rfl, ['a', '\'', 'b']⟩
    afterName := ⟨[], blanks_nil⟩
    afterColon := ⟨['\n'], blanks_newline⟩
    value := .pair ⟨[], blanks_nil⟩ (.integer (-12) (by decide)) ⟨[], blanks_nil⟩
      ⟨[], blanks_nil⟩ ⟨'"', rfl, ['n', 'o', '}']⟩ ⟨[' '], blanks_space⟩
    stop := ⟨[], blanks_nil⟩ } (.done ⟨[], blanks_nil⟩)
  stop := ⟨[], blanks_nil⟩
  distinct := by decide

example : LiteralTree.quoted.print = "\x7b 'a\\'b':\n[-12,\"no\x7d\" ],\x7d".toList ∧
    LiteralTree.quoted.entries.values = [("a'b", .tuple [.int (-12), .string "no\x7d"])] :=
  ⟨by decide, rfl⟩

end Filter

end Docblock
