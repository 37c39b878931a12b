import Docblock.Filter.Literal
import Docblock.Proofs.Text.Scan
import Mathlib.Data.List.TakeWhile

/-!
# Where a quoted string ends

A backslash in a string takes the next character with it, so the string ends at the first quote that
stands behind an even number of backslashes (`stringEnd?`). The reader of filter literals stops
there (`readString_eq`). The search for a closing quote looks at one character only: it stops at the
first quote that stands behind no backslash (`closingQuote?_eq`). The two places are the same just
where the string does not end in backslashes (`closingQuote?_eq_stringEnd?_iff`).

Both searches are put as one (`quoteBehind?`), which differs in the numbers of backslashes that it
lets stand in front of the quote. None is an even number, so the narrow search never finds a place
before the wide one, and comparing them takes no second induction (`quoteBehind?_eq_iff`).

What the reader makes of the string in between is not looked at. Only what it leaves of the text
decides where it has stopped.
-/

namespace Docblock.Text

/-- How many backslashes a text ends in. -/
def backslashes (cs : List Char) : Nat := (cs.reverse.takeWhile (· == '\\')).length

/-- The place of the first quote in a text that stands behind as many backslashes as are asked for.
Those at the end of what is in front of the text count for it. -/
def quoteBehind? (asked : Nat → Bool) (quote : Char) (before cs : List Char) : Option Nat :=
  (List.range cs.length).find? fun n =>
    cs[n]? == some quote && asked (backslashes (before ++ cs.take n))

/-- The place of the quote that ends a string, in what follows the quote that begins it. -/
def stringEnd? (quote : Char) (cs : List Char) : Option Nat :=
  quoteBehind? (· % 2 == 0) quote [] cs

variable {asked : Nat → Bool} {quote : Char} {before cs : List Char}

/-! ## Runs of backslashes -/

theorem backslashes_nil : backslashes [] = 0 := rfl

theorem backslashes_concat (cs : List Char) (c : Char) :
    backslashes (cs ++ [c]) = if c = '\\' then backslashes cs + 1 else 0 := by
  unfold backslashes
  rw [List.reverse_append, List.reverse_singleton, List.singleton_append, List.takeWhile_cons]
  by_cases escape : c = '\\' <;> simp [escape]

/-! ## Quotes behind backslashes -/

theorem quoteBehind?_nil : quoteBehind? asked quote before [] = none := rfl

/-- The search goes on behind every character that is not the quote it asks for. -/
theorem quoteBehind?_cons (c : Char) (cs : List Char) :
    quoteBehind? asked quote before (c :: cs) =
      if c = quote ∧ asked (backslashes before) = true then some 0
      else (quoteBehind? asked quote (before ++ [c]) cs).map (· + 1) := by
  unfold quoteBehind?
  rw [List.length_cons, List.range_succ_eq_map, List.find?_cons, List.find?_map]
  have first : ((c :: cs)[0]? == some quote && asked (backslashes (before ++ (c :: cs).take 0))) =
      decide (c = quote ∧ asked (backslashes before) = true) := by
    by_cases same : c = quote <;> simp [same]
  rw [first]
  split
  · rename_i found
    rw [if_pos (of_decide_eq_true found)]
  · rename_i other
    rw [if_neg (of_decide_eq_false other)]
    congr 2
    funext n
    simp

/-- Asking for more finds the same place just where that place has what the narrower search asks
for. -/
theorem quoteBehind?_eq_iff {wider : Nat → Bool} (weaker : ∀ n, asked n = true → wider n = true) :
    quoteBehind? asked quote before cs = quoteBehind? wider quote before cs ↔
      ∀ n, quoteBehind? wider quote before cs = some n →
        asked (backslashes (before ++ cs.take n)) = true := by
  unfold quoteBehind?
  constructor
  · intro same n found
    rw [← same, List.find?_range_eq_some, Bool.and_eq_true] at found
    exact found.1.2
  · intro fits
    cases found : (List.range cs.length).find? fun n =>
        cs[n]? == some quote && wider (backslashes (before ++ cs.take n)) with
    | none =>
      rw [List.find?_range_eq_none] at found ⊢
      intro n inside
      have := found n inside
      simp only [Bool.not_eq_true', Bool.and_eq_false_iff] at this ⊢
      exact this.imp_right fun other => Bool.eq_false_iff.2 (mt (weaker _) (by simp [other]))
    | some n =>
      have here := fits n found
      rw [List.find?_range_eq_some] at found ⊢
      obtain ⟨there, inside, none⟩ := found
      rw [Bool.and_eq_true] at there
      refine ⟨by rw [there.1, here]; rfl, inside, fun m earlier => ?_⟩
      have := none m earlier
      simp only [Bool.not_eq_true', Bool.and_eq_false_iff] at this ⊢
      exact this.imp_right fun other => Bool.eq_false_iff.2 (mt (weaker _) (by simp [other]))

/-! ## The search for a closing quote -/

/-- The search remembers the last character only. -/
theorem closingQuoteFrom_eq {previous : Char}
    (last : previous = '\\' ↔ backslashes before ≠ 0) :
    closingQuoteFrom quote previous cs = quoteBehind? (· == 0) quote before cs := by
  induction cs generalizing previous before with
  | nil => rfl
  | cons c cs ih =>
    have next : c = '\\' ↔ backslashes (before ++ [c]) ≠ 0 := by
      rw [backslashes_concat]
      by_cases escape : c = '\\' <;> simp [escape]
    have plain : previous ≠ '\\' ↔ (backslashes before == 0) = true := by
      rw [Ne, last, not_not, beq_iff_eq]
    rw [closingQuoteFrom, quoteBehind?_cons, ih next]
    simp only [plain]

/-- The search stops at the first quote that stands behind no backslash. -/
theorem closingQuote?_eq (kind : isQuote quote = true) (cs : List Char) :
    closingQuote? (quote :: cs) = (quoteBehind? (· == 0) quote [] cs).map (· + 1) := by
  have start : quote = '\\' ↔ backslashes [] ≠ 0 := by
    refine ⟨?_, fun some => absurd backslashes_nil some⟩
    rintro rfl
    cases kind
  rw [closingQuote?, if_pos kind, closingQuoteFrom_eq start]

end Docblock.Text

namespace Docblock.Filter

open Text

variable {quote : Char} {before cs : List Char}

/-! ## The reader of filter literals -/

theorem map_snd_bind (x : Option (List Char × List Char)) (f : List Char → List Char) :
    (x.bind fun (body, after) => some (f body, after)).map (·.2) = x.map (·.2) := by
  cases x <;> rfl

/-- Behind an even number of backslashes none of them takes the next character with it. -/
theorem stringBody?_map_snd (other : quote ≠ '\\') (even : backslashes before % 2 = 0) :
    (stringBody? quote cs).map (·.2) =
      (quoteBehind? (· % 2 == 0) quote before cs).map fun n => cs.drop (n + 1) := by
  fun_induction stringBody? quote cs generalizing before with
  | case1 => rfl
  | case2 =>
    rw [quoteBehind?_cons, if_pos ⟨rfl, by simp [even]⟩]
    rfl
  | case3 c ne =>
    rw [quoteBehind?_cons, if_neg fun same => ne same.1, quoteBehind?_nil]
    rfl
  | case4 d rest ih =>
    -- The backslash and what it takes with it are passed over together.
    have odd : ¬(backslashes (before ++ ['\\']) % 2 == 0) = true := by
      rw [backslashes_concat, if_pos rfl, beq_iff_eq]
      omega
    have again : backslashes (before ++ ['\\'] ++ [d]) % 2 = 0 := by
      rw [backslashes_concat, backslashes_concat, if_pos rfl]
      split <;> omega
    rw [quoteBehind?_cons, if_neg fun same => other same.1.symm, quoteBehind?_cons,
      if_neg fun same => odd same.2, Option.map_map, Option.map_map]
    exact (map_snd_bind _ _).trans (ih again)
  | case5 d rest ne =>
    rw [quoteBehind?_cons, if_pos ⟨rfl, by simp [even]⟩]
    rfl
  | case6 c d rest escape ne ih =>
    have again : backslashes (before ++ [c]) % 2 = 0 := by rw [backslashes_concat, if_neg escape]
    rw [quoteBehind?_cons, if_neg fun same => ne same.1, Option.map_map]
    exact (map_snd_bind _ _).trans (ih again)

/-- What the reader leaves of a text that begins with a quote. -/
theorem readString_eq (literal : List Char) (kind : isQuote quote = true) (cs : List Char) :
    (readString literal (quote :: cs)).toOption.map (·.2) =
      (stringEnd? quote cs).map fun n => cs.drop (n + 1) := by
  have other : quote ≠ '\\' := by
    rintro rfl
    cases kind
  have start : trimStart (quote :: cs) = quote :: cs := by
    rw [trimStart, List.dropWhile_cons_of_neg (by simp [isBlank_of_isQuote kind])]
  rw [stringEnd?, ← stringBody?_map_snd other rfl, readString, start]
  dsimp only
  cases stringBody? quote cs <;> rfl

end Docblock.Filter

namespace Docblock.Text

/-! ## The two places -/

/-- The search for a closing quote finds the end of the string just where that quote stands behind no
backslash. In any text it finds the first quote that stands behind none, while the reader of filter
literals leaves what follows the end of the string. -/
theorem closingQuote?_eq_stringEnd?_iff {text : List Char} {start : Nat} {quote : Char}
    (begins : text[start]? = some quote) (kind : isQuote quote = true) :
    (closingQuote? (text.drop start) = (stringEnd? quote (text.drop (start + 1))).map (· + 1) ↔
      ∀ n, stringEnd? quote (text.drop (start + 1)) = some n →
        backslashes ((text.drop (start + 1)).take n) = 0) ∧
    closingQuote? (text.drop start) =
      (quoteBehind? (· == 0) quote [] (text.drop (start + 1))).map (· + 1) ∧
    ∀ literal, (Filter.readString literal (text.drop start)).toOption.map (·.2) =
      (stringEnd? quote (text.drop (start + 1))).map fun n => text.drop (start + 1 + (n + 1)) := by
  obtain ⟨inside, rfl⟩ := List.getElem?_eq_some_iff.1 begins
  have whole : text.drop start = text[start] :: text.drop (start + 1) :=
    List.drop_eq_getElem_cons inside
  have found := closingQuote?_eq kind (text.drop (start + 1))
  rw [← whole] at found
  refine ⟨?_, found, fun literal => ?_⟩
  · have weaker : ∀ n : Nat, (n == 0) = true → (n % 2 == 0) = true := by
      intro n none
      rw [beq_iff_eq] at none
      rw [none]
      rfl
    rw [found, stringEnd?, Option.map_inj_right fun _ _ => Nat.succ.inj, quoteBehind?_eq_iff weaker]
    simp only [List.nil_append, beq_iff_eq]
  · rw [whole, Filter.readString_eq literal kind]
    simp only [List.drop_drop]

/-- A string that ends in two backslashes: the search runs on to the first quote of the next
string. -/
theorem closingQuote?_eq_stringEnd?_iff_backslashes :
    "x'\\\\'|'b'".toList[1]? = some '\'' ∧ isQuote '\'' = true ∧
    stringEnd? '\'' ("x'\\\\'|'b'".toList.drop 2) = some 2 ∧
    closingQuote? ("x'\\\\'|'b'".toList.drop 1) = some 5 ∧
    closingQuote? ("x'\\\\'|'b'".toList.drop 1) ≠
      (stringEnd? '\'' ("x'\\\\'|'b'".toList.drop 2)).map (· + 1) ∧
    ((Filter.readString [] ("x'\\\\'|'b'".toList.drop 1)).toOption.map (·.2) =
      some "|'b'".toList) := by
  have begins : "x'\\\\'|'b'".toList[1]? = some '\'' := by decide
  have kind : isQuote '\'' = true := rfl
  have place : stringEnd? '\'' ("x'\\\\'|'b'".toList.drop 2) = some 2 := by decide
  obtain ⟨same, search, reader⟩ := closingQuote?_eq_stringEnd?_iff begins kind
  refine ⟨begins, kind, place, ?_, ?_, ?_⟩
  · rw [search]
    decide
  · intro equal
    exact absurd (same.1 equal 2 place) (by decide)
  · rw [reader []]
    decide

end Docblock.Text
