import Docblock.Block.Line
import Docblock.Proofs.Block.Written
import Docblock.Proofs.Text.Trim

/-!
# Tags in the spelling that is kept

Writing every tag with the spelling that is kept changes words of small letters after an at sign and
nothing else (`renameTags_of_some`, `renameTags_of_none`). No character but such a letter is added
(`mem_of_mem_renameTags`), and comments end where they ended before (`ends_of_renameTags`). A text
is left as it is just when no at sign in it is followed by another spelling of a tag
(`renameTags_eq_self_iff`); what else stands there, quotes above all, is not looked at.

It is done before anything is read, on the whole text of the comment, and this file is about texts
only. A text that stands between characters which belong to no tag is renamed by itself
(`renameTags_between`), so what becomes of a type can be told from the type.

Which spellings there are plays a part in one place: none that is kept is another spelling of
something else, so renaming twice would change nothing more.
-/

namespace Docblock

open Text

/-- The spelling that is kept of the tag whose word comes after a character. -/
def renamed? (c : Char) (rest : List Char) : Option String :=
  if c = '@' then tagSynonyms.lookup (String.ofList (rest.takeWhile Char.isLower)) else none

variable {c d : Char} {cs rest : List Char} {tag : String}

/-- A word that was renamed is passed over. -/
theorem renameTags_skip (skip : Nat) (cs : List Char) :
    renameTags skip cs = renameTags 0 (cs.drop skip) := by
  induction skip generalizing cs with
  | zero => rfl
  | succ skip ih =>
    cases cs with
    | nil => rfl
    | cons c cs => exact ih cs

theorem renameTags_of_some (h : renamed? c rest = some tag) :
    renameTags 0 (c :: rest) = c :: tag.toList ++ renameTags 0 (rest.dropWhile Char.isLower) := by
  unfold renamed? at h
  rw [renameTags, h]
  dsimp only
  rw [renameTags_skip, Comment.drop_length_takeWhile]

theorem renameTags_of_none (h : renamed? c rest = none) :
    renameTags 0 (c :: rest) = c :: renameTags 0 rest := by
  unfold renamed? at h
  rw [renameTags, h]

theorem renamed?_of_ne (hc : c ≠ '@') (rest : List Char) : renamed? c rest = none := if_neg hc

/-- Only tags are renamed, and to words of small letters. -/
theorem isLower_of_renamed? (h : renamed? c rest = some tag) :
    c = '@' ∧ ∀ d ∈ tag.toList, d.isLower = true := by
  have words : ∀ synonym ∈ tagSynonyms, ∀ d ∈ synonym.2.toList, d.isLower = true := by
    simp [tagSynonyms]
  unfold renamed? at h
  split at h
  · rename_i at_sign
    obtain ⟨before, after, split, -⟩ := List.lookup_eq_some_iff.1 h
    refine ⟨at_sign, words (String.ofList (rest.takeWhile Char.isLower), tag) ?_⟩
    rw [split]
    simp
  · cases h

/-- No character but a small letter is added. -/
theorem mem_of_mem_renameTags (h : d ∈ renameTags 0 cs) : d ∈ cs ∨ d.isLower = true := by
  induction hn : cs.length using Nat.strongRecOn generalizing cs with
  | _ n ih =>
    subst hn
    cases cs with
    | nil => cases h
    | cons c cs =>
      cases changed : renamed? c cs with
      | none =>
        rw [renameTags_of_none changed] at h
        rcases List.mem_cons.1 h with rfl | h
        · exact .inl List.mem_cons_self
        · exact (ih _ (Nat.lt_succ_self _) h rfl).imp_left (List.mem_cons_of_mem c)
      | some tag =>
        rw [renameTags_of_some changed, List.mem_append] at h
        have left := cs.dropWhile_suffix Char.isLower
        rcases h with h | h
        · rcases List.mem_cons.1 h with rfl | h
          · exact .inl List.mem_cons_self
          · exact .inr ((isLower_of_renamed? changed).2 d h)
        · exact (ih _ (Nat.lt_succ_of_le left.length_le) h rfl).imp_left
            fun inside => List.mem_cons_of_mem c (left.subset inside)

/-- The first character is kept, and what comes after a slash is renamed by itself. -/
theorem exists_of_renameTags_slash {after : List Char} (h : renameTags 0 cs = '/' :: after) :
    ∃ rest, cs = '/' :: rest ∧ after = renameTags 0 rest := by
  cases cs with
  | nil => cases h
  | cons c rest =>
    cases changed : renamed? c rest with
    | none =>
      rw [renameTags_of_none changed] at h
      obtain ⟨rfl, same⟩ := List.cons.inj h
      exact ⟨rest, rfl, same.symm⟩
    | some tag =>
      -- A tag begins with an at sign.
      rw [renameTags_of_some changed] at h
      obtain ⟨rfl, -⟩ := List.cons.inj h
      cases (isLower_of_renamed? changed).1

/-- Where a comment ends, it ended before the tags were renamed, and the rest was renamed alike. -/
theorem ends_of_renameTags {before after : List Char}
    (h : renameTags 0 cs = before ++ '*' :: '/' :: after) :
    ∃ before' after', cs = before' ++ '*' :: '/' :: after' ∧ after = renameTags 0 after' := by
  induction hn : cs.length using Nat.strongRecOn generalizing cs before with
  | _ n ih =>
    subst hn
    cases cs with
    | nil => cases before <;> cases h
    | cons c cs =>
      cases changed : renamed? c cs with
      | none =>
        rw [renameTags_of_none changed] at h
        cases before with
        | cons d before =>
          obtain ⟨-, h⟩ := List.cons.inj h
          obtain ⟨before', after', rfl, same⟩ := ih _ (Nat.lt_succ_self _) h rfl
          exact ⟨c :: before', after', rfl, same⟩
        | nil =>
          obtain ⟨rfl, slash⟩ := List.cons.inj h
          obtain ⟨rest, rfl, same⟩ := exists_of_renameTags_slash slash
          exact ⟨[], rest, rfl, same⟩
      | some tag =>
        obtain ⟨rfl, letters⟩ := isLower_of_renamed? changed
        have word : '*' ∉ '@' :: tag.toList := by
          intro hm
          rcases List.mem_cons.1 hm with same | hm
          · cases same
          · cases letters '*' hm
        rw [renameTags_of_some changed] at h
        obtain ⟨more, -, h⟩ := Comment.exists_start_of_append_eq word h
        have left := cs.dropWhile_suffix Char.isLower
        obtain ⟨before', after', split, same⟩ := ih _ (Nat.lt_succ_of_le left.length_le) h rfl
        refine ⟨'@' :: cs.takeWhile Char.isLower ++ before', after', ?_, same⟩
        rw [List.append_assoc, ← split, List.cons_append, List.takeWhile_append_dropWhile]

/-! ## Parts of a text -/

/-- What comes after a character that belongs to no word is renamed by itself. -/
theorem renameTags_append (hc : c.isLower = false) (cs rest : List Char) :
    renameTags 0 (cs ++ c :: rest) = renameTags 0 cs ++ renameTags 0 (c :: rest) := by
  induction hn : cs.length using Nat.strongRecOn generalizing cs with
  | _ n ih =>
    subst hn
    cases cs with
    | nil => rfl
    | cons d cs =>
      have word : renamed? d (cs ++ c :: rest) = renamed? d cs := by
        unfold renamed?
        rw [takeWhile_append_cons hc]
      rw [List.cons_append]
      cases changed : renamed? d cs with
      | none =>
        rw [renameTags_of_none (word.trans changed), renameTags_of_none changed,
          ih _ (Nat.lt_succ_self _) cs rfl]
        rfl
      | some tag =>
        have left := (cs.dropWhile_suffix Char.isLower).length_le
        rw [renameTags_of_some (word.trans changed), renameTags_of_some changed,
          dropWhile_append_cons hc, ih _ (Nat.lt_succ_of_le left) _ rfl, List.append_assoc]

/-- A text between characters that belong to no tag is renamed by itself. -/
theorem renameTags_between (start text rest : List Char) (hc : c.isLower = false) (sign : c ≠ '@')
    (hd : d.isLower = false) :
    renameTags 0 (start ++ c :: (text ++ d :: rest)) =
      renameTags 0 start ++ c :: (renameTags 0 text ++ renameTags 0 (d :: rest)) := by
  rw [renameTags_append hc, renameTags_of_none (renamed?_of_ne sign _), renameTags_append hd]

theorem head?_renameTags (cs : List Char) : (renameTags 0 cs).head? = cs.head? := by
  cases cs with
  | nil => rfl
  | cons c cs =>
    cases changed : renamed? c cs with
    | none =>
      rw [renameTags_of_none changed]
      rfl
    | some tag =>
      rw [renameTags_of_some changed]
      rfl

/-! ## Texts that are left as they are -/

/-- No spelling that is kept stands for another one. -/
theorem ne_of_renamed? (h : renamed? c rest = some tag) :
    tag.toList ≠ rest.takeWhile Char.isLower := by
  have other : ∀ synonym ∈ tagSynonyms, synonym.2 ≠ synonym.1 := by decide
  unfold renamed? at h
  split at h
  · obtain ⟨before, after, split, -⟩ := List.lookup_eq_some_iff.1 h
    have ne := other (String.ofList (rest.takeWhile Char.isLower), tag) (by rw [split]; simp)
    rwa [Ne, String.ext_iff, String.toList_ofList] at ne
  · cases h

/-- A tag in another spelling is changed. -/
theorem renameTags_ne_self (h : renamed? c rest = some tag) :
    renameTags 0 (c :: rest) ≠ c :: rest := by
  intro same
  rw [renameTags_of_some h, List.cons_append] at same
  obtain ⟨-, same⟩ := List.cons.inj same
  have letters := (isLower_of_renamed? h).2
  -- What is left after the word begins with no small letter, before and after it is renamed.
  have ends : (renameTags 0 (rest.dropWhile Char.isLower)).takeWhile Char.isLower = [] := by
    have stop := List.head?_dropWhile_not Char.isLower rest
    rw [← head?_renameTags] at stop
    cases left : renameTags 0 (rest.dropWhile Char.isLower) with
    | nil => rfl
    | cons d more =>
      rw [left] at stop
      exact List.takeWhile_cons_of_neg (by simpa using stop)
  refine ne_of_renamed? h ?_
  calc tag.toList
      = (tag.toList ++ renameTags 0 (rest.dropWhile Char.isLower)).takeWhile Char.isLower := by
        rw [List.takeWhile_append_of_pos letters, ends, List.append_nil]
    _ = rest.takeWhile Char.isLower := by rw [same]

/-- A text is left as it is just when no at sign in it begins another spelling of a tag. -/
theorem renameTags_eq_self_iff :
    renameTags 0 cs = cs ↔
      ∀ before rest, cs = before ++ '@' :: rest → renamed? '@' rest = none := by
  induction cs with
  | nil => simp [renameTags]
  | cons c cs ih =>
    cases changed : renamed? c cs with
    | none =>
      rw [renameTags_of_none changed, List.cons.injEq, ih]
      constructor
      · rintro ⟨-, free⟩ before rest split
        cases before with
        | nil =>
          obtain ⟨rfl, rfl⟩ := List.cons.inj split
          exact changed
        | cons d before => exact free before rest (List.cons.inj split).2
      · intro free
        exact ⟨rfl, fun before rest split => free (c :: before) rest (by rw [split]; rfl)⟩
    | some tag =>
      obtain ⟨rfl, -⟩ := isLower_of_renamed? changed
      refine iff_of_false (renameTags_ne_self changed) fun free => ?_
      rw [free [] cs rfl] at changed
      cases changed

end Docblock
