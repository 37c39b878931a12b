import Docblock.Check.Demand
import Docblock.Proofs.Block.Filtered

/-!
# Places of parameters

Tags that are read together are numbered in order, and only members of one owner in a row share a
place (`Tag.place_of_mem_number`). So the parameters at a place all declare the same key
(`Block.declaredKey_eq_of_place_eq`), the name of the one or the owner of them all.

The converse is not true. One owner can have two places, when its members do not all stand together,
and two parameters of one name have a place each. Arguments are read by place, so both of them are
read.

The numbering begins with a place and an owner that comes before it. The invariant is that whoever
goes on with an owner goes on at the place in front of the next free one, which is there because a
place was given out before (`started`).
-/

namespace Docblock

namespace Tag

theorem declaredKey_eq_owner {tag : Tag} (h : tag.owner ≠ "") : tag.declaredKey = tag.owner := by
  unfold owner at h ⊢
  unfold declaredKey
  cases dotted : tag.member with
  | none => simp [dotted] at h
  | some parts => rfl

variable {tags : List Tag} {tag : Tag} {next : Nat} {previous : String}

/-- The first tag takes the next place, or the one before when it goes on with the members of its
owner. The others are numbered from the place after it. -/
theorem number_cons (first : Tag) (rest : List Tag) (started : previous ≠ "" → 0 < next) :
    ∃ place, number next previous (first :: rest) =
        { first with place } :: number (place + 1) first.owner rest ∧
      (place = next ∨ place + 1 = next ∧ first.owner = previous ∧ previous ≠ "") := by
  rw [number]
  split
  · exact ⟨next, rfl, .inl rfl⟩
  · rename_i goes_on
    obtain ⟨owned, same⟩ := not_or.1 goes_on
    have owner : first.owner = previous := Decidable.not_not.1 same
    have begun : next - 1 + 1 = next := Nat.succ_pred_eq_of_pos (started (owner ▸ owned))
    exact ⟨next - 1, by rw [begun], .inr ⟨begun, owner, owner ▸ owned⟩⟩

/-- A tag has a place that was free, or it goes on with the members of the owner before. -/
theorem place_of_mem_number (started : previous ≠ "" → 0 < next)
    (h : tag ∈ number next previous tags) :
    next ≤ tag.place ∨ tag.place + 1 = next ∧ tag.owner = previous ∧ previous ≠ "" := by
  induction tags generalizing next previous with
  | nil => cases h
  | cons first rest ih =>
    obtain ⟨place, numbered, taken⟩ := number_cons first rest started
    rw [numbered] at h
    rcases List.mem_cons.1 h with rfl | h
    · exact taken.imp_left fun free => Nat.le_of_eq free.symm
    · rcases ih (fun _ => Nat.succ_pos place) h with free | ⟨shared, owner, owned⟩
      · exact .inl (by omega)
      · rcases taken with free | ⟨before, same, named⟩
        · exact .inl (by omega)
        · exact .inr ⟨by omega, owner.trans same, named⟩

/-- Two tags at one place are the same, or those of members of one owner. -/
theorem eq_or_owner_eq_of_mem_number {other : Tag} (started : previous ≠ "" → 0 < next)
    (h : tag ∈ number next previous tags) (ho : other ∈ number next previous tags)
    (same : tag.place = other.place) :
    tag = other ∨ tag.owner = other.owner ∧ other.owner ≠ "" := by
  induction tags generalizing next previous with
  | nil => cases h
  | cons first rest ih =>
    obtain ⟨place, numbered, -⟩ := number_cons first rest started
    have begun : first.owner ≠ "" → 0 < place + 1 := fun _ => Nat.succ_pos place
    -- A later tag at the place of the first is a member of the same owner.
    have shared : ∀ later ∈ number (place + 1) first.owner rest, later.place = place →
        later.owner = first.owner ∧ first.owner ≠ "" := by
      intro later hl at_place
      rcases place_of_mem_number begun hl with free | ⟨-, owner, owned⟩
      · omega
      · exact ⟨owner, owned⟩
    rw [numbered] at h ho
    rcases List.mem_cons.1 h with rfl | h <;> rcases List.mem_cons.1 ho with rfl | ho
    · exact .inl rfl
    · obtain ⟨owner, owned⟩ := shared other ho same.symm
      exact .inr ⟨owner.symm, owner ▸ owned⟩
    · exact .inr (shared tag h same)
    · exact ih begun h ho

/-- Tags at one place declare one key. -/
theorem declaredKey_eq_of_mem_number {other : Tag} (started : previous ≠ "" → 0 < next)
    (h : tag ∈ number next previous tags) (ho : other ∈ number next previous tags)
    (same : tag.place = other.place) : tag.declaredKey = other.declaredKey := by
  rcases eq_or_owner_eq_of_mem_number started h ho same with rfl | ⟨owner, owned⟩
  · rfl
  · rw [declaredKey_eq_owner (owner ▸ owned), declaredKey_eq_owner owned, owner]

theorem declaredKey_eq_of_allOf {kind : TagKind} {lines : List (List Char)}
    {tag other : Tag} (read : allOf kind lines = .ok tags) (h : tag ∈ tags) (ho : other ∈ tags)
    (same : tag.place = other.place) : tag.declaredKey = other.declaredKey := by
  obtain ⟨texts, -, numbered⟩ := bind_eq_ok.1 read
  rw [pure_eq_ok] at numbered
  subst numbered
  exact declaredKey_eq_of_mem_number (fun named => absurd rfl named) h ho same

end Tag

/-- The parameters of a block are all that are written in it, or it uses none. -/
theorem Elements.param_of_ofLines {lines : List (List Char)} {elements : Elements}
    (h : ofLines lines = .ok elements) :
    elements.param = [] ∨ Tag.allOf .param lines = .ok elements.param := by
  have slot := (slot_of_ofLines h .param).2 (by decide)
  split at slot
  · exact .inr slot
  · exact .inl (Except.ok.inj slot).symm

/-- The trimmed lines of a comment, without its marks and with the spellings of tags that are kept. -/
def Comment.lines (comment : Comment) : List (List Char) :=
  linesOf (removeMarks (renameTags 0 comment.text.toList))

theorem Block.param_of_ofComment {file : String} {comment : Comment} {block : Block}
    (made : ofComment file comment = .ok block) :
    block.elements.param = [] ∨ Tag.allOf .param comment.lines = .ok block.elements.param := by
  unfold ofComment at made
  split at made
  · rename_i elements lines
    cases made
    exact Elements.param_of_ofLines lines
  · cases made

/-- Parameters of one place declare one key. -/
theorem Block.declaredKey_eq_of_place_eq {file code : String} {blocks : List Block}
    (parsed : ofSource file code = .ok blocks) {block : Block} (mem : block ∈ blocks)
    {tag other : Tag} (h : tag ∈ block.elements.param) (ho : other ∈ block.elements.param)
    (same : tag.place = other.place) : tag.declaredKey = other.declaredKey := by
  obtain ⟨comment, -, made⟩ := exists_of_mem_mapM parsed mem
  rcases param_of_ofComment made with none | all
  · rw [none] at h
    cases h
  · exact Tag.declaredKey_eq_of_allOf all h ho same

end Docblock
