import Docblock.Proofs.Block.Naming
import Docblock.Proofs.Schema.Reading
import Mathlib

/-!
# Arguments that their members stand for

A tag that declares an argument is left out when a tag of a member of it comes after it, before a
tag of any other member and before another tag of its name (`dropOwners_eq`). Tags of other
arguments may stand in between, and then an argument is missing, so that all later ones are counted
one place too low. The tags that are left out are just those with a member of theirs right after
them where no members stand apart from their argument (`allOf_iff_contiguous`).

The definition goes through the tags from the last to the first and remembers one owner. That is
said here from the front, for a tag and those behind it (`isReplaced`), which is what a reader of
the comment sees. The rule that was meant is the narrower one (`isOpened`). More tags are left out
by the wider rule, so the two agree as soon as they leave as many, and lengths are enough to compare
them.

Tags without a name are excluded, since an empty name would be the owner of nothing. The places that
are given out afterwards are not looked at here.
-/

namespace Docblock.Tag

/-- Whether a tag is that of a member of the argument with this name. -/
def isMemberOf (name : String) (tag : Tag) : Bool := tag.member.any (·.1 == name)

/-- Whether a tag declares an argument, and the next tag is that of a member of it. -/
def isOpened (tag : Tag) (rest : List Tag) : Bool :=
  tag.member.isNone && rest.head?.any (isMemberOf tag.name)

/-- The first tag that is that of a member, of any argument, or that has this name. -/
def nextNamed? (name : String) (tags : List Tag) : Option Tag :=
  tags.find? fun next => next.member.isSome || next.name == name

/-- Whether a tag declares an argument, and a tag of a member of it comes before a tag of any other
member and another tag of its name. -/
def isReplaced (tag : Tag) (rest : List Tag) : Bool :=
  tag.member.isNone && (nextNamed? tag.name rest).any (isMemberOf tag.name)

/-- Leave out the tags that have a property together with those after them. -/
def leaveOut (p : Tag → List Tag → Bool) : List Tag → List Tag
  | [] => []
  | tag :: rest => if p tag rest then leaveOut p rest else tag :: leaveOut p rest

/-- Where a tag of a member comes after an argument, only tags of other arguments between them, none
is between them. -/
def Contiguous (tags : List Tag) : Prop :=
  ∀ tag between first rest, tag :: (between ++ first :: rest) <:+ tags → tag.member = none →
    first.isMemberOf tag.name = true → (∀ other ∈ between, other.member = none ∧ other.name ≠ tag.name) →
    between = []

variable {tag : Tag} {name : String} {rest tags : List Tag}

/-! ## Which tags are left out -/

theorem isMemberOf_iff : tag.isMemberOf name = true ↔ ∃ member, tag.member = some (name, member) := by
  unfold isMemberOf
  cases tag.member with
  | none => simp
  | some parts =>
    obtain ⟨owner, member⟩ := parts
    simp only [Option.any_some, beq_iff_eq, Option.some.injEq, Prod.mk.injEq]
    constructor
    · rintro rfl
      exact ⟨member, rfl, rfl⟩
    · rintro ⟨-, same, -⟩
      exact same

/-- The owner that is waited for is the one whose member comes first. -/
theorem foldr_keep_fst (name : String) (tags : List Tag) :
    (tags.foldr keep (none, [])).1 = some name ↔
      (nextNamed? name tags).any (isMemberOf name) = true := by
  induction tags with
  | nil => simp [nextNamed?]
  | cons tag rest ih =>
    rw [List.foldr_cons, keep, nextNamed?, List.find?_cons]
    cases dotted : tag.member with
    | some parts =>
      obtain ⟨owner, member⟩ := parts
      simp [isMemberOf, dotted]
    | none =>
      by_cases same : tag.name = name
      · -- Another tag of the name ends the search without a member.
        subst same
        have found : (tag.isMemberOf tag.name) = false := by simp [isMemberOf, dotted]
        simp only [Option.isSome_none, beq_self_eq_true, Bool.or_true, Option.any_some, found]
        split
        · simp
        · rename_i other
          simpa using other
      · have passed : (tag.name == name) = false := beq_eq_false_iff_ne.2 same
        simp only [Option.isSome_none, passed, Bool.or_false]
        rw [← nextNamed?, ← ih]
        split
        · rename_i pending
          simp [pending, same]
        · rfl

/-- Left out are the arguments that tags of their members replace. -/
theorem dropOwners_eq (tags : List Tag) : dropOwners tags = leaveOut isReplaced tags := by
  unfold dropOwners
  induction tags with
  | nil => rfl
  | cons tag rest ih =>
    rw [List.foldr_cons, keep, leaveOut, isReplaced]
    have waits := foldr_keep_fst tag.name rest
    cases dotted : tag.member with
    | some parts => simp [ih]
    | none =>
      simp only [Option.isNone_none, Bool.true_and, ← waits]
      split
      · exact ih
      · rw [ih]

section

variable {p q : Tag → List Tag → Bool}

/-- More tags are left out by a property that more of them have. -/
theorem length_leaveOut_anti (le : ∀ tag rest, p tag rest = true → q tag rest = true)
    (tags : List Tag) : (leaveOut q tags).length ≤ (leaveOut p tags).length := by
  induction tags with
  | nil => exact Nat.le_refl _
  | cons tag rest ih =>
    rw [leaveOut, leaveOut]
    by_cases hp : p tag rest = true
    · rw [if_pos hp, if_pos (le tag rest hp)]
      exact ih
    · rw [if_neg hp]
      split
      · exact Nat.le_succ_of_le ih
      · exact Nat.succ_le_succ ih

/-- By two properties of which one follows from the other as many tags are left out only if they are
the same on these tags. -/
theorem length_leaveOut_eq_iff (le : ∀ tag rest, p tag rest = true → q tag rest = true)
    (tags : List Tag) : (leaveOut q tags).length = (leaveOut p tags).length ↔
      ∀ tag rest, tag :: rest <:+ tags → q tag rest = true → p tag rest = true := by
  induction tags with
  | nil => simp [leaveOut]
  | cons first others ih =>
    have fewer := length_leaveOut_anti le others
    have here : (leaveOut q (first :: others)).length = (leaveOut p (first :: others)).length ↔
        (q first others = true → p first others = true) ∧
          (leaveOut q others).length = (leaveOut p others).length := by
      rw [leaveOut, leaveOut]
      by_cases hp : p first others = true
      · simp [hp, le first others hp]
      · by_cases hq : q first others = true
        · rw [if_pos hq, if_neg hp, List.length_cons]
          constructor
          · intro same
            omega
          · intro same
            exact absurd (same.1 hq) hp
        · simp [hp, hq]
    rw [here, ih]
    constructor
    · rintro ⟨top, below⟩ tag rest hs hq
      rcases List.suffix_cons_iff.1 hs with same | hs
      · cases same
        exact top hq
      · exact below tag rest hs hq
    · intro all
      exact ⟨all first others List.suffix_rfl,
        fun tag rest hs => all tag rest (hs.trans (List.suffix_cons first others))⟩

theorem leaveOut_congr (same : ∀ tag rest, tag :: rest <:+ tags → p tag rest = q tag rest) :
    leaveOut p tags = leaveOut q tags := by
  induction tags with
  | nil => rfl
  | cons first others ih =>
    have below := ih fun tag rest hs => same tag rest (hs.trans (List.suffix_cons first others))
    rw [leaveOut, leaveOut, same first others List.suffix_rfl, below]

end

/-! ## Members apart from their argument -/

theorem isReplaced_of_isOpened (h : tag.isOpened rest = true) : tag.isReplaced rest = true := by
  unfold isOpened at h
  unfold isReplaced
  obtain ⟨plain, next⟩ := Bool.and_eq_true_iff.1 h
  rw [plain, Bool.true_and]
  cases rest with
  | nil => cases next
  | cons first rest =>
    have first_of : first.isMemberOf tag.name = true := next
    obtain ⟨member, dotted⟩ := isMemberOf_iff.1 first_of
    simp [nextNamed?, dotted, first_of]

/-- An argument is replaced where a tag of a member of it comes after other arguments at most. -/
theorem isReplaced_iff : tag.isReplaced rest = true ↔ tag.member = none ∧
    ∃ between first after, rest = between ++ first :: after ∧ first.isMemberOf tag.name = true ∧
      ∀ other ∈ between, other.member = none ∧ other.name ≠ tag.name := by
  unfold isReplaced nextNamed?
  rw [Bool.and_eq_true, Option.isNone_iff_eq_none, Option.any_eq_true]
  refine and_congr_right fun _ => ?_
  have passed : ∀ other : Tag, (!(other.member.isSome || other.name == tag.name)) = true ↔
      other.member = none ∧ other.name ≠ tag.name := by
    intro other
    simp
  constructor
  · rintro ⟨first, found, member⟩
    obtain ⟨-, between, after, split, others⟩ := List.find?_eq_some_iff_append.1 found
    exact ⟨between, first, after, split, member, fun other hm => (passed other).1 (others other hm)⟩
  · rintro ⟨between, first, after, split, member, others⟩
    refine ⟨first, List.find?_eq_some_iff_append.2 ⟨?_, between, after, split, ?_⟩, member⟩
    · obtain ⟨key, dotted⟩ := isMemberOf_iff.1 member
      simp [dotted]
    · intro other hm
      exact (passed other).2 (others other hm)

/-- Replaced arguments are those that are opened just where no members stand apart. -/
theorem contiguous_iff : Contiguous tags ↔
    ∀ tag rest, tag :: rest <:+ tags → tag.isReplaced rest = true → tag.isOpened rest = true := by
  constructor
  · intro contiguous tag rest hs replaced
    obtain ⟨plain, between, first, after, rfl, member, others⟩ := isReplaced_iff.1 replaced
    obtain rfl := contiguous tag between first after hs plain member others
    simp [isOpened, plain, member]
  · intro all tag between first rest hs plain member others
    have replaced : tag.isReplaced (between ++ first :: rest) = true :=
      isReplaced_iff.2 ⟨plain, between, first, rest, rfl, member, others⟩
    have opened := all tag _ hs replaced
    cases between with
    | nil => rfl
    | cons other between =>
      -- The next tag would be that of a member, but it is that of another argument.
      obtain ⟨-, next⟩ := Bool.and_eq_true_iff.1 opened
      have first_of : other.isMemberOf tag.name = true := next
      obtain ⟨key, dotted⟩ := isMemberOf_iff.1 first_of
      cases (others other List.mem_cons_self).1.symm.trans dotted

theorem length_number (next : Nat) (previous : String) (tags : List Tag) :
    (number next previous tags).length = tags.length := by
  induction tags generalizing next previous with
  | nil => rfl
  | cons tag rest ih =>
    rw [number]
    split <;> rw [List.length_cons, List.length_cons, ih]

/-- Of the occurrences of a tag, all with names, the arguments are left out that a tag of a member of
theirs follows, before any other member and another argument of the name. Just where no members stand
apart from their argument, these are the arguments with such a tag right after them, and all other
tags are kept and counted. -/
theorem allOf_iff_contiguous {kind : TagKind} {lines : List (List Char)} {tags : List Tag}
    (read : (tagOccurrences kind.name.toList lines).mapM (ofText kind) = .ok tags)
    (named : ∀ tag ∈ tags, tag.name ≠ "") :
    allOf kind lines = .ok (number 0 "" (leaveOut isReplaced tags)) ∧
      (allOf kind lines = .ok (number 0 "" (leaveOut isOpened tags)) ↔ Contiguous tags) := by
  have all_named : tags.filter (·.name ≠ "") = tags := by
    rw [List.filter_eq_self]
    intro tag hm
    simpa using named tag hm
  have all : allOf kind lines = .ok (number 0 "" (leaveOut isReplaced tags)) := by
    unfold allOf
    rw [read, ← dropOwners_eq]
    show Except.ok (number 0 "" (dropOwners (tags.filter (·.name ≠ "")))) = _
    rw [all_named]
  refine ⟨all, ?_⟩
  have apart := length_leaveOut_eq_iff (p := isOpened) (q := isReplaced)
    (fun _ _ => isReplaced_of_isOpened) tags
  rw [all, contiguous_iff, ← apart]
  constructor
  · intro same
    have lengths := congrArg List.length (Except.ok.inj same)
    rwa [length_number, length_number] at lengths
  · intro same
    have opened : leaveOut isReplaced tags = leaveOut isOpened tags :=
      leaveOut_congr fun tag rest hs =>
        Bool.eq_iff_iff.2 ⟨apart.1 same tag rest hs, isReplaced_of_isOpened⟩
    rw [opened]

/-! ### Another argument in between -/

/-- The tag of an argument of any type that says no more than its name. -/
def argument (name : String) (member : Option (String × String)) (place : Nat) : Tag :=
  ⟨.param, "", [.any "*"], name, "", [], false, none, member, place⟩

theorem read_untyped : TypeExpr.read [] = .ok [.any "*"] := TypeExpr.read_of_shorthand (by cbv)

theorem ofText_owner : ofText .param "@param o".toList = .ok (argument "o" none 0) :=
  ofText_plain rfl nofun (by cbv) (by cbv) (by cbv) (by cbv) read_untyped (by cbv) (by cbv)

theorem ofText_other : ofText .param "@param x".toList = .ok (argument "x" none 0) :=
  ofText_plain rfl nofun (by cbv) (by cbv) (by cbv) (by cbv) read_untyped (by cbv) (by cbv)

theorem ofText_member :
    ofText .param "@param o.p".toList = .ok (argument "o.p" (some ("o", "p")) 0) := by
  rw [ofText_named rfl (by decide) (show _ = ([], "o.p".toList) by cbv)
    (show _ = ("o.p".toList, []) by cbv) read_untyped (show _ = Except.ok ("", []) by cbv)]
  cbv

/-- The argument between an object and a member of it is counted as the first one. -/
theorem allOf_iff_contiguous_between :
    allOf .param ["@param o".toList, "@param x".toList, "@param o.p".toList] =
        .ok [argument "x" none 0, argument "o.p" (some ("o", "p")) 1] ∧
      ¬ Contiguous [argument "o" none 0, argument "x" none 0,
        argument "o.p" (some ("o", "p")) 0] := by
  have read : (tagOccurrences "param".toList
      ["@param o".toList, "@param x".toList, "@param o.p".toList]).mapM (ofText .param) =
      .ok [argument "o" none 0, argument "x" none 0, argument "o.p" (some ("o", "p")) 0] := by
    rw [show tagOccurrences "param".toList _ =
      ["@param o".toList, "@param x".toList, "@param o.p".toList] by cbv]
    simp only [List.mapM_cons, List.mapM_nil, ofText_owner, ofText_other, ofText_member]
    rfl
  obtain ⟨all, kept⟩ := @allOf_iff_contiguous .param _ _ read (by decide)
  refine ⟨all.trans (by rfl), fun contiguous => ?_⟩
  have other := all.symm.trans (kept.2 contiguous)
  have lengths := congrArg List.length (Except.ok.inj other)
  revert lengths
  decide

end Docblock.Tag
