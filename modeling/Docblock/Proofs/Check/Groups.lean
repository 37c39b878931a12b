import Docblock.Proofs.Block.Owners
import Docblock.Proofs.Check.Arguments
import Docblock.Proofs.Check.Use

/-!
# Parameters in groups

A parameter is declared by one tag, or by one tag and the tags of its members right after it. Of
such groups with different names those tags are kept that stand for the parameter: the tags of its
members, or its own where it has none (`leaveOut_groups`). Each of them gets the place of its group
(`number_groups`), and so it is checked against the argument that its group declares
(`allOf_groups`).

Groups are how such tags are usually written, and for them the rule about owners is simple: only the
first tag of a group can be left out, and the second tag tells. Members that stand apart from their
parameter, and two parameters of one name, make no groups. What is kept of those is said where the
rule is opened up.

The argument is found by place. That the place of a group is its number in the list is what the
numbering has to be followed for, as it only compares each tag with the one in front of it.
-/

namespace Docblock

/-- A parameter as it is declared: its own tag, and the tags of its members right after it. -/
structure ParamGroup where
  head : Tag
  members : List Tag
  plain : head.member = none
  owned : ∀ tag ∈ members, tag.isMemberOf head.name = true

namespace ParamGroup

/-- The tags of a group in order. -/
def tags (group : ParamGroup) : List Tag := group.head :: group.members

/-- The tags that stand for the parameter: those of its members, or its own if there are none. -/
def kept (group : ParamGroup) : List Tag :=
  if group.members.isEmpty then [group.head] else group.members

/-- The tags that stand for parameters, each with the place of its parameter. -/
def placed (groups : List ParamGroup) : List Tag :=
  groups.zipIdx.flatMap fun (group, place) => group.kept.map fun tag => { tag with place }

variable {group other : ParamGroup} {groups : List ParamGroup} {tag : Tag}

/-- No tag of a group is that of a member of a parameter with another name. -/
theorem isMemberOf_eq_false (mem : tag ∈ other.tags) (ne : group.head.name ≠ other.head.name) :
    tag.isMemberOf group.head.name = false := by
  apply Bool.eq_false_iff.2
  intro owned
  obtain ⟨member, dotted⟩ := Tag.isMemberOf_iff.1 owned
  rcases List.mem_cons.1 mem with rfl | mem
  · cases other.plain.symm.trans dotted
  · obtain ⟨member', dotted'⟩ := Tag.isMemberOf_iff.1 (other.owned tag mem)
    have same := dotted.symm.trans dotted'
    simp only [Option.some.injEq, Prod.mk.injEq] at same
    exact ne same.1

/-- No later tag is that of a member of a parameter whose name is not used again. -/
theorem isMemberOf_eq_false_of_not_mem (fresh : group.head.name ∉ groups.map (·.head.name)) :
    ∀ tag ∈ groups.flatMap ParamGroup.tags, tag.isMemberOf group.head.name = false := by
  intro tag mem
  obtain ⟨other, listed, mem⟩ := List.mem_flatMap.1 mem
  apply isMemberOf_eq_false mem
  intro same
  exact fresh (same ▸ List.mem_map_of_mem listed)

end ParamGroup

namespace Tag

variable {tag head : Tag} {name : String} {members later : List Tag} {groups : List ParamGroup}

/-! ## Which tags are kept -/

theorem owner_of_isMemberOf (h : tag.isMemberOf name = true) : tag.owner = name := by
  obtain ⟨member, dotted⟩ := isMemberOf_iff.1 h
  simp [owner, dotted]

theorem owner_of_plain (plain : tag.member = none) : tag.owner = "" := by
  simp [owner, plain]

theorem not_isReplaced_of_isMemberOf (h : tag.isMemberOf name = true) (rest : List Tag) :
    tag.isReplaced rest = false := by
  obtain ⟨member, dotted⟩ := isMemberOf_iff.1 h
  simp [isReplaced, dotted]

/-- Tags of members are all kept. -/
theorem leaveOut_append (owned : ∀ tag ∈ members, tag.isMemberOf name = true) (later : List Tag) :
    leaveOut isReplaced (members ++ later) = members ++ leaveOut isReplaced later := by
  induction members with
  | nil => rfl
  | cons first rest ih =>
    obtain ⟨here, after⟩ := List.forall_mem_cons.1 owned
    rw [List.cons_append, leaveOut, not_isReplaced_of_isMemberOf here, ih after]
    rfl

/-- A parameter that no later tag is a member of is replaced just by the members right after it. -/
theorem isReplaced_append (plain : head.member = none)
    (owned : ∀ tag ∈ members, tag.isMemberOf head.name = true)
    (foreign : ∀ tag ∈ later, tag.isMemberOf head.name = false) :
    head.isReplaced (members ++ later) = !members.isEmpty := by
  cases members with
  | cons first rest =>
    apply isReplaced_of_isOpened
    simp [isOpened, plain, owned first List.mem_cons_self]
  | nil =>
    apply Bool.eq_false_iff.2
    intro replaced
    obtain ⟨-, between, first, after, split, member, -⟩ := isReplaced_iff.1 replaced
    have there : first ∈ later := by
      rw [← List.nil_append later, split]
      simp
    cases (foreign first there).symm.trans member

/-- Of groups with different names the tags are kept that stand for their parameters. -/
theorem leaveOut_groups (apart : (groups.map (·.head.name)).Nodup) :
    leaveOut isReplaced (groups.flatMap ParamGroup.tags) = groups.flatMap ParamGroup.kept := by
  induction groups with
  | nil => rfl
  | cons group rest ih =>
    obtain ⟨fresh, apart⟩ := List.nodup_cons.1 apart
    have replaced := isReplaced_append group.plain group.owned
      (ParamGroup.isMemberOf_eq_false_of_not_mem fresh)
    rw [List.flatMap_cons, List.flatMap_cons, ParamGroup.tags, List.cons_append, leaveOut, replaced,
      leaveOut_append group.owned, ih apart, ParamGroup.kept]
    cases group.members with
    | nil => rfl
    | cons first more => rfl

/-! ## Their places -/

/-- Members of the owner that came last share its place. -/
theorem number_append (owned : ∀ tag ∈ members, tag.isMemberOf name = true) (named : name ≠ "")
    (place : Nat) (later : List Tag) :
    number (place + 1) name (members ++ later) =
      members.map (fun tag => { tag with place }) ++ number (place + 1) name later := by
  induction members with
  | nil => rfl
  | cons first rest ih =>
    obtain ⟨here, after⟩ := List.forall_mem_cons.1 owned
    have owner : first.owner = name := owner_of_isMemberOf here
    rw [List.cons_append, number, if_neg (by simp [owner, named]), owner, ih after]
    rfl

/-- The tags that stand for a parameter share the next place, if the tag before them is not that of
a member of a parameter with the name. What comes after them goes on from there. -/
theorem number_kept {group : ParamGroup} {previous : String} (named : group.head.name ≠ "")
    (fresh : previous ≠ group.head.name) (place : Nat) (later : List Tag) :
    ∃ last, (last = "" ∨ last = group.head.name) ∧
      number place previous (group.kept ++ later) =
        group.kept.map (fun tag => { tag with place }) ++ number (place + 1) last later := by
  obtain ⟨head, members, plain, owned⟩ := group
  cases members with
  | nil =>
    have owner : head.owner = "" := owner_of_plain plain
    refine ⟨"", .inl rfl, ?_⟩
    show number place previous (head :: later) = _
    rw [number, if_pos (.inl owner), owner]
    rfl
  | cons first rest =>
    obtain ⟨here, after⟩ := List.forall_mem_cons.1 owned
    have owner : first.owner = head.name := owner_of_isMemberOf here
    refine ⟨head.name, .inr rfl, ?_⟩
    show number place previous (first :: (rest ++ later)) = _
    rw [number, if_pos (.inr (owner ▸ fresh.symm)), owner, number_append after named]
    rfl

/-- The tags that stand for the parameters of groups with different names get the places of the
groups. -/
theorem number_groups {previous : String} (named : ∀ group ∈ groups, group.head.name ≠ "")
    (apart : (groups.map (·.head.name)).Nodup) (fresh : previous ∉ groups.map (·.head.name))
    (next : Nat) :
    number next previous (groups.flatMap ParamGroup.kept) =
      (groups.zipIdx next).flatMap fun (group, place) =>
        group.kept.map fun tag => { tag with place } := by
  -- Between two groups the last owner is none, or has the name of the group before.
  induction groups generalizing next previous with
  | nil => rfl
  | cons group rest ih =>
    obtain ⟨here, after⟩ := List.forall_mem_cons.1 named
    obtain ⟨unused, apart⟩ := List.nodup_cons.1 apart
    have other : previous ≠ group.head.name := by
      intro same
      exact fresh (same ▸ List.mem_cons_self)
    obtain ⟨last, owner, numbered⟩ :=
      number_kept here other next (rest.flatMap ParamGroup.kept)
    have gone : last ∉ rest.map (·.head.name) := by
      rcases owner with rfl | rfl
      · intro mem
        obtain ⟨group, listed, nameless⟩ := List.mem_map.1 mem
        exact after group listed nameless
      · exact unused
    rw [List.flatMap_cons, numbered, ih after apart gone, List.zipIdx_cons, List.flatMap_cons]

end Tag

/-- Where the tags of a kind are groups of parameters with different names, those are kept that stand
for their parameters, in order and with the places of the groups. When such tags are the parameters
of a block, each is checked against the argument at the place of its group. -/
theorem Tag.allOf_groups [AddressTest] {kind : TagKind} {lines : List (List Char)} {tags : List Tag}
    (read : (tagOccurrences kind.name.toList lines).mapM (ofText kind) = .ok tags)
    {groups : List ParamGroup}
    (grouped : tags.filter (·.name ≠ "") = groups.flatMap ParamGroup.tags)
    (apart : (groups.map (·.head.name)).Nodup) :
    allOf kind lines = .ok (ParamGroup.placed groups) ∧
      ∀ (schema : Schema) (args : List Value),
        schema.elements.param = ParamGroup.placed groups →
        schema.reportArguments args = (do
          let failure ← firstFailure (groups.zipIdx.flatMap fun (group, place) =>
            group.kept.map (schema.checkArgument (argumentAt args place)))
          Report.explained .param "argument" 0 (failure <|> schema.excess? args)) := by
  have named : ∀ group ∈ groups, group.head.name ≠ "" := by
    intro group mem
    have listed : group.head ∈ tags.filter (·.name ≠ "") := by
      rw [grouped]
      exact List.mem_flatMap.2 ⟨group, mem, List.mem_cons_self⟩
    simpa using (List.mem_filter.1 listed).2
  have nameless : "" ∉ groups.map (·.head.name) := by
    intro mem
    obtain ⟨group, listed, none⟩ := List.mem_map.1 mem
    exact named group listed none
  refine ⟨?_, ?_⟩
  · unfold allOf
    rw [read]
    show Except.ok (number 0 "" (dropOwners (tags.filter (·.name ≠ "")))) = _
    rw [grouped, dropOwners_eq, leaveOut_groups apart, number_groups named apart nameless]
    rfl
  · intro schema args made
    rw [Schema.reportArguments, made, Schema.checkArguments_eq, ParamGroup.placed, List.map_flatMap]
    simp only [List.map_map]
    rfl

/-! ### A parameter with two members, and another one -/

namespace Members

/-- The parameter that the members belong to, written before them. -/
def owner : Tag := Tag.argument "a" none 0

def groups : List ParamGroup :=
  [⟨owner, [tagX, tagY], rfl, by decide⟩, ⟨{ tagB with place := 0 }, [], rfl, by decide⟩]

theorem ofText_owner : Tag.ofText .param "@param a".toList = .ok owner :=
  Tag.ofText_plain rfl nofun (by cbv) (by cbv) (by cbv) (by cbv) Tag.read_untyped (by cbv) (by cbv)

theorem check_b [AddressTest] :
    check (.ofBlocks "" [block]) [0] [] [] tagB.types (.int 5) tagB.filters false =
      .ok (some (.ofType "boolean" (.int 5) [] "")) := by
  rw [check]
  refine (checkAny_of_refused (checkType_of_mismatch rfl rfl) rfl).trans ?_
  rw [checkAny]
  rfl

end Members

open scoped Net

/-- The members are read from the first argument, and what comes after them from the second, which is
no truth value. -/
theorem Tag.allOf_groups_members :
    allOf .param ("@param a".toList :: Members.lines) =
        .ok [Members.tagX, Members.tagY, Members.tagB] ∧
      Schema.reportArguments ⟨.ofBlocks "" [Members.block], 0, Members.block, true⟩
          (Members.args ++ [.int 5]) =
        Report.explained .param "argument" 0 (some (.ofType "boolean" (.int 5) [] "")) := by
  have read : (tagOccurrences TagKind.param.name.toList ("@param a".toList :: Members.lines)).mapM
      (ofText .param) =
      .ok [Members.owner, Members.tagX, Members.tagY, { Members.tagB with place := 0 }] := by
    rw [show tagOccurrences TagKind.param.name.toList _ = "@param a".toList :: Members.lines by
      decide]
    simp only [Members.lines, List.mapM_cons, List.mapM_nil, Members.ofText_owner,
      Members.ofText_x, Members.ofText_y, Members.ofText_b]
    rfl
  obtain ⟨all, asked⟩ := @allOf_groups _ .param _ _ read Members.groups rfl (by decide)
  refine ⟨all, ?_⟩
  rw [asked _ _ rfl]
  have told : firstFailure (Members.groups.zipIdx.flatMap fun (group, place) =>
      group.kept.map (Schema.checkArgument ⟨.ofBlocks "" [Members.block], 0, Members.block, true⟩
        (argumentAt (Members.args ++ [.int 5]) place))) =
      .ok (some (.ofType "boolean" (.int 5) [] "")) := by
    -- The first member is there, the second is missing, and the last argument is refused.
    apply bind_eq_ok.2 ⟨none, Members.check_x, _⟩
    apply bind_eq_ok.2 ⟨none, rfl, _⟩
    exact bind_eq_ok.2 ⟨_, Members.check_b, rfl⟩
  rw [told]
  rfl

end Docblock
