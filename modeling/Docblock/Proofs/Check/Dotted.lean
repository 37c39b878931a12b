import Docblock.Proofs.Block.Filtered
import Docblock.Proofs.Block.Owners
import Docblock.Proofs.Block.Places
import Docblock.Proofs.Check.Answer
import Docblock.Proofs.Check.Report
import Docblock.Proofs.Check.Returns

/-!
# Tags with dotted names

Where tags describe the members of an object, a tag with a dotted name is checked against the member
that the first two parts of the name lead to, however many parts there are
(`Block.answer_of_dotted`). A failure of that member stands at its keys or below them. Parts after
the second are not read, so a member deeper down is never what a tag is checked against
(`refuses_deeper_member`).

The tag is picked out of a list of tags, and the answer to all of them is written with the check of
this one in the middle (`Tag.answerAlong`). With the keys as a parameter the same expression says
what is done, and what would be done along more keys, which is how the two can be told apart.

That the value is an object is assumed. If it is none, no member is looked at.
-/

namespace Docblock

open Text

/-! ## The keys of a tag -/

namespace Tag

/-- The keys along which a tag is checked. -/
def keys (tag : Tag) : List String :=
  match tag.member with
  | some (owner, member) => [owner, member]
  | none => [tag.name]

theorem tagSteps_eq (tag : Tag) : Demand.tagSteps tag = tag.keys.map Value.string := by
  unfold Demand.tagSteps keys
  cases tag.member with
  | none => rfl
  | some parts => rfl

/-- The owner and the member of a tag that was read are the first two parts of its name. -/
theorem IsRead.member_eq {tag : Tag} (h : tag.IsRead) :
    tag.member = (splitMember? tag.name.toList).map fun parts =>
      (String.ofList parts.1, String.ofList parts.2) := by
  obtain ⟨kind, cs, other, place, read, rfl⟩ := h
  unfold ofText at read
  dsimp only at read
  split at read
  · obtain ⟨_, ⟨⟩, read⟩ := bind_eq_ok.1 read
    obtain ⟨⟨description, filters⟩, -, read⟩ := bind_eq_ok.1 read
    rw [pure_eq_ok] at read
    subst read
    simp only [String.toList_ofList]
  · obtain ⟨types, -, read⟩ := bind_eq_ok.1 read
    obtain ⟨⟨description, filters⟩, -, read⟩ := bind_eq_ok.1 read
    rw [pure_eq_ok] at read
    subst read
    simp only [String.toList_ofList]

/-- A tag with a dotted name is checked along the first two parts of the name. -/
theorem IsRead.keys_eq {tag : Tag} (h : tag.IsRead) {owner member : List Char}
    {deeper : List (List Char)} (dotted : splitOn '.' tag.name.toList = owner :: member :: deeper) :
    tag.keys = [String.ofList owner, String.ofList member] := by
  have parts : splitMember? tag.name.toList = some (owner, member) := by
    rw [splitMember?, dotted]
  rw [keys, h.member_eq, parts]
  rfl

end Tag

section

variable [AddressTest]

/-! ## Tags among others -/

variable {corpus : Corpus} {registry : Registry} {path : List Value} {value : Value} {strict : Bool}

/-- Check the members of a value that tags speak of, one after the other. -/
def checkMembers (corpus : Corpus) (registry : Registry) (path : List Value) (tags : List Tag)
    (value : Value) : Except Fault (Option Failure) :=
  checkDemands corpus registry path (tags.filterMap (Demand.ofTag? value))

namespace Tag

/-- Check the member that keys lead to against the types and filters of a tag. It may be missing
when the tag is optional. -/
def checkAlong (corpus : Corpus) (registry : Registry) (path : List Value) (keys : List String)
    (tag : Tag) (value : Value) : Except Fault (Option Failure) :=
  let steps := keys.map Value.string
  let member := steps.foldl Value.member value
  if tag.optional && member.isUndefined then .ok none
  else check corpus registry [] (path ++ steps) tag.types member tag.filters false

/-- The answer to tags that describe an object when one among them is checked along keys: those
before it come first, then it comes, then those after it, and at last the keys that are too much. -/
def answerAlong (corpus : Corpus) (registry : Registry) (path : List Value) (keys : List String)
    (before : List Tag) (tag : Tag) (after : List Tag) (value : Value) (strict : Bool) :
    Except Fault Verdict := do
  match ← checkMembers corpus registry path before value with
  | some failure => return .failed failure
  | none =>
    match ← tag.checkAlong corpus registry path keys value with
    | some failure => return .failed failure
    | none =>
      let extra := if strict then value.undeclared ((before ++ tag :: after).map declaredKey) else []
      Verdict.ofMembers path (.ok extra) (← checkMembers corpus registry path after value)

theorem checkMembers_cons (tag : Tag) (after : List Tag) :
    checkMembers corpus registry path (tag :: after) value = (do
      match ← tag.checkAlong corpus registry path tag.keys value with
      | some failure => return some failure
      | none => checkMembers corpus registry path after value) := by
  unfold checkMembers checkAlong
  rw [List.filterMap_cons, Demand.ofTag?]
  dsimp only
  rw [tagSteps_eq]
  by_cases missing : (tag.optional &&
      ((tag.keys.map Value.string).foldl Value.member value).isUndefined) = true
  · rw [if_pos missing, if_pos missing]
    rfl
  · rw [if_neg missing, if_neg missing]
    rfl

theorem checkMembers_append (before after : List Tag) :
    checkMembers corpus registry path (before ++ after) value = (do
      match ← checkMembers corpus registry path before value with
      | some failure => return some failure
      | none => checkMembers corpus registry path after value) := by
  induction before with
  | nil => rfl
  | cons tag rest ih =>
    rw [List.cons_append, checkMembers_cons, checkMembers_cons, ih, bind_assoc]
    refine bind_congr fun outcome => ?_
    cases outcome with
    | none => rfl
    | some failure => rfl

/-- An object is answered for by the members that tags speak of and the keys that are too much. -/
theorem checkShape_eq (object : value.isObject = true) (tags : List Tag) :
    checkShape corpus registry path (shape tags value strict) = (do
      let outcome ← checkMembers corpus registry path tags value
      Verdict.ofMembers path (.ok (if strict then value.undeclared (tags.map declaredKey) else []))
        outcome) := by
  rw [shape, if_pos object]
  rfl

/-- Each tag that describes an object is checked along its keys. -/
theorem checkShape_eq_answerAlong (object : value.isObject = true) (before : List Tag) (tag : Tag)
    (after : List Tag) :
    checkShape corpus registry path (shape (before ++ tag :: after) value strict) =
      answerAlong corpus registry path tag.keys before tag after value strict := by
  -- Both are the same three steps, once the tags before and the tag itself are told apart.
  rw [checkShape_eq object, checkMembers_append, checkMembers_cons, answerAlong]
  simp only [bind_assoc]
  refine bind_congr fun outcome => ?_
  cases outcome with
  | some failure => rfl
  | none =>
    simp only [bind_assoc]
    refine bind_congr fun outcome => ?_
    cases outcome with
    | some failure => rfl
    | none => rfl

theorem isPrefix_of_checkAlong {keys : List String} {tag : Tag} {failure : Failure}
    (h : tag.checkAlong corpus registry path keys value = .ok (some failure)) :
    path ++ keys.map Value.string <+: failure.path := by
  unfold checkAlong at h
  dsimp only at h
  split at h
  · cases h
  · exact isPrefix_of_check h

end Tag

/-- Where the parameters or the members of a block describe an object, one with a dotted name is
checked against the member of the object that the first two parts of the name lead to, and a failure
of that member stands at these keys or below them. So it is when the keys of an object are checked
and when the block is a type. -/
theorem Block.answer_of_dotted {file code : String} {blocks : List Block}
    (parsed : Block.ofSource file code = .ok blocks) {block : Block} (mem : block ∈ blocks)
    {tags before after : List Tag} {tag : Tag}
    (listed : tags = block.elements.param ∨ tags = block.elements.property)
    (split : tags = before ++ tag :: after) {owner member : List Char} {deeper : List (List Char)}
    (dotted : splitOn '.' tag.name.toList = owner :: member :: deeper) {value : Value}
    (object : value.isObject = true) :
    let keys := [String.ofList owner, String.ofList member]
    (∀ schema : Schema, schema.block = block →
      schema.checkKeys tags value = tag.answerAlong schema.corpus schema.registry [] keys before
        after value schema.strict) ∧
    (∀ (corpus : Corpus) (registry : Registry) (closed : List BlockRef) (path : List Value)
      (strict : Bool), tags = block.elements.property → block.elements.callback = none →
      checkBlock corpus registry closed path block value strict =
        tag.answerAlong corpus registry path keys before after value strict) ∧
    ∀ (corpus : Corpus) (registry : Registry) (path : List Value) (failure : Failure),
      tag.checkAlong corpus registry path keys value = .ok (some failure) →
      path ++ keys.map Value.string <+: failure.path := by
  intro keys
  have written : tag ∈ block.elements.tags := by
    have mem : tag ∈ tags := split ▸ List.mem_append_right before List.mem_cons_self
    simp only [Elements.tags, List.mem_append]
    rcases listed with rfl | rfl <;> simp [mem]
  have along : tag.keys = keys := (isRead_of_ofSource parsed mem tag written).keys_eq dotted
  refine ⟨?_, ?_, ?_⟩
  · intro schema _
    rw [Schema.checkKeys_eq, split, Tag.checkShape_eq_answerAlong object, along]
  · intro corpus registry closed path strict described other
    have some_tag : block.elements.property ≠ [] := by
      rw [← described, split]
      simp
    rw [checkBlock_of_property other some_tag, ← described, split,
      Tag.checkShape_eq_answerAlong object, along]
  · intro corpus registry path failure found
    exact Tag.isPrefix_of_checkAlong found

end

/-! ### A parameter with a name of three parts -/

namespace Deep

def code : String := "/** @param {number} a.b.c */"

def line : List Char := "@param {number} a.b.c".toList

def tag : Tag :=
  { Tag.argument "a.b.c" (some ("a", "b")) 0 with
    typeText := "number"
    types := [.primitive "number" .number] }

def comment : Comment := ⟨code, 0, 1, 1, ""⟩

def block : Block :=
  ⟨⟨"", ⟨false, false⟩, false, none, none, none, none, none, none, [tag], [], []⟩, "", 1, 1, ""⟩

def schema : Schema := ⟨.ofBlocks "" [block], 0, block, false⟩

/-- What the first two parts of the name lead to. -/
def inner : Value := .mapping [(.string "c", .int 1)]

def value : Value := .mapping [(.string "a", .mapping [(.string "b", inner)])]

theorem ofText_line : Tag.ofText .param line = .ok tag := by
  have named : TagKind.param.isNamed = true := rfl
  unfold line
  rw [Tag.ofText_named named (by decide) (show _ = ("number".toList, " a.b.c".toList) by cbv)
    (show _ = ("a.b.c".toList, []) by cbv) Finite.read_types (show _ = Except.ok ("", []) by cbv)]
  cbv

theorem ofLines_line : Elements.ofLines [line] = .ok block.elements := by
  have occurs : tagOccurrences TagKind.param.name.toList [line] = [line] := by decide
  have all : Tag.allOf .param [line] = .ok [tag] := by
    unfold Tag.allOf
    rw [occurs]
    simp only [List.mapM_cons, List.mapM_nil, ofText_line]
    rfl
  exact Elements.ofLines_params (by decide) (by decide) (by decide) (by decide) all

theorem ofSource_code : Block.ofSource "" code = .ok [block] := by
  have comments : Comment.ofSource code.toList = [comment] := by cbv
  have lines : comment.lines = [line] := by cbv
  exact Block.ofSource_of_comment comments (Block.ofComment_of_elements "" lines ofLines_line)

/-- The member that all three parts lead to is a number. -/
theorem checkAlong_all [AddressTest] (path : List Value) :
    tag.checkAlong schema.corpus schema.registry path ["a", "b", "c"] value = .ok none := by
  show check schema.corpus schema.registry [] _ [.primitive "number" .number] (.int 1) [] false =
    .ok none
  rw [check]
  exact checkAny_of_yes (checkType_of_plain rfl rfl)

/-- The member that the first two parts lead to is none. -/
theorem checkAlong_two [AddressTest] (path : List Value) :
    tag.checkAlong schema.corpus schema.registry path ["a", "b"] value =
      .ok (some (.ofType "number" inner (path ++ [.string "a", .string "b"]) "")) := by
  show check schema.corpus schema.registry [] _ [.primitive "number" .number] inner [] false = _
  rw [check]
  refine (checkAny_of_refused (checkType_of_mismatch rfl rfl) rfl).trans ?_
  rw [checkAny]
  rfl

end Deep

open scoped Net

/-- A parameter has a name of three parts, and an object has a number where all three lead to. The
object is refused, for the member that the first two parts lead to. -/
theorem refuses_deeper_member :
    Block.ofSource "" Deep.code = .ok [Deep.block] ∧ Deep.block.elements.param = [Deep.tag] ∧
      splitOn '.' Deep.tag.name.toList = [['a'], ['b'], ['c']] ∧
      Deep.tag.answerAlong Deep.schema.corpus Deep.schema.registry [] ["a", "b", "c"] [] [] Deep.value
        false = .ok .yes ∧
      Deep.schema.checkKeys [Deep.tag] Deep.value =
        .ok (.failed (.ofType "number" Deep.inner [.string "a", .string "b"] "")) := by
  refine ⟨Deep.ofSource_code, rfl, by decide, ?_, ?_⟩
  · unfold Tag.answerAlong
    rw [Deep.checkAlong_all]
    rfl
  · rw [Schema.checkKeys_eq]
    refine (Tag.checkShape_eq_answerAlong rfl [] Deep.tag []).trans ?_
    show Tag.answerAlong Deep.schema.corpus Deep.schema.registry [] ["a", "b"] [] Deep.tag []
      Deep.value false = _
    unfold Tag.answerAlong
    rw [Deep.checkAlong_two]
    rfl

/-- The parameter with a name of three parts is checked along two of them, and fails there. -/
theorem Block.answer_of_dotted_deeper :
    Block.ofSource "" Deep.code = .ok [Deep.block] ∧
      Deep.schema.checkKeys [Deep.tag] Deep.value =
        Deep.tag.answerAlong Deep.schema.corpus Deep.schema.registry [] ["a", "b"] [] []
          Deep.value false ∧
      [.string "a", .string "b"] <+:
        (Failure.ofType "number" Deep.inner [.string "a", .string "b"] "").path := by
  obtain ⟨keys, -, below⟩ := @answer_of_dotted _ "" Deep.code _ Deep.ofSource_code Deep.block
    List.mem_cons_self [Deep.tag] [] [] Deep.tag (.inl rfl) rfl ['a'] ['b'] [['c']] (by decide)
    Deep.value rfl
  exact ⟨Deep.ofSource_code, keys Deep.schema rfl, below _ _ _ _ (Deep.checkAlong_two [])⟩

end Docblock
