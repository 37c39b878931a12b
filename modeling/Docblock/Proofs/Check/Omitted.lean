import Docblock.Proofs.Block.Owners
import Docblock.Proofs.Check.Arguments
import Docblock.Proofs.Check.Use

/-!
# Omitted arguments

Where arguments pass, they still pass without one of them just when every tag that stands for it
lets it be missing: it is optional, or the absent value is of its types
(`Schema.passes_without_iff`). An optional parameter that no tags of members replace lets its
argument be missing. Where such tags replace it, it is not validated itself and they decide
(`Block.passes_without_optional_iff`), so the argument of an optional parameter can be needed
(`needs_optional_argument`). It makes no difference whether they come right after it or apart.

Whether the argument was there before is not asked: one that is absent already may be left out too.
Nothing is said of arguments that do not pass in the first place.
-/

namespace Docblock

/-! ## Arguments without one of them -/

/-- Arguments without the one at a place: it is the absent value, or it was the last and is left
out. -/
inductive Without (place : Nat) (args : List Value) : List Value → Prop
  | absent : Without place args (args.set place .undefined)
  | cut (last : args.length = place + 1) : Without place args (args.take place)

namespace Without

variable {place : Nat} {args fewer : List Value}

theorem length_le (h : Without place args fewer) : fewer.length ≤ args.length := by
  cases h with
  | absent => exact Nat.le_of_eq List.length_set
  | cut last => exact List.length_take_le' place args

/-- At the place the absent value is read. -/
theorem argumentAt_self (h : Without place args fewer) : argumentAt fewer place = .undefined := by
  unfold argumentAt
  cases h with
  | absent =>
    rw [List.getElem?_set_self']
    cases args[place]? <;> rfl
  | cut last =>
    rw [List.getElem?_take_eq_none (Nat.le_refl place)]
    rfl

/-- At every other place the same is read as before. -/
theorem argumentAt_of_ne (h : Without place args fewer) {other : Nat} (ne : other ≠ place) :
    argumentAt fewer other = argumentAt args other := by
  unfold argumentAt
  cases h with
  | absent => rw [List.getElem?_set_ne ne.symm]
  | cut last =>
    rcases Nat.lt_or_gt_of_ne ne with before | after
    · rw [List.getElem?_take_of_lt before]
    · -- There was no argument at a later place.
      rw [List.getElem?_take_eq_none (Nat.le_of_lt after), List.getElem?_eq_none (by omega)]

end Without

namespace Schema

variable {schema : Schema} {args fewer : List Value} {place : Nat} {tag : Tag}

section

variable [AddressTest]

/-- A tag lets what it speaks of be missing: it is optional, or the absent value is of its types and
meets its filters. -/
def LetsMiss (schema : Schema) (tag : Tag) : Prop :=
  tag.optional = true ∨
    check schema.corpus schema.registry [] [] tag.types .undefined tag.filters false = .ok none

/-- A check of alternatives that finds nothing at one path finds nothing at another, if both have a
text or neither has. -/
theorem check_eq_none_of_sameText {corpus : Corpus} {registry : Registry} {types : List TypeExpr}
    {value : Value} {filters : List Filter} {path path' : List Value}
    (same : Value.SameText path path')
    (passed : check corpus registry [] path types value filters false = .ok none) :
    check corpus registry [] path' types value filters false = .ok none := by
  have alike : Alike (Option.map Failure.outline)
      (check corpus registry [] path types value filters false)
      (check corpus registry [] path' types value filters false) := check_alike same types filters
  rw [Alike, passed] at alike
  cases checked : check corpus registry [] path' types value filters false with
  | error fault =>
    rw [checked] at alike
    cases alike
  | ok outcome =>
    rw [checked] at alike
    cases outcome with
    | none => rfl
    | some failure => cases alike

/-- The absent value has no members, so a tag of a member asks about the absent value too. -/
theorem checkArgument_undefined_iff :
    schema.checkArgument .undefined tag = .ok none ↔ schema.LetsMiss tag := by
  have spoken : (spokenOf .undefined tag).1 = .undefined := by
    unfold spokenOf
    cases tag.member with
    | none => rfl
    | some parts => rfl
  have same : Value.SameText (spokenOf .undefined tag).2 [] := by
    unfold spokenOf
    cases tag.member with
    | none => exact Value.sameText_strings [] []
    | some parts => exact Value.sameText_strings [parts.2] []
  unfold checkArgument LetsMiss
  rcases meant : spokenOf .undefined tag with ⟨value, steps⟩
  rw [meant] at spoken same
  dsimp only at spoken same ⊢
  subst spoken
  have missing : Value.undefined.isUndefined = true := rfl
  rw [missing, Bool.and_true]
  split
  · rename_i optional
    simp [optional]
  · rename_i needed
    simp only [needed, Bool.false_eq_true, false_or]
    exact ⟨check_eq_none_of_sameText same, check_eq_none_of_sameText same.symm⟩

/-- Arguments that pass do so without one of them just when every tag that speaks of it lets it be
missing. -/
theorem passes_without_iff (passes : schema.Passes (.arguments args))
    (without : Without place args fewer) :
    schema.Passes (.arguments fewer) ↔
      ∀ tag ∈ schema.elements.param, tag.place = place → schema.LetsMiss tag := by
  obtain ⟨checked, fits⟩ := passes_arguments_iff.1 passes
  rw [checkArguments_eq_none_iff] at checked
  have fits' : schema.excess? fewer = none := by
    rw [excess?_eq_none_iff] at fits ⊢
    intro strict
    exact without.length_le.trans (fits strict)
  rw [passes_arguments_iff, checkArguments_eq_none_iff]
  constructor
  · rintro ⟨met, -⟩ tag mem here
    have asked := met tag mem
    rw [here, without.argumentAt_self] at asked
    exact checkArgument_undefined_iff.1 asked
  · intro missing
    refine ⟨?_, fits'⟩
    intro tag mem
    by_cases here : tag.place = place
    · rw [here, without.argumentAt_self]
      exact checkArgument_undefined_iff.2 (missing tag mem here)
    · rw [without.argumentAt_of_ne here]
      exact checked tag mem

end

end Schema

/-! ## Parameters as they are written -/

namespace Tag

variable {kind : TagKind} {lines : List (List Char)} {tag param : Tag} {tags rest : List Tag}

/-- The tags of a kind that have names, as they are written in lines. -/
def written (kind : TagKind) (lines : List (List Char)) : Except Fault (List Tag) := do
  let tags ← (tagOccurrences kind.name.toList lines).mapM (ofText kind)
  return tags.filter (·.name ≠ "")

/-- The tag that stands for a parameter before other tags: that of a member right after it, or its
own. -/
def standIn (param : Tag) (rest : List Tag) : Tag :=
  if param.isOpened rest then rest.head?.getD param else param

theorem allOf_of_written (read : written kind lines = .ok tags) :
    allOf kind lines = .ok (number 0 "" (dropOwners tags)) := by
  obtain ⟨all, texts, named⟩ := bind_eq_ok.1 read
  rw [pure_eq_ok] at named
  unfold allOf
  rw [texts, ← named]
  rfl

theorem exists_place_of_mem (mem : tag ∈ tags) (next : Nat) (previous : String) :
    ∃ place, { tag with place } ∈ number next previous tags := by
  induction tags generalizing next previous with
  | nil => cases mem
  | cons first others ih =>
    rw [number]
    rcases List.mem_cons.1 mem with rfl | mem
    · split
      · exact ⟨next, List.mem_cons_self⟩
      · exact ⟨next - 1, List.mem_cons_self⟩
    · split
      · obtain ⟨place, there⟩ := ih mem (next + 1) first.owner
        exact ⟨place, List.mem_cons_of_mem _ there⟩
      · obtain ⟨place, there⟩ := ih mem next first.owner
        exact ⟨place, List.mem_cons_of_mem _ there⟩

/-- A tag is kept that does not have the property by which tags are left out. -/
theorem mem_leaveOut {p : Tag → List Tag → Bool} (suffix : tag :: rest <:+ tags)
    (stays : p tag rest = false) : tag ∈ leaveOut p tags := by
  induction tags with
  | nil => cases List.suffix_nil.1 suffix
  | cons first others ih =>
    rw [leaveOut]
    rcases List.suffix_cons_iff.1 suffix with same | suffix
    · cases same
      rw [stays]
      exact List.mem_cons_self
    · split
      · exact ih suffix
      · exact List.mem_cons_of_mem _ (ih suffix)

/-- The tag that stands for a parameter is kept, unless members that stand apart replace it. -/
theorem standIn_mem (suffix : param :: rest <:+ tags)
    (apart : param.isReplaced rest = true → param.isOpened rest = true) :
    param.standIn rest ∈ dropOwners tags := by
  rw [dropOwners_eq]
  unfold standIn
  split
  · rename_i opened
    obtain ⟨-, next⟩ := Bool.and_eq_true_iff.1 opened
    cases rest with
    | nil => cases next
    | cons first after =>
      obtain ⟨member, dotted⟩ := isMemberOf_iff.1 (show first.isMemberOf param.name = true from next)
      have behind : first :: after <:+ tags := (List.suffix_cons param _).trans suffix
      exact mem_leaveOut behind (by simp [isReplaced, dotted])
  · rename_i closed
    exact mem_leaveOut suffix (Bool.eq_false_iff.2 (mt apart closed))

/-- A tag of a member that replaces a parameter is kept, right behind the parameter or apart. -/
theorem exists_isMemberOf_dropOwners (suffix : param :: rest <:+ tags)
    (replaced : param.isReplaced rest = true) :
    ∃ tag ∈ dropOwners tags, tag.isMemberOf param.name = true := by
  obtain ⟨-, between, first, after, rfl, owned, -⟩ := isReplaced_iff.1 replaced
  obtain ⟨member, dotted⟩ := isMemberOf_iff.1 owned
  have behind : first :: after <:+ tags :=
    ((List.suffix_append between _).trans (List.suffix_cons param _)).trans suffix
  refine ⟨first, ?_, owned⟩
  rw [dropOwners_eq]
  exact mem_leaveOut behind (by simp [isReplaced, dotted])

end Tag

/-! ## Optional parameters -/

namespace Block

variable {file : String} {comment : Comment} {block : Block}

/-- Two parameters of a block at one place are the same, or those of members of one owner. -/
theorem eq_or_owner_eq_of_place_eq (made : ofComment file comment = .ok block) {tag other : Tag}
    (h : tag ∈ block.elements.param) (ho : other ∈ block.elements.param)
    (same : tag.place = other.place) : tag = other ∨ tag.owner = other.owner ∧ other.owner ≠ "" := by
  rcases param_of_ofComment made with none | all
  · rw [none] at h
    cases h
  · obtain ⟨texts, -, numbered⟩ := bind_eq_ok.1 all
    rw [pure_eq_ok] at numbered
    rw [← numbered] at h ho
    exact Tag.eq_or_owner_eq_of_mem_number (fun named => absurd rfl named) h ho same

/-- A parameter that is no member has its place alone. -/
theorem eq_of_place_eq (made : ofComment file comment = .ok block) {tag other : Tag}
    (h : tag ∈ block.elements.param) (ho : other ∈ block.elements.param)
    (same : tag.place = other.place) (plain : other.member = none) : tag = other := by
  rcases eq_or_owner_eq_of_place_eq made h ho same with rfl | ⟨-, owned⟩
  · rfl
  · exact absurd (by simp [Tag.owner, plain]) owned

/-- At the place of a member of a parameter there are only members of it. -/
theorem isMemberOf_of_place_eq (made : ofComment file comment = .ok block) {tag other : Tag}
    (h : tag ∈ block.elements.param) (ho : other ∈ block.elements.param)
    (same : tag.place = other.place) {name : String} (owned : other.isMemberOf name = true) :
    tag.isMemberOf name = true := by
  rcases eq_or_owner_eq_of_place_eq made h ho same with rfl | ⟨owner, named⟩
  · exact owned
  · obtain ⟨member, dotted⟩ := Tag.isMemberOf_iff.1 owned
    cases own : tag.member with
    | none =>
      simp only [Tag.owner, own, dotted, Option.map_none, Option.map_some, Option.getD_none,
        Option.getD_some] at owner named
      exact absurd owner.symm named
    | some parts =>
      simp only [Tag.owner, own, dotted, Option.map_some, Option.getD_some] at owner
      exact Tag.isMemberOf_iff.2 ⟨parts.2, by rw [own, ← owner]⟩

/-- Tags that are kept are parameters of the block, if it has any, each at a place. -/
theorem exists_param_of_mem_dropOwners (made : ofComment file comment = .ok block)
    {written : List Tag} (read : Tag.written .param comment.lines = .ok written)
    (used : block.elements.param ≠ []) {tag : Tag} (mem : tag ∈ Tag.dropOwners written) :
    ∃ place, { tag with place } ∈ block.elements.param := by
  rcases param_of_ofComment made with none | all
  · exact absurd none used
  · rw [Except.ok.inj (all.symm.trans (Tag.allOf_of_written read))]
    exact Tag.exists_place_of_mem mem 0 ""

/-- A parameter that no tag of a member opens has its place alone. -/
theorem eq_of_standIn_of_closed (made : ofComment file comment = .ok block) {param : Tag}
    {rest : List Tag} (plain : param.member = none) (closed : param.isOpened rest = false)
    {place : Nat} (there : { param.standIn rest with place } ∈ block.elements.param) {tag : Tag}
    (mem : tag ∈ block.elements.param) (here : tag.place = place) :
    tag = { param with place } := by
  have own : param.standIn rest = param := if_neg (by simp [closed])
  rw [own] at there
  exact eq_of_place_eq made mem there here plain

/-- At the place of a parameter there is the parameter, or there are members of it. -/
theorem eq_or_isMemberOf_of_standIn (made : ofComment file comment = .ok block) {param : Tag}
    {rest : List Tag} (plain : param.member = none) {place : Nat}
    (there : { param.standIn rest with place } ∈ block.elements.param) {tag : Tag}
    (mem : tag ∈ block.elements.param) (here : tag.place = place) :
    tag = { param with place } ∨ tag.isMemberOf param.name = true := by
  cases opened : param.isOpened rest with
  | false => exact .inl (eq_of_standIn_of_closed made plain opened there mem here)
  | true =>
    -- The first member stands for the parameter, so only members of it are at the place.
    obtain ⟨-, next⟩ := Bool.and_eq_true_iff.1 opened
    cases rest with
    | nil => cases next
    | cons first after =>
      have own : param.standIn (first :: after) = first := if_pos opened
      rw [own] at there
      have owned : Tag.isMemberOf param.name { first with place } = true := next
      exact .inr (isMemberOf_of_place_eq made mem there here owned)

/-- Where arguments of a block pass, they pass without that of an optional parameter just when every
tag of a member that replaces the parameter lets its member be missing. A parameter that no such tag
replaces has its place alone. There is such a place, unless tags of members replace the parameter
that do not come right after it. These have their places for themselves too, and there is at least
one. Without the argument at such a place arguments pass just when all tags there let what they speak
of be missing. -/
theorem passes_without_optional_iff [AddressTest] (made : ofComment file comment = .ok block)
    {written : List Tag} (read : Tag.written .param comment.lines = .ok written)
    {before rest : List Tag} {param : Tag} (split : written = before ++ param :: rest)
    (plain : param.member = none) (optional : param.optional = true) :
    (block.elements.param ≠ [] → (param.isReplaced rest = true → param.isOpened rest = true) →
      ∃ place, { param.standIn rest with place } ∈ block.elements.param) ∧
    (∀ place, { param.standIn rest with place } ∈ block.elements.param →
      (param.isOpened rest = false →
        ∀ tag ∈ block.elements.param, tag.place = place → tag = { param with place }) ∧
      ∀ (corpus : Corpus) (source : Nat) (forceStrict : Bool) (args fewer : List Value),
        let schema : Schema := ⟨corpus, source, block, forceStrict⟩
        schema.Passes (.arguments args) → Without place args fewer →
        (schema.Passes (.arguments fewer) ↔ ∀ tag ∈ block.elements.param, tag.place = place →
          tag.isMemberOf param.name = true → schema.LetsMiss tag)) ∧
    (block.elements.param ≠ [] → param.isReplaced rest = true →
      ∃ tag ∈ block.elements.param, tag.isMemberOf param.name = true) ∧
    ∀ tag ∈ block.elements.param, tag.isMemberOf param.name = true →
      (∀ other ∈ block.elements.param, other.place = tag.place →
        other.isMemberOf param.name = true) ∧
      ∀ (corpus : Corpus) (source : Nat) (forceStrict : Bool) (args fewer : List Value),
        let schema : Schema := ⟨corpus, source, block, forceStrict⟩
        schema.Passes (.arguments args) → Without tag.place args fewer →
        (schema.Passes (.arguments fewer) ↔ ∀ other ∈ block.elements.param,
          other.place = tag.place → schema.LetsMiss other) := by
  have suffix : param :: rest <:+ written := ⟨before, split.symm⟩
  refine ⟨fun used apart =>
    exists_param_of_mem_dropOwners made read used (Tag.standIn_mem suffix apart), ?_, ?_, ?_⟩
  · intro place there
    refine ⟨fun closed tag mem here =>
      eq_of_standIn_of_closed made plain closed there mem here, ?_⟩
    intro corpus source forceStrict args fewer schema passes without
    refine (Schema.passes_without_iff passes without).trans ?_
    constructor
    · intro missing tag mem here _
      exact missing tag mem here
    · intro missing tag mem here
      rcases eq_or_isMemberOf_of_standIn made plain there mem here with rfl | owned
      · exact .inl optional
      · exact missing tag mem here owned
  · intro used replaced
    obtain ⟨tag, mem, owned⟩ := Tag.exists_isMemberOf_dropOwners suffix replaced
    obtain ⟨place, there⟩ := exists_param_of_mem_dropOwners made read used mem
    exact ⟨_, there, owned⟩
  · intro tag mem owned
    refine ⟨fun other ho here => isMemberOf_of_place_eq made ho mem here owned, ?_⟩
    intro corpus source forceStrict args fewer schema passes without
    exact Schema.passes_without_iff passes without

end Block

/-! ### An optional parameter with a member that has to be there -/

namespace Needed

def code : String := "/**\n * @param [o]\n * @param {number} o.p\n * @param [q]\n */"

def lines : List (List Char) :=
  ["@param [o]".toList, "@param {number} o.p".toList, "@param [q]".toList]

def tagO : Tag := { Tag.argument "o" none 0 with optional := true }

def tagP : Tag :=
  { Tag.argument "o.p" (some ("o", "p")) 0 with
    typeText := "number"
    types := [.primitive "number" .number] }

def tagQ : Tag := { Tag.argument "q" none 0 with optional := true }

def elements : Elements :=
  ⟨"", ⟨false, false⟩, false, none, none, none, none, none, none,
    [tagP, { tagQ with place := 1 }], [], []⟩

def comment : Comment := ⟨code, 0, 1, 5, ""⟩

def block : Block := ⟨elements, "", 1, 5, ""⟩

def schema : Schema := ⟨.ofBlocks "" [block], 0, block, false⟩

/-- An object with the member that has to be there. -/
def arg : Value := .mapping [(.string "p", .int 1)]

theorem ofText_o : Tag.ofText .param "@param [o]".toList = .ok tagO := by
  have named : TagKind.param.isNamed = true := rfl
  rw [Tag.ofText_named named (by decide) (show _ = ([], "[o]".toList) by cbv)
    (show _ = ("[o]".toList, []) by cbv) Tag.read_untyped (show _ = Except.ok ("", []) by cbv)]
  cbv

theorem ofText_p : Tag.ofText .param "@param {number} o.p".toList = .ok tagP := by
  have named : TagKind.param.isNamed = true := rfl
  rw [Tag.ofText_named named (by decide) (show _ = ("number".toList, " o.p".toList) by cbv)
    (show _ = ("o.p".toList, []) by cbv) Finite.read_types (show _ = Except.ok ("", []) by cbv)]
  cbv

theorem ofText_q : Tag.ofText .param "@param [q]".toList = .ok tagQ := by
  have named : TagKind.param.isNamed = true := rfl
  rw [Tag.ofText_named named (by decide) (show _ = ([], "[q]".toList) by cbv)
    (show _ = ("[q]".toList, []) by cbv) Tag.read_untyped (show _ = Except.ok ("", []) by cbv)]
  cbv

theorem written_lines : Tag.written .param lines = .ok [tagO, tagP, tagQ] := by
  have occurs : tagOccurrences TagKind.param.name.toList lines = lines := by decide
  unfold Tag.written
  rw [occurs]
  simp only [lines, List.mapM_cons, List.mapM_nil, ofText_o, ofText_p, ofText_q]
  rfl

theorem ofLines_lines : Elements.ofLines lines = .ok elements := by
  have all : Tag.allOf .param lines = .ok [tagP, { tagQ with place := 1 }] := by
    rw [Tag.allOf_of_written written_lines]
    rfl
  exact Elements.ofLines_params (by decide) (by decide) (by decide) (by decide) all

theorem lines_comment : comment.lines = lines := by cbv

theorem ofComment_comment : Block.ofComment "" comment = .ok block :=
  Block.ofComment_of_elements "" lines_comment ofLines_lines

theorem ofSource_code : Block.ofSource "" code = .ok [block] := by
  have comments : Comment.ofSource code.toList = [comment] := by cbv
  exact Block.ofSource_of_comment comments ofComment_comment

theorem passes_arg [AddressTest] (more : List Value) : schema.Passes (.arguments (arg :: more)) := by
  rw [Schema.passes_arguments_iff, Schema.checkArguments_eq_none_iff]
  refine ⟨?_, rfl⟩
  intro tag mem
  rcases List.mem_cons.1 mem with rfl | mem
  · show check (.ofBlocks "" [block]) [0] [] [.string "p"] tagP.types (.int 1) tagP.filters false =
      .ok none
    rw [check]
    exact checkAny_of_yes (checkType_of_plain rfl rfl)
  · cases List.mem_singleton.1 mem
    -- Whatever the second argument is, the parameter takes it.
    unfold Schema.checkArgument
    rw [show Schema.spokenOf _ { tagQ with place := 1 } = (argumentAt (arg :: more) 1, []) from rfl]
    dsimp only
    split
    · rfl
    · show check (.ofBlocks "" [block]) [0] [] [] [.any "*"] _ [] false = .ok none
      rw [check]
      exact checkAny_of_yes (checkType_of_plain rfl rfl)

theorem not_letsMiss_p [AddressTest] : ¬schema.LetsMiss tagP := by
  have refused : check (.ofBlocks "" [block]) [0] [] [] tagP.types .undefined tagP.filters false =
      .ok (some (.ofType "number" .undefined [] "")) := by
    rw [check]
    refine (checkAny_of_refused (checkType_of_mismatch rfl rfl) rfl).trans ?_
    rw [checkAny]
    rfl
  rintro (optional | passed)
  · cases optional
  · cases refused.symm.trans passed

end Needed

open scoped Net

/-- A parameter is optional, and an argument for it passes; the absent value does not pass in its
place, and neither do no arguments at all. -/
theorem needs_optional_argument :
    Block.ofSource "" Needed.code = .ok [Needed.block] ∧
      Tag.written .param Needed.comment.lines = .ok [Needed.tagO, Needed.tagP, Needed.tagQ] ∧
      Needed.tagO.member = none ∧ Needed.tagO.optional = true ∧
      Needed.schema.Passes (.arguments [Needed.arg]) ∧
      ¬Needed.schema.Passes (.arguments [.undefined]) ∧ ¬Needed.schema.Passes (.arguments []) := by
  have written := Needed.lines_comment ▸ Needed.written_lines
  have needed : ∀ fewer, argumentAt fewer 0 = .undefined →
      ¬Needed.schema.Passes (.arguments fewer) := by
    intro fewer missing passes
    obtain ⟨met, -⟩ := Schema.passes_arguments_iff.1 passes
    have asked := Schema.checkArguments_eq_none_iff.1 met Needed.tagP List.mem_cons_self
    rw [show Needed.tagP.place = 0 from rfl, missing] at asked
    exact Needed.not_letsMiss_p (Schema.checkArgument_undefined_iff.1 asked)
  exact ⟨Needed.ofSource_code, written, rfl, rfl, Needed.passes_arg [], needed _ rfl, needed _ rfl⟩

/-- The last argument may be left out, as its parameter is optional and has no members, and the first
may not, for the sake of its member. -/
theorem Block.passes_without_optional_iff_needed :
    Needed.schema.Passes (.arguments [Needed.arg, .int 5]) ∧
      Needed.schema.Passes (.arguments [Needed.arg, .undefined]) ∧
      Needed.schema.Passes (.arguments [Needed.arg]) ∧
      ¬Needed.schema.Passes (.arguments [.undefined]) := by
  have written := Needed.lines_comment ▸ Needed.written_lines
  have both : Needed.schema.Passes (.arguments [Needed.arg, .int 5]) := Needed.passes_arg [.int 5]
  have one : Needed.schema.Passes (.arguments [Needed.arg]) := Needed.passes_arg []
  obtain ⟨-, last, -⟩ := @passes_without_optional_iff "" _ _ _ Needed.ofComment_comment _ written
    [Needed.tagO, Needed.tagP] [] Needed.tagQ rfl rfl rfl
  obtain ⟨-, first, -⟩ := @passes_without_optional_iff "" _ _ _ Needed.ofComment_comment _ written
    [] [Needed.tagP, Needed.tagQ] Needed.tagO rfl rfl rfl
  obtain ⟨alone, last⟩ := last 1 (List.mem_cons_of_mem _ List.mem_cons_self)
  obtain ⟨-, first⟩ := first 0 List.mem_cons_self
  have no_members : ∀ tag ∈ Needed.block.elements.param, tag.place = 1 →
      tag.isMemberOf Needed.tagQ.name = true → Needed.schema.LetsMiss tag := by
    intro tag mem here owned
    cases alone rfl tag mem here
    cases owned
  refine ⟨both, ?_, ?_, ?_⟩
  · exact (last _ _ _ _ _ both .absent).2 no_members
  · exact (last _ _ _ _ _ both (.cut rfl)).2 no_members
  · intro passes
    have missing := (first _ _ _ _ _ one .absent).1 passes
    exact Needed.not_letsMiss_p (missing Needed.tagP List.mem_cons_self rfl rfl)

end Docblock
