import Docblock.Proofs.Check.Marks

/-!
# Forced strictness and marks

Forced strictness and marks in every block give the same report wherever no keys are spared. In any
case the marks only take values away: what passes with every block marked passes when strictness is
forced, if that gives a report (`marked_of_ofSource`). It need not give one. A member that the marks
refuse ends the check there, and without them the check may go on to a filter for which a number is
too large.

So the two outcomes are compared by a relation that speaks of results only (`Follows`), which is
weaker than the one for forced strictness alone. There the demands are the same, and keys come last.
Here a member is checked in another way, and what follows after it may differ.

The alternative that lets a value through may be another one without the marks. It has the same
filters to meet, because filters stand beside types of one category and the value has one
(`Allowed.passes_of_passes`).
-/

namespace Docblock

section

variable {value : Value} {strict marked : Bool}

/-! ## Outcomes that follow

Every step of a check is followed by the same step of the other check, so the relation is one of
outcomes and goes through steps in a row (`Follows.bind`). -/

/-- Where an outcome passes, the other passes too if it gives a result. -/
def Follows {α : Type} (passed : α) (outcome other : Except Fault α) : Prop :=
  outcome = .ok passed → ∀ a, other = .ok a → a = passed

theorem Follows.refl {α : Type} (passed : α) (outcome : Except Fault α) :
    Follows passed outcome outcome :=
  fun h _ ha => Except.ok.inj (ha.symm.trans h)

/-- Steps that pass only after what passes. -/
theorem Follows.bind {α β : Type} {passed : α} {passed' : β} {x y : Except Fault α}
    {f g : α → Except Fault β} (h : Follows passed x y)
    (only : ∀ a, f a = .ok passed' → a = passed) (step : Follows passed' (f passed) (g passed)) :
    Follows passed' (x >>= f) (y >>= g) := by
  intro hx b hy
  obtain ⟨a, first, second⟩ := bind_eq_ok.1 hx
  obtain ⟨a', first', second'⟩ := bind_eq_ok.1 hy
  cases only a second
  cases h first a' first'
  exact step second b second'

theorem follows_ofFailure_iff {x y : Except Fault (Option Failure)} :
    Follows .yes (x.map Verdict.ofFailure) (y.map Verdict.ofFailure) ↔ Follows none x y := by
  constructor
  · intro h hx outcome hy
    subst hx hy
    exact Verdict.ofFailure_eq_yes.1 (h rfl _ rfl)
  · intro h hx verdict hy
    have passed : x = .ok none := map_ofFailure_inj.1 hx
    cases y with
    | error fault => cases hy
    | ok outcome =>
      cases hy
      exact Verdict.ofFailure_eq_yes.2 (h passed outcome rfl)

/-- The category of filters for a value. -/
def Value.category? : Value → Option Category
  | .int _ | .double _ => some .number
  | .string _ => some .string
  | .list _ | .tuple _ => some .array
  | _ => none

/-- A type that filters may stand beside has the category of the values that are of its form. -/
theorem TypeExpr.Takes.category?_eq {type : TypeExpr} {filters : List Filter}
    (takes : type.Takes filters) (form : type.shape value strict ≠ .mismatch) :
    type.category? = value.category? := by
  have known : type.isNullish = true ∨ type.category?.isSome = true := by
    rcases takes with nullish | ⟨category, hc, -⟩
    · exact .inl nullish
    · exact .inr (by simp [hc])
  cases type with
  | null | undefined | array | tuple => cases value <;> first | rfl | exact absurd rfl form
  | literal text expected =>
    cases expected with
    | boolean => simp [isNullish, TypeExpr.category?] at known
    | number | string => cases value <;> first | rfl | exact absurd rfl form
  | primitive text name =>
    cases name with
    | number | string => cases value <;> first | rfl | exact absurd rfl form
    | bigint | boolean | symbol => simp [isNullish, TypeExpr.category?] at known
  | any | map | object | named => simp [isNullish, TypeExpr.category?] at known

variable [AddressTest] {corpus : Corpus} {registry : Registry} {closed : List BlockRef}
variable {path : List Value}

theorem shape_ne_mismatch_of_yes {type : TypeExpr} (target : corpus.target? registry type = none)
    (h : checkType corpus registry closed path type value strict = .ok .yes) :
    type.shape value strict ≠ .mismatch := by
  intro mismatch
  rw [checkType_of_mismatch target mismatch] at h
  cases h

/-- Two alternatives that a value is of have the same filters to meet. -/
theorem Allowed.passes_of_passes {other : Corpus} {types : List TypeExpr} {filters : List Filter}
    {type one : TypeExpr} (allowed : Allowed types filters) (mem : type ∈ alternatives types)
    (among : one ∈ alternatives types)
    (h : checkType corpus registry closed path type value strict = .ok .yes)
    (h' : checkType other registry closed path one value marked = .ok .yes)
    (passes : one.Passes filters value) : type.Passes filters value := by
  by_cases some : filters = []
  · subst some
    exact type.passes_nil
  · -- Beside filters stands no name, and the form of a value tells the category of its filters.
    have form := shape_ne_mismatch_of_yes (allowed.target?_eq_none some mem) h
    have form' := shape_ne_mismatch_of_yes (allowed.target?_eq_none some among) h'
    unfold alternatives at mem among
    split at mem
    · cases List.mem_singleton.1 mem
      exact TypeExpr.passes_of_plain rfl
    · rename_i listed
      rw [if_neg listed] at among
      have takes := allowed.resolve_left some
      have same : type.category? = one.category? :=
        ((takes type mem).category?_eq form).trans ((takes one among).category?_eq form').symm
      exact fun category hc => passes category (same ▸ hc)

theorem check_follows {other : Corpus} {types : List TypeExpr} {filters : List Filter}
    (allowed : Allowed types filters)
    (each : ∀ type ∈ alternatives types,
      Follows .yes (checkType other registry closed path type value marked)
        (checkType corpus registry closed path type value strict)) :
    Follows none (check other registry closed path types value filters marked)
      (check corpus registry closed path types value filters strict) := by
  intro passed outcome h
  -- The alternative without the marks can be an earlier one, but its filters are the same.
  obtain ⟨one, among, matched, passes⟩ : ∃ one ∈ alternatives types,
      checkType other registry closed path one value marked = .ok .yes ∧
        one.Passes filters value := by
    cases check_cases passed with
    | @first before after one _ split _ matched filtered =>
      exact ⟨one, by simp [split], matched, filterFailure?_eq_none.1 filtered⟩
  cases check_cases h with
  | @first before after type _ split _ matched' filtered =>
    have mem : type ∈ alternatives types := by simp [split]
    have lets := allowed.passes_of_passes mem among matched' matched passes
    exact Except.ok.inj (filtered.symm.trans (filterFailure?_eq_none.2 lets))
  | none split others failed told =>
    -- The alternative that passes with the marks is not refused without them.
    obtain ⟨verdict, checked, refused⟩ := others one among
    exact absurd (each one among matched verdict checked) refused

theorem checkDemands_follows {other : Corpus} {demands : List Demand}
    (each : ∀ demand ∈ demands, Follows none (checkDemand other registry path demand)
      (checkDemand corpus registry path demand)) :
    Follows none (checkDemands other registry path demands)
      (checkDemands corpus registry path demands) := by
  induction demands with
  | nil => exact .refl _ _
  | cons demand rest ih =>
    rw [checkDemands, checkDemands]
    refine (each demand (by simp)).bind (fun outcome h => ?_) (ih fun later hl => each later ?_)
    · cases outcome with
      | none => rfl
      | some failure => cases h
    · simp [hl]

theorem checkShape_follows {other : Corpus} {shape less : Shape} (eases : shape.Eases less)
    (each : ∀ demand ∈ shape.demands, Follows none (checkDemand other registry path demand)
      (checkDemand corpus registry path demand)) :
    Follows .yes (checkShape other registry path shape) (checkShape corpus registry path less) := by
  have only : ∀ extra outcome, Verdict.ofMembers path extra outcome = .ok .yes → outcome = none := by
    intro extra outcome h
    cases outcome with
    | none => rfl
    | some failure => cases h
  cases eases with
  | refl =>
    cases shape with
    | mismatch => exact .refl _ _
    | members demands extra =>
      rw [checkShape, checkShape]
      exact Follows.bind (checkDemands_follows each) (only extra) (.refl _ _)
  | nothing demands extra =>
    rw [checkShape, checkShape]
    refine Follows.bind (checkDemands_follows each) (only extra) fun _ verdict hv => ?_
    cases hv
    rfl

/-- What passes with every block marked passes without the marks. -/
theorem Query.verdict_follows (blocks : ∀ ref block, corpus.block? ref = some block → block.Filtered)
    (query : Query) (filtered : query.Filtered) (le : strict = true → marked = true) :
    Follows .yes ((query.withStrict marked).verdict corpus.marked registry closed path value)
      ((query.withStrict strict).verdict corpus registry closed path value) := by
  induction registry, closed, path, value, query using Query.induction
    generalizing strict marked with
  | types registry closed path value types filters _ ih =>
    refine follows_ofFailure_iff.2 (check_follows filtered.1 fun type mem => ?_)
    exact ih type mem (filtered_alternatives filtered.2 type mem) le
  | type registry closed path value type _ ihMember ihBlock =>
    simp only [withStrict, verdict]
    rcases target : corpus.target? registry type with _ | ref
    · have target' := (corpus.target?_marked registry type).trans target
      rw [checkType_of_form target, checkType_of_form target']
      refine checkShape_follows (type.shape_eases le) fun demand hd => follows_ofFailure_iff.1 ?_
      have hf := TypeExpr.filtered_of_mem_demands filtered hd
      exact ihMember demand (TypeExpr.demands_shape type _ _ ▸ hd) ⟨hf.allowed, hf.types⟩ id
    · obtain ⟨-, block, -, -, found, -⟩ := Corpus.exists_block_of_target target
      by_cases mem : ref ∈ closed
      · exact checkType_marked_of_mem target found mem ▸ .refl _ _
      · rw [checkType_of_not_mem target found mem, checkType_marked_of_not_mem target found mem]
        exact ihBlock ref block target found mem (blocks ref block found) fun _ => rfl
  | block registry closed path value block _ ihMember ihTypes =>
    rcases block.stands with function | ⟨other, described⟩ | ⟨other, bare, nameless⟩ |
      ⟨other, bare, tag, named⟩
    · simp only [withStrict, verdict, checkBlock_of_callback function]
      exact .refl _ _
    · simp only [withStrict, verdict, checkBlock_of_property other described]
      refine checkShape_follows (Tag.shape_eases le _) fun demand hd => follows_ofFailure_iff.1 ?_
      have hf := Tag.filtered_of_mem_demands (Block.Filtered.property filtered) hd
      exact ihMember demand (Tag.demands_shape _ _ _ ▸ hd) ⟨hf.allowed, hf.types⟩ id
    · simp only [withStrict, verdict, checkBlock_of_nameless other bare nameless]
      exact .refl _ _
    · have hf := Block.Filtered.aliasTag filtered named
      simp only [withStrict, verdict_block_of_synonym other bare named]
      exact ihTypes tag named ⟨hf.allowed, hf.types⟩ le

end

/-! ## Uses

A use of a block is a check of types or of members with a strictness that was chosen for it. At
the start undeclared keys are refused with every block marked wherever they are with strictness
forced, so only what is inside is left to compare. -/

namespace Schema

variable {schema : Schema} {value : Value}

theorem passed_of_follows {α : Type} {passed : α} {x y : Except Fault α}
    {tell : α → Except Fault Report} {report : Report} (h : Follows passed x y)
    (only : ∀ a, Approved (tell a) → a = passed) (approved : Approved (x >>= tell))
    (told : y >>= tell = .ok report) : report.passed = true := by
  obtain ⟨a, ha, passes⟩ := approved_bind_iff.1 approved
  obtain ⟨b, hb, told⟩ := bind_eq_ok.1 told
  cases only a passes
  cases h ha b hb
  obtain ⟨report', told', passes⟩ := passes
  cases told.symm.trans told'
  exact passes

variable [AddressTest]

theorem check_follows {types : List TypeExpr} {filters : List Filter} {path : List Value}
    {strict marked : Bool}
    (blocks : ∀ ref block, schema.corpus.block? ref = some block → block.Filtered)
    (filtered : Query.Filtered (.types types filters strict))
    (le : strict = true → marked = true) :
    Follows none
      (check schema.marked.corpus schema.marked.registry [] path types value filters marked)
      (check schema.forced.corpus schema.forced.registry [] path types value filters strict) :=
  follows_ofFailure_iff.1
    (Query.verdict_follows blocks (.types types filters strict) filtered le)

theorem checkArguments_follows {args : List Value} {tags : List Tag}
    (blocks : ∀ ref block, schema.corpus.block? ref = some block → block.Filtered)
    (filtered : ∀ tag ∈ tags, tag.Filtered) :
    Follows none (schema.marked.checkArguments args tags) (schema.forced.checkArguments args tags) := by
  induction tags with
  | nil => exact .refl _ _
  | cons tag rest ih =>
    have later := ih fun other ho => filtered other (by simp [ho])
    rw [checkArguments, checkArguments]
    rcases argumentOf args tag with ⟨arg, path⟩
    dsimp only
    split
    · exact later
    · have one := filtered tag (by simp)
      refine (check_follows blocks ⟨one.allowed, one.types⟩ id).bind (fun outcome h => ?_) later
      cases outcome with
      | none => rfl
      | some failure => cases h

theorem passed_of_reportArguments {args : List Value} {report : Report}
    (blocks : ∀ ref block, schema.corpus.block? ref = some block → block.Filtered)
    (filtered : schema.block.Filtered) (h : Approved (schema.marked.reportArguments args))
    (told : schema.forced.reportArguments args = .ok report) : report.passed = true := by
  rw [reportArguments] at h told
  rw [excess?_marked] at told
  have follows : Follows none (schema.marked.checkArguments args schema.elements.param)
      (schema.forced.checkArguments args schema.elements.param) :=
    checkArguments_follows blocks (Block.Filtered.param filtered)
  refine passed_of_follows follows (fun outcome approved => ?_) h told
  rw [approved_explained_iff] at approved
  cases outcome with
  | none => rfl
  | some failure => cases approved

theorem passed_of_reportKeys {name : String} {report : Report}
    (blocks : ∀ ref block, schema.corpus.block? ref = some block → block.Filtered)
    (filtered : schema.block.Filtered) (h : Approved (schema.marked.reportKeys name value))
    (told : schema.forced.reportKeys name value = .ok report) : report.passed = true := by
  rw [reportKeys, show schema.marked.keyTags? name = schema.keyTags? name from rfl] at h
  rw [reportKeys, show schema.forced.keyTags? name = schema.keyTags? name from rfl] at told
  cases known : schema.keyTags? name with
  | none =>
    rw [known] at h
    exact absurd h not_approved_error
  | some spoken =>
    rw [known] at h told
    have follows : Follows .yes (schema.marked.checkKeys spoken.2 value)
        (schema.forced.checkKeys spoken.2 value) := by
      rw [checkKeys_eq, checkKeys_eq]
      refine checkShape_follows (Tag.shape_eases (fun _ => rfl) _) fun demand hd => ?_
      have hf := Tag.filtered_of_mem_demands (filtered_of_keyTags filtered known) hd
      exact check_follows blocks ⟨hf.allowed, hf.types⟩ id
    refine passed_of_follows follows (fun verdict approved => ?_) h told
    cases verdict with
    | yes => rfl
    | no => cases approved_explained_iff.1 approved
    | failed failure =>
      obtain ⟨what, -, approved⟩ := approved_bind_iff.1 approved
      cases approved_explained_iff.1 approved

theorem passed_of_reportSingle {kind : TagKind} {report : Report}
    (blocks : ∀ ref block, schema.corpus.block? ref = some block → block.Filtered)
    (filtered : schema.block.Filtered) (h : Approved (schema.marked.reportSingle kind value))
    (told : schema.forced.reportSingle kind value = .ok report) : report.passed = true := by
  rw [reportSingle, single?_marked] at h
  rw [reportSingle, show schema.forced.elements.single? kind = schema.elements.single? kind from rfl]
    at told
  cases found : schema.elements.single? kind with
  | none =>
    rw [found] at h told
    obtain ⟨report', told', passed⟩ := h
    cases told.symm.trans told'
    exact passed
  | some tag =>
    rw [found] at h told
    have one := filtered tag (Elements.mem_tags_of_single found)
    refine passed_of_follows (check_follows blocks ⟨one.allowed, one.types⟩ fun _ => rfl)
      (fun outcome approved => ?_) h told
    rwa [approved_explained_iff] at approved

theorem passed_of_reportTypedef {report : Report}
    (blocks : ∀ ref block, schema.corpus.block? ref = some block → block.Filtered)
    (filtered : schema.block.Filtered) (h : Approved (schema.marked.reportTypedef value))
    (told : schema.forced.reportTypedef value = .ok report) : report.passed = true := by
  rw [reportTypedef, show schema.marked.block.typedefTag? = schema.block.typedefTag? from rfl] at h
  rw [reportTypedef, show schema.forced.block.typedefTag? = schema.block.typedefTag? from rfl] at told
  cases named : schema.block.typedefTag? with
  | none =>
    rw [named] at h
    exact absurd h not_approved_error
  | some tag =>
    rw [named] at h told
    have follows : Follows .yes (checkBlock schema.marked.corpus schema.marked.registry [] []
        schema.marked.block value schema.marked.strict) (checkBlock schema.forced.corpus
        schema.forced.registry [] [] schema.forced.block value schema.forced.strict) := by
      refine (checkBlock_marked schema.block).symm ▸ ?_
      exact Query.verdict_follows blocks (.block schema.block true) filtered fun _ => rfl
    refine passed_of_follows follows (fun verdict approved => ?_) h told
    rwa [approved_explained_iff, Verdict.failure?_eq_none] at approved

/-- What passes with every block marked passes when it is forced, if that gives a report. -/
theorem passed_of_marked (schema : Schema)
    (blocks : ∀ ref block, schema.corpus.block? ref = some block → block.Filtered)
    (filtered : schema.block.Filtered) {use : Use} {report : Report}
    (h : schema.marked.Passes use) (told : schema.forced.reportOf use = .ok report) :
    report.passed = true := by
  induction use using Use.induction schema.elements with
  | arguments args => exact passed_of_reportArguments blocks filtered h told
  | keys name value => exact passed_of_reportKeys blocks filtered h told
  | tag name value =>
    unfold Passes at h
    rw [reportOf, reportTag] at h told
    cases meant : TagKind.singles.find? (·.name = name) with
    | none =>
      rw [meant] at h
      exact absurd h not_approved_error
    | some kind =>
      rw [meant] at h told
      exact passed_of_reportSingle blocks filtered h told
  | typedef value => exact passed_of_reportTypedef blocks filtered h told
  | whole value ih =>
    obtain ⟨use, found, h⟩ := passes_whole_iff.1 h
    rw [reportOf, report_eq, show schema.forced.elements.use? value = some use from found] at told
    exact ih use found h told

end Schema

/-! ## Blocks that were read -/

/-- A use of a block that was read gives the same report when strictness is forced and when all blocks
are marked, unless the check comes through a member to a name whose block is not marked and declares
keys. Even there, what passes with all blocks marked passes when strictness is forced, if that gives a
report. -/
theorem marked_of_ofSource [AddressTest] {file code : String} {blocks : List Block}
    (parsed : Block.ofSource file code = .ok blocks) {block : Block} (mem : block ∈ blocks)
    (corpus : Corpus) (read : corpus.Read) (source : Nat) :
    let schema : Schema := ⟨corpus, source, block, false⟩
    (∀ use,
      (∀ subject, schema.subjectOf use = some subject →
        ¬corpus.Spares [source] true true subject) →
      schema.forced.reportOf use = schema.marked.reportOf use) ∧
    ∀ use report, schema.marked.Passes use → schema.forced.reportOf use = .ok report →
      report.passed = true := by
  intro schema
  have filtered : block.Filtered := Block.filtered_of_ofSource parsed mem
  exact ⟨fun use unspared => Schema.reportOf_marked unspared,
    fun use report passes told => schema.passed_of_marked read.filtered filtered passes told⟩

/-! ### Items of a type with a name -/

namespace Listed

open Text

def line : List Char := "@typedef {T[]} L".toList

def type : TypeExpr := .array "T[]" [.named "T" "T"]

def tag : Tag := { Cycle.tag with typeText := "T[]", types := [type], name := "L" }

def block : Block := ⟨.naming tag, "", 2, 2, ""⟩

theorem read_types : TypeExpr.read ['T', '[', ']'] = .ok [type] := by
  have form : Layer.ofText (unwrap (trim ['T', '[', ']'])) = .array ['T'] := by cbv
  have item : TypeExpr.read ['T'] = .ok [.named "T" "T"] := by
    rw [TypeExpr.read_of_form (by cbv) (by cbv)]
    cbv
  rw [TypeExpr.read_of_form (by cbv) (by cbv), form, TypeExpr.readForm, item]
  cbv

theorem ofText_line : Tag.ofText .typedef line = .ok tag :=
  Tag.ofText_naming (by cbv) (by cbv) (by cbv) (by cbv) read_types (by cbv) (by cbv)

/-- The comment of the list, wherever it stands. -/
theorem ofComment_line (place : Nat) :
    Block.ofComment "" ⟨"/** @typedef {T[]} L */", place, 2, 2, ""⟩ = .ok block :=
  Block.ofComment_naming "" (by cbv)
    (Elements.ofLines_naming (by cbv) (by cbv) (by cbv) (by decide) ofText_line)

/-- A list of one item is taken just when the item is, and with what its own block says of
strictness. -/
theorem checkBlock_iff [AddressTest] {corpus : Corpus} {first : Block} {item : Value} (strict : Bool)
    (target : corpus.target? [0] (.named "T" "T") = some ⟨0, 0⟩)
    (found : corpus.block? ⟨0, 0⟩ = some first) :
    checkBlock corpus [0] [] [] block (.list [item]) strict = .ok .yes ↔
      checkBlock corpus [0] [⟨0, 0⟩] [.int 0] first item first.strict = .ok .yes := by
  have shape : type.shape (.list [item]) strict =
      .members [⟨[.int 0], item, [.named "T" "T"], []⟩] (.ok []) := rfl
  have entered : Demand.Met corpus [0] [] ⟨[.int 0], item, [.named "T" "T"], []⟩ ↔
      checkBlock corpus [0] [⟨0, 0⟩] [.int 0] first item first.strict = .ok .yes := by
    rw [Demand.Met, checkDemand, check_singleton_eq_none_iff (TypeExpr.passes_nil _),
      checkType_of_not_mem target found (by simp)]
    rfl
  rw [checkBlock_of_synonym_eq_yes_iff rfl rfl (show _ = some tag from rfl)]
  refine (check_singleton_eq_none_iff (TypeExpr.passes_nil type)).trans ?_
  rw [checkType_of_form rfl, checkShape_eq_yes_iff, shape, Shape.Met, ← entered]
  simp

end Listed

/-! ### Undeclared keys in an item -/

namespace Spared

open Text

def code : String := "/** @typedef {{a: number}} T */\n/** @typedef {T[]} L */"

def blocks : List Block := [Keyed.block, Listed.block]

def corpus : Corpus := .ofBlocks "" blocks

theorem ofSource_code : Block.ofSource "" code = .ok blocks := by
  have comments : Comment.ofSource code.toList =
      [⟨Keyed.code, 0, 1, 1, ""⟩, ⟨"/** @typedef {T[]} L */", 32, 2, 2, ""⟩] := by cbv
  unfold Block.ofSource
  simp only [comments, List.mapM_cons, List.mapM_nil, Keyed.ofComment_code,
    Listed.ofComment_line]
  rfl

/-- An item with a key that is not declared. -/
def value : Value := .list [Keyed.value]

theorem passes_value [AddressTest] : Schema.Passes ⟨corpus, 0, Listed.block, true⟩ (.whole value) := by
  rw [Schema.passes_whole_iff]
  refine ⟨.typedef value, rfl, (Schema.passes_typedef_iff rfl).2 ?_⟩
  exact (Listed.checkBlock_iff true (by cbv) rfl).2 (Keyed.checkBlock_value _ _ _ _)

theorem not_passes_value [AddressTest] :
    ¬Schema.Passes ⟨corpus.marked, 0, Listed.block.marked, false⟩ (.whole value) := by
  intro passes
  obtain ⟨use, found, passes⟩ := Schema.passes_whole_iff.1 passes
  cases found
  have list := (Schema.passes_typedef_iff rfl).1 passes
  rw [checkBlock_marked] at list
  have item := (Listed.checkBlock_iff _ (by cbv) rfl).1 list
  rw [checkBlock_marked] at item
  exact Keyed.not_keysAmong_value ((checkBlock_declared_iff rfl false).1 item).2

end Spared

open scoped Net

/-- With strictness forced an item may have another key, and with all blocks marked it may not. -/
theorem passes_item_with_other_key :
    Block.ofSource "" Spared.code = .ok Spared.blocks ∧
      Schema.Passes ⟨.ofBlocks "" Spared.blocks, 0, Listed.block, true⟩ (.whole Spared.value) ∧
      ¬Schema.Passes ⟨(Corpus.ofBlocks "" Spared.blocks).marked, 0, Listed.block.marked, false⟩
        (.whole Spared.value) :=
  ⟨Spared.ofSource_code, Spared.passes_value, Spared.not_passes_value⟩

/-! ### Items with nothing to declare -/

namespace Numbers

open Text

def code : String := "/** @typedef {number} T */\n/** @typedef {T[]} L */"

def line : List Char := "@typedef {number} T".toList

def tag : Tag := { Finite.tag with name := "T", filters := [] }

def block : Block := ⟨.naming tag, "", 1, 1, ""⟩

def blocks : List Block := [block, Listed.block]

def corpus : Corpus := .ofBlocks "" blocks

theorem ofText_line : Tag.ofText .typedef line = .ok tag :=
  Tag.ofText_naming (by cbv) (by cbv) (by cbv) (by cbv) Finite.read_types (by cbv) (by cbv)

theorem ofComment_line : Block.ofComment "" ⟨"/** @typedef {number} T */", 0, 1, 1, ""⟩ = .ok block :=
  Block.ofComment_naming "" (by cbv)
    (Elements.ofLines_naming (by cbv) (by cbv) (by cbv) (by decide) ofText_line)

theorem ofSource_code : Block.ofSource "" code = .ok blocks := by
  have comments : Comment.ofSource code.toList =
      [⟨"/** @typedef {number} T */", 0, 1, 1, ""⟩, ⟨"/** @typedef {T[]} L */", 27, 2, 2, ""⟩] := by
    cbv
  unfold Block.ofSource
  simp only [comments, List.mapM_cons, List.mapM_nil, ofComment_line, Listed.ofComment_line]
  rfl

theorem not_spares_number : ¬corpus.Spares [0] false true (.block block) := by
  intro spares
  cases spares with
  | described _ some => exact some rfl
  | synonym _ _ named inside =>
    cases named
    cases inside with
    | alternative mem inside =>
      cases List.mem_singleton.1 mem
      cases inside with
      | part mem => cases mem
      | name target => cases target

/-- The items have a type whose block is not marked, but it declares no keys. -/
theorem not_spares : ¬corpus.Spares [0] true true (.block Listed.block) := by
  have target : corpus.target? [0] (.named "T" "T") = some ⟨0, 0⟩ := by cbv
  intro spares
  cases spares with
  | described _ some => exact some rfl
  | synonym _ _ named inside =>
    cases named
    cases inside with
    | alternative mem inside =>
      cases List.mem_singleton.1 mem
      cases inside with
      | name target => cases target
      | part mem inside =>
        cases List.mem_singleton.1 mem
        cases inside with
        | part mem => cases mem
        | name target' found inside =>
          cases target.symm.trans target'
          cases found
          exact not_spares_number inside

def value : Value := .list [.int 1]

theorem passes_value [AddressTest] :
    Schema.Passes ⟨corpus.marked, 0, Listed.block.marked, false⟩ (.whole value) := by
  have item : checkBlock corpus.marked [0] [⟨0, 0⟩] [.int 0] block.marked (.int 1) true =
      .ok .yes := by
    rw [checkBlock_marked, checkBlock_of_synonym_eq_yes_iff rfl rfl (show _ = some tag from rfl)]
    exact (check_singleton_eq_none_iff (TypeExpr.passes_nil _)).2 (checkType_of_plain rfl rfl)
  rw [Schema.passes_whole_iff]
  refine ⟨.typedef value, rfl, (Schema.passes_typedef_iff rfl).2 ?_⟩
  rw [checkBlock_marked]
  exact (Listed.checkBlock_iff _ (by cbv) rfl).2 item

end Numbers

/-- A list of numbers is reported alike, although the block of its items is not marked, and passes. -/
theorem marked_of_ofSource_numbers :
    Schema.reportOf ⟨.ofBlocks "" Numbers.blocks, 0, Listed.block, true⟩ (.whole Numbers.value) =
        Schema.reportOf ⟨(Corpus.ofBlocks "" Numbers.blocks).marked, 0, Listed.block.marked, false⟩
          (.whole Numbers.value) ∧
      Schema.Passes ⟨.ofBlocks "" Numbers.blocks, 0, Listed.block, true⟩ (.whole Numbers.value) := by
  have read : (Corpus.ofBlocks "" Numbers.blocks).Read := by
    intro source hs
    cases List.mem_singleton.1 hs
    exact ⟨Numbers.code, Numbers.ofSource_code⟩
  have there : Listed.block ∈ Numbers.blocks := by simp [Numbers.blocks]
  have facts := marked_of_ofSource Numbers.ofSource_code there _ read 0
  have same := facts.1 (.whole Numbers.value) fun subject asked => by
    cases asked
    exact Numbers.not_spares
  obtain ⟨report, told, -⟩ := Numbers.passes_value
  exact ⟨same, report, same.trans told, facts.2 _ report Numbers.passes_value (same.trans told)⟩

end Docblock
