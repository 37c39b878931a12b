import Docblock.Check.Report
import Docblock.Proofs.Check.Break
import Docblock.Proofs.Check.OneSource

/-!
# When a report is given

A block that was read from a source gives a report of every value, unless it has no tag to check
values against, or the check breaks off, or the failure that it comes to cannot be told
(`report_eq_error_iff`). A failure that has no message yet gets one that shows its path, and the
path may lead over a key that has no text.

A fault of the check lies in the size of a number only if the test for web addresses never breaks
off. That is asked for by name (`AddressTest.Answers`), and of nothing but this test.

The tag that a whole block is checked against is the first that is there, in a fixed order, and each
has its own way to fail: types and names through a query, parameters as the keys of an object, where
the message also shows the first key of the path. `Schema.Breaks` follows that order. Uses of a
single tag, or of arguments, have the same conditions without the choice, and they are only shown as
far as the use of the whole block needs them.
-/

namespace Docblock

/-- A block has a tag that values are checked against. -/
def Elements.Describes (elements : Elements) : Prop :=
  elements.enum.isSome = true ∨ elements.type.isSome = true ∨ elements.typedef.isSome = true ∨
    elements.param ≠ []

theorem Block.Filtered.param {block : Block} (h : block.Filtered) :
    ∀ tag ∈ block.elements.param, tag.Filtered := by
  intro tag ht
  exact h tag (by simp [Elements.tags, ht])

/-! ## Failures that cannot be told -/

theorem Report.missingIff_explained (kind : TagKind) (what : String) (depth : Nat)
    (failure : Failure) :
    MissingIff (explained kind what depth (some failure)) (failure.Untold depth) :=
  (failure.missingIff_explain what depth).map _

theorem Report.explained_eq_error_iff {kind : TagKind} {what : String} {depth : Nat}
    {outcome : Option Failure} {fault : Fault} :
    explained kind what depth outcome = .error fault ↔
      fault = .integerTooLong none ∧ ∃ failure, outcome = some failure ∧ failure.Untold depth := by
  cases outcome with
  | none => simp [explained]
  | some failure => simpa using missingIff_explained kind what depth failure fault

/-- A failure below a key cannot be told: the key that its path begins with has no text, or none of
the message has. -/
def Failure.KeyUntold (failure : Failure) : Prop :=
  (∃ key ∈ failure.path.head?, key.Unwritable) ∨ failure.Untold 1

theorem Schema.missingIff_keyText (failure : Failure) :
    MissingIff (keyText failure) (∃ key ∈ failure.path.head?, key.Unwritable) := by
  unfold keyText
  cases failure.path with
  | nil => exact (MissingIff.ok "value").congr (by simp)
  | cons key rest => exact (key.missingIff_text.map _).congr (by simp)

section

variable [AddressTest]

/-- The value does not pass, and the failure cannot be told. -/
def Query.Mute (corpus : Corpus) (registry : Registry) (value : Value) (query : Query) : Prop :=
  ∃ failure, query.verdict corpus registry [] [] value = .ok (.failed failure) ∧ failure.Untold 0

/-- A report about a query is missing: the check breaks off, or its failure cannot be told. -/
def Query.Breaks (corpus : Corpus) (registry : Registry) (value : Value) (query : Query)
    (fault : Fault) : Prop :=
  Docblock.Breaks corpus registry [] [] value query fault ∨
    fault = .integerTooLong none ∧ query.Mute corpus registry value

theorem Query.Breaks.ofNumber (answers : AddressTest.Answers) {corpus : Corpus}
    {registry : Registry} {value : Value} {query : Query} {fault : Fault}
    (h : query.Breaks corpus registry value fault) : fault.OfNumber := by
  rcases h with breaks | ⟨rfl, -⟩
  · exact breaks.ofNumber answers
  · exact .tooLong

namespace Schema

/-- A report about the parameters as keys of an object is missing: the check of a key breaks off,
what is left beside the keys cannot be written, or the failure cannot be told. -/
def KeysBreak (schema : Schema) (value : Value) (fault : Fault) : Prop :=
  let shape := Tag.shape schema.elements.param value schema.strict
  (∃ demand : Demand, demand.Turn schema.corpus schema.registry [] shape.demands ∧
    Docblock.Breaks schema.corpus schema.registry [] demand.steps demand.value
      (.types demand.types demand.filters false) fault) ∨
  fault = .integerTooLong none ∧
    (shape.Unwritten schema.corpus schema.registry [] ∨
      ∃ failure, schema.checkKeys schema.elements.param value = .ok (.failed failure) ∧
        failure.KeyUntold)

/-- A report is missing although the block has a tag to check against. The block is taken as its
enum tag, its type tag, its name or its parameters, whichever is there first. -/
def Breaks (schema : Schema) (value : Value) (fault : Fault) : Prop :=
  match schema.elements.enum, schema.elements.type, schema.elements.typedef with
  | some tag, _, _ | none, some tag, _ =>
    Query.Breaks schema.corpus schema.registry value
      (.types tag.types tag.filters schema.strict) fault
  | none, none, some _ =>
    Query.Breaks schema.corpus schema.registry value (.block schema.block schema.strict) fault
  | none, none, none => schema.KeysBreak value fault

variable {schema : Schema} {value : Value} {fault : Fault}

theorem reportSingle_eq_error_iff {kind : TagKind} {tag : Tag}
    (found : schema.elements.single? kind = some tag) :
    schema.reportSingle kind value = .error fault ↔
      Faults schema.corpus schema.registry [] [] value fault
          (.types tag.types tag.filters schema.strict) ∨
        fault = .integerTooLong none ∧ Query.Mute schema.corpus schema.registry value
          (.types tag.types tag.filters schema.strict) := by
  unfold reportSingle Query.Mute
  simp only [found, bind_eq_error, Report.explained_eq_error_iff, Query.verdict_types_eq_failed]
  refine or_congr Iff.rfl ⟨?_, ?_⟩
  · rintro ⟨outcome, checked, hfault, failure, rfl, untold⟩
    exact ⟨hfault, failure, checked, untold⟩
  · rintro ⟨hfault, failure, checked, untold⟩
    exact ⟨_, checked, hfault, failure, rfl, untold⟩

theorem reportTypedef_eq_error_iff (named : schema.block.typedefTag?.isSome = true) :
    schema.reportTypedef value = .error fault ↔
      Faults schema.corpus schema.registry [] [] value fault
          (.block schema.block schema.strict) ∨
        fault = .integerTooLong none ∧ Query.Mute schema.corpus schema.registry value
          (.block schema.block schema.strict) := by
  obtain ⟨tag, ht⟩ := Option.isSome_iff_exists.1 named
  unfold reportTypedef Query.Mute
  simp only [ht, bind_eq_error, Report.explained_eq_error_iff, Query.verdict]
  refine or_congr Iff.rfl ⟨?_, ?_⟩
  · rintro ⟨verdict, checked, hfault, failure, told, untold⟩
    cases verdict with
    | yes => cases told
    | no =>
      -- The path of a value that is not of the type at all is empty, and never shown.
      cases told
      exact absurd untold.deep (by simp [Failure.ofType])
    | failed other =>
      cases told
      exact ⟨hfault, failure, checked, untold⟩
  · rintro ⟨hfault, failure, checked, untold⟩
    exact ⟨_, checked, hfault, failure, rfl, untold⟩

theorem checkKeys_eq_error_iff {tags : List Tag} :
    schema.checkKeys tags value = .error fault ↔
      (Tag.shape tags value schema.strict).Faults schema.corpus schema.registry [] fault := by
  unfold checkKeys
  split
  · rename_i shape
    rw [shape]
    exact Shape.no_eq_error_iff_faults
  · rename_i demands extra shape
    have missing : ∀ fault, extra = .error fault → fault = .integerTooLong none := by
      rintro fault rfl
      exact absurd shape Tag.extra_ne_error
    exact (members_eq_error_iff missing).trans (by rw [shape])

theorem reportKeys_eq_error_iff {name : String} {kind : TagKind} {tags : List Tag}
    (found : schema.keyTags? name = some (kind, tags)) :
    schema.reportKeys name value = .error fault ↔
      (Tag.shape tags value schema.strict).Faults schema.corpus schema.registry [] fault ∨
        fault = .integerTooLong none ∧
          ∃ failure, schema.checkKeys tags value = .ok (.failed failure) ∧ failure.KeyUntold := by
  have told : ∀ failure, MissingIff (do
      Report.explained kind (← keyText failure) 1 (some failure)) failure.KeyUntold := fun failure =>
    (missingIff_keyText failure).bind fun what => Report.missingIff_explained kind what 1 failure
  unfold reportKeys
  simp only [found]
  rw [bind_eq_error, checkKeys_eq_error_iff]
  refine or_congr Iff.rfl ⟨?_, ?_⟩
  · rintro ⟨verdict, checked, faulty⟩
    cases verdict with
    | yes => cases faulty
    | no =>
      obtain ⟨-, failure, other, untold⟩ := Report.explained_eq_error_iff.1 faulty
      cases other
      exact absurd untold.deep (by simp [Failure.ofType])
    | failed failure =>
      obtain ⟨hfault, untold⟩ := (told failure fault).1 faulty
      exact ⟨hfault, failure, checked, untold⟩
  · rintro ⟨hfault, failure, checked, untold⟩
    exact ⟨_, checked, (told failure fault).2 ⟨hfault, untold⟩⟩

/-- The first tag of a block that a value is checked against, or its name, breaks off as `Breaks`
says. -/
theorem query_eq_error_iff_breaks
    (blocks : ∀ ref block, schema.corpus.block? ref = some block → block.Filtered)
    {query : Query} (filtered : query.Filtered) (named : query.Named) :
    (Faults schema.corpus schema.registry [] [] value fault query ∨
        fault = .integerTooLong none ∧ query.Mute schema.corpus schema.registry value) ↔
      query.Breaks schema.corpus schema.registry value fault :=
  or_congr (faults_iff_breaks blocks query filtered named) Iff.rfl

/-- A check against parameters breaks off just as `KeysBreak` says. -/
theorem reportParam_eq_error_iff_breaks
    (blocks : ∀ ref block, schema.corpus.block? ref = some block → block.Filtered)
    (filtered : schema.block.Filtered) :
    schema.reportKeys TagKind.param.name value = .error fault ↔ schema.KeysBreak value fault := by
  have found : schema.keyTags? TagKind.param.name = some (.param, schema.elements.param) :=
    if_pos rfl
  have one : ∀ demand : Demand, demand.Turn schema.corpus schema.registry []
      (Tag.shape schema.elements.param value schema.strict).demands →
      (checkDemand schema.corpus schema.registry [] demand = .error fault ↔
        Docblock.Breaks schema.corpus schema.registry [] demand.steps demand.value
          (.types demand.types demand.filters false) fault) := by
    intro demand turn
    have hf := Tag.filtered_of_mem_demands filtered.param turn.mem
    exact faults_iff_breaks blocks (.types _ _ false) ⟨hf.allowed, hf.types⟩ trivial
  rw [reportKeys_eq_error_iff found, KeysBreak, Shape.Faults, or_assoc, ← and_or_left]
  refine or_congr ⟨?_, ?_⟩ Iff.rfl
  · rintro ⟨demand, turn, faulty⟩
    exact ⟨demand, turn, (one demand turn).1 faulty⟩
  · rintro ⟨demand, turn, inside⟩
    exact ⟨demand, turn, (one demand turn).2 inside⟩

/-- A report is missing where there is no tag to check against, or as `Breaks` says. -/
theorem report_eq_error_iff_breaks
    (blocks : ∀ ref block, schema.corpus.block? ref = some block → block.Filtered)
    (filtered : schema.block.Filtered) :
    schema.report value = .error fault ↔
      (¬schema.elements.Describes ∧ fault = .schema .noSchemaTag (some schema.block.location)) ∨
      schema.elements.Describes ∧ schema.Breaks value fault := by
  have single : ∀ tag : Tag, tag ∈ schema.elements.tags →
      (Faults schema.corpus schema.registry [] [] value fault
          (.types tag.types tag.filters schema.strict) ∨
        fault = .integerTooLong none ∧ Query.Mute schema.corpus schema.registry value
          (.types tag.types tag.filters schema.strict) ↔
        Query.Breaks schema.corpus schema.registry value
          (.types tag.types tag.filters schema.strict) fault) := fun tag ht =>
    query_eq_error_iff_breaks blocks ⟨(filtered tag ht).allowed, (filtered tag ht).types⟩ trivial
  -- The first kind of tag that the block has decides, in the same order on both sides.
  unfold report Breaks Elements.Describes
  cases enum : schema.elements.enum with
  | some tag =>
    have found : schema.elements.single? .enum = some tag := enum
    simp [reportSingle_eq_error_iff found, single tag (by simp [Elements.tags, enum])]
  | none =>
    cases type : schema.elements.type with
    | some tag =>
      have found : schema.elements.single? .type = some tag := type
      simp [reportSingle_eq_error_iff found, single tag (by simp [Elements.tags, type])]
    | none =>
      cases typedef : schema.elements.typedef with
      | some tag =>
        have block : schema.block.elements.typedef = some tag := typedef
        have named : Query.Named (.block schema.block schema.strict) := by
          simp [Query.Named, Block.typedefTag?, block]
        have of_block : Query.Filtered (.block schema.block schema.strict) := filtered
        simp [reportTypedef_eq_error_iff named, query_eq_error_iff_breaks blocks of_block named]
      | none =>
        by_cases bare : schema.elements.param = []
        · simp [bare, eq_comm]
        · simp [bare, reportParam_eq_error_iff_breaks blocks filtered]

/-- With a test for web addresses that never breaks off, the fault lies in the size of a number. -/
theorem Breaks.ofNumber (answers : AddressTest.Answers) (h : schema.Breaks value fault) :
    fault.OfNumber := by
  unfold Breaks at h
  split at h
  · exact h.ofNumber answers
  · exact h.ofNumber answers
  · exact h.ofNumber answers
  · rcases h with ⟨demand, -, breaks⟩ | ⟨rfl, -⟩
    · exact breaks.ofNumber answers
    · exact .tooLong

end Schema

/-- A block of a source gives a report of every value, unless it has no tag to check against, or a
whole number is in the way: one that is too large for a filter, or one that the message has to show
and that has no text. Whether the value passes is told in the same cases. -/
theorem report_eq_error_iff (answers : AddressTest.Answers) {file code : String}
    {blocks : List Block} (parsed : Block.ofSource file code = .ok blocks) {block : Block}
    (mem : block ∈ blocks) (forceStrict : Bool) (value : Value) (fault : Fault) :
    let schema : Schema := ⟨.ofBlocks file blocks, 0, block, forceStrict⟩
    (schema.report value = .error fault ↔
      (¬block.elements.Describes ∧ fault = .schema .noSchemaTag (some block.location)) ∨
      block.elements.Describes ∧ fault.OfNumber ∧ schema.Breaks value fault) ∧
    (schema.approves value = .error fault ↔ schema.report value = .error fault) := by
  intro schema
  have all : ∀ ref block, schema.corpus.block? ref = some block → block.Filtered :=
    (settled_ofBlocks parsed).filtered
  constructor
  · have number : fault.OfNumber ∧ schema.Breaks value fault ↔ schema.Breaks value fault :=
      and_iff_right_of_imp (Schema.Breaks.ofNumber answers)
    rw [number]
    exact Schema.report_eq_error_iff_breaks all (Block.filtered_of_ofSource parsed mem)
  · unfold Schema.approves
    rw [bind_eq_error]
    exact ⟨fun h => h.resolve_right fun ⟨_, _, other⟩ => pure_ne_error other, .inl⟩

end

/-! ## A number that is too large to be asked whether it is finite -/

namespace Finite

def code : String := "/** @typedef {number} Size {finite: true} */"

def line : List Char := "@typedef {number} Size {finite: true}".toList

def tag : Tag where
  kind := .typedef
  typeText := "number"
  types := [.primitive "number" .number]
  name := "Size"
  description := ""
  filters := [⟨"finite", .bool true, ""⟩]
  optional := false
  defaultValue := none
  member := none
  place := 0

def block : Block :=
  ⟨⟨"", ⟨false, false⟩, false, none, none, some tag, none, none, none, [], [], []⟩, "", 1, 1, ""⟩

theorem read_types : TypeExpr.read ['n', 'u', 'm', 'b', 'e', 'r'] = .ok tag.types := by
  rw [TypeExpr.read_of_form (by cbv) (by cbv)]
  cbv

theorem ofText_line : Tag.ofText .typedef line = .ok tag :=
  Tag.ofText_naming (by cbv) (by cbv) (by cbv) (by cbv) read_types (by cbv) (by cbv)

theorem ofSource_code : Block.ofSource "" code = .ok [block] := by
  have comment : Block.ofComment "" ⟨code, 0, 1, 1, ""⟩ = .ok block :=
    Block.ofComment_naming "" (by cbv)
      (Elements.ofLines_naming (by cbv) (by cbv) (by cbv) (by decide) ofText_line)
  exact Block.ofSource_of_comment (by cbv) comment

theorem breaks_block [AddressTest] (registry : Registry) {n : Int} (vast : Vast n) (strict : Bool) :
    Breaks (Corpus.ofBlocks "" [block]) registry [] [] (.int n) (.block block strict)
      .integerTooLarge := by
  have matched : checkType (Corpus.ofBlocks "" [block]) registry [] []
      (.primitive "number" .number) (.int n) strict = .ok .yes :=
    checkType_of_plain rfl rfl
  have breaks : (TypeExpr.primitive "number" .number).Breaks tag.filters (.int n)
      .integerTooLarge :=
    ⟨.number, rfl, [], _, [], rfl, rfl, .finite, rfl, .tooLarge (.finite vast)⟩
  exact .synonym rfl rfl rfl (.filters ⟨[], [], rfl, by simp⟩ matched breaks)

end Finite

open scoped Net

/-- No report is given of a whole number that is too large for the filter. -/
theorem report_eq_error_iff_finite :
    Block.ofSource "" Finite.code = .ok [Finite.block] ∧
      Schema.report ⟨.ofBlocks "" [Finite.block], 0, Finite.block, false⟩
        (.int (2 ^ 1024 : Nat)) = .error .integerTooLarge := by
  refine ⟨Finite.ofSource_code, ?_⟩
  have iff := (report_eq_error_iff Net.answers_browser Finite.ofSource_code
    (List.mem_singleton.2 rfl) false (.int (2 ^ 1024 : Nat)) .integerTooLarge).1
  have vast : Vast (2 ^ 1024 : Nat) := vast_natCast (by omega)
  have describes : Finite.block.elements.Describes := .inr (.inr (.inl rfl))
  exact iff.2 (.inr ⟨describes, .tooLarge, .inl (Finite.breaks_block [0] vast false)⟩)

end Docblock
