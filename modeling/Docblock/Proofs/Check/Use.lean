import Docblock.Proofs.Check.Answer
import Docblock.Proofs.Check.Result

/-!
# Uses of blocks

What a use of a block checks (`Schema.subjectOf`), and when the value passes (`Schema.Passes`): a
use of a whole block is one of the other uses, and each of these passes just when one check of the
checker does. Arguments are checked against the parameters one after the other, each parameter
against the argument at its place; they pass together when each parameter lets the argument at its
place pass (`Schema.checkArguments_eq_none_iff`).

To pass is to give a report without a failure. A use that gives no report does not pass, whether the
block was not fit for it or the check broke off, and the two are not told apart here. A failure that
cannot be told does not pass either, so messages never make a difference to passing
(`approved_explained_iff`).
-/

namespace Docblock

/-- A report is given, and the value passes. -/
def Approved (answer : Except Fault Report) : Prop :=
  ∃ report, answer = .ok report ∧ report.passed = true

theorem approved_bind_iff {α : Type} {checked : Except Fault α} {tell : α → Except Fault Report} :
    Approved (checked >>= tell) ↔ ∃ outcome, checked = .ok outcome ∧ Approved (tell outcome) := by
  unfold Approved
  constructor
  · rintro ⟨report, told, passed⟩
    obtain ⟨outcome, hc, ht⟩ := bind_eq_ok.1 told
    exact ⟨outcome, hc, report, ht, passed⟩
  · rintro ⟨outcome, hc, report, ht, passed⟩
    exact ⟨report, bind_eq_ok.2 ⟨outcome, hc, ht⟩, passed⟩

theorem approved_pure_iff {report : Report} : Approved (pure report) ↔ report.passed = true := by
  constructor
  · rintro ⟨other, h, passed⟩
    rw [pure_eq_ok] at h
    exact h ▸ passed
  · exact fun passed => ⟨report, rfl, passed⟩

theorem not_approved_error {fault : Fault} : ¬Approved (.error fault) := by
  rintro ⟨report, h, -⟩
  cases h

/-- A report with a failure is not approved, whether the failure can be told or not. -/
theorem approved_explained_iff {kind : TagKind} {what : String} {depth : Nat}
    {outcome : Option Failure} :
    Approved (Report.explained kind what depth outcome) ↔ outcome = none := by
  constructor
  · rintro ⟨report, given, passed⟩
    exact (Report.passed_of_explained given).1 passed
  · rintro rfl
    exact ⟨⟨some kind, none⟩, rfl, rfl⟩

/-- The value that a use checks. Arguments are no one value. -/
def Use.value? : Use → Option Value
  | .arguments _ => none
  | .keys _ value | .tag _ value | .typedef value | .whole value => some value

/-- What a use of a whole block is. -/
def Elements.use? (elements : Elements) (value : Value) : Option Use :=
  if elements.enum.isSome then some (.tag TagKind.enum.name value)
  else if elements.type.isSome then some (.tag TagKind.type.name value)
  else if elements.typedef.isSome then some (.typedef value)
  else if !elements.param.isEmpty then some (.keys TagKind.param.name value)
  else none

theorem Elements.use?_ne_whole {elements : Elements} {value other : Value} :
    elements.use? value ≠ some (.whole other) := by
  unfold use?
  split_ifs <;> simp

theorem Elements.value?_of_use? {elements : Elements} {value : Value} {use : Use}
    (h : elements.use? value = some use) : use.value? = some value := by
  unfold use? at h
  split_ifs at h <;> cases h <;> rfl

/-- A use of a whole block is one of the others. -/
@[elab_as_elim]
theorem Use.induction (elements : Elements) {motive : Use → Prop}
    (arguments : ∀ args, motive (.arguments args))
    (keys : ∀ name value, motive (.keys name value))
    (tag : ∀ name value, motive (.tag name value))
    (typedef : ∀ value, motive (.typedef value))
    (whole : ∀ value, (∀ use, elements.use? value = some use → motive use) →
      motive (.whole value))
    (use : Use) : motive use := by
  cases use with
  | arguments args => exact arguments args
  | keys name value => exact keys name value
  | tag name value => exact tag name value
  | typedef value => exact typedef value
  | whole value =>
    refine whole value fun use found => ?_
    cases use with
    | arguments args => exact arguments args
    | keys name value => exact keys name value
    | tag name value => exact tag name value
    | typedef value => exact typedef value
    | whole other => exact absurd found Elements.use?_ne_whole

namespace Schema

variable {schema : Schema} {value : Value}

/-- What a use checks. Arguments are checked against the parameters one by one. -/
def subjectOf (schema : Schema) : Use → Option Subject
  | .arguments _ => some (.keys schema.elements.param)
  | .keys name _ => (schema.keyTags? name).map fun spoken => .keys spoken.2
  | .tag name _ => do
    let kind ← TagKind.singles.find? (·.name = name)
    let tag ← schema.elements.single? kind
    return .types tag.types
  | .typedef _ => schema.block.typedefTag?.map fun _ => .block schema.block
  | .whole _ => schema.subject?

theorem subject?_eq (schema : Schema) (value : Value) :
    schema.subject? = (schema.elements.use? value).bind schema.subjectOf := by
  have enum : TagKind.singles.find? (·.name = TagKind.enum.name) = some .enum := by decide
  have type : TagKind.singles.find? (·.name = TagKind.type.name) = some .type := by decide
  unfold subject? Elements.use?
  split
  · rename_i found
    obtain ⟨tag, ht⟩ := Option.isSome_iff_exists.1 found
    simp [subjectOf, enum, Elements.single?, ht]
  split
  · rename_i found
    obtain ⟨tag, ht⟩ := Option.isSome_iff_exists.1 found
    simp [subjectOf, type, Elements.single?, ht]
  split
  · rename_i found
    obtain ⟨tag, ht⟩ := Option.isSome_iff_exists.1 found
    unfold elements at ht
    simp [subjectOf, Block.typedefTag?, ht]
  split
  · simp [subjectOf, keyTags?]
  · rfl

/-- Only strictly there can be too many arguments. -/
theorem excess?_eq_none_iff {args : List Value} :
    schema.excess? args = none ↔
      (schema.strict = true → args.length ≤ arity schema.elements.param) := by
  unfold excess?
  dsimp only
  split
  · rename_i more
    simp only [Bool.and_eq_true, decide_eq_true_eq] at more
    simp [more.1, more.2]
  · rename_i few
    simp only [Bool.and_eq_true, decide_eq_true_eq, not_and, not_lt] at few
    simpa using few

/-! ## When a use passes -/

section

variable [AddressTest]

/-- A use passes: a report is given, and the value passes. -/
def Passes (schema : Schema) (use : Use) : Prop := Approved (schema.reportOf use)

theorem report_eq (schema : Schema) (value : Value) :
    schema.report value = match schema.elements.use? value with
      | some use => schema.reportOf use
      | none => .error (.schema .noSchemaTag (some schema.block.location)) := by
  unfold report Elements.use?
  split
  · rfl
  split
  · rfl
  split
  · rfl
  split <;> rfl

theorem passes_whole_iff :
    schema.Passes (.whole value) ↔
      ∃ use, schema.elements.use? value = some use ∧ schema.Passes use := by
  unfold Passes
  rw [reportOf, report_eq]
  cases schema.elements.use? value with
  | none => simp [not_approved_error]
  | some use => simp

theorem passes_arguments_iff {args : List Value} :
    schema.Passes (.arguments args) ↔
      schema.checkArguments args schema.elements.param = .ok none ∧ schema.excess? args = none := by
  unfold Passes
  rw [reportOf, reportArguments, approved_bind_iff]
  constructor
  · rintro ⟨outcome, checked, approved⟩
    rw [approved_explained_iff] at approved
    cases outcome with
    | some failure => cases approved
    | none => exact ⟨checked, approved⟩
  · rintro ⟨checked, fits⟩
    exact ⟨none, checked, approved_explained_iff.2 fits⟩

theorem passes_keys_iff {name : String} {kind : TagKind} {tags : List Tag}
    (found : schema.keyTags? name = some (kind, tags)) :
    schema.Passes (.keys name value) ↔ schema.checkKeys tags value = .ok .yes := by
  unfold Passes
  rw [reportOf, reportKeys, found, approved_bind_iff]
  constructor
  · rintro ⟨verdict, checked, approved⟩
    cases verdict with
    | yes => exact checked
    | no => cases approved_explained_iff.1 approved
    | failed failure =>
      obtain ⟨what, -, approved⟩ := approved_bind_iff.1 approved
      cases approved_explained_iff.1 approved
  · exact fun checked => ⟨.yes, checked, approved_pure_iff.2 rfl⟩

theorem not_passes_keys {name : String} (unknown : schema.keyTags? name = none) :
    ¬schema.Passes (.keys name value) := by
  unfold Passes
  rw [reportOf, reportKeys, unknown]
  exact not_approved_error

theorem passes_tag_iff {name : String} {kind : TagKind} {tag : Tag}
    (meant : TagKind.singles.find? (·.name = name) = some kind)
    (found : schema.elements.single? kind = some tag) :
    schema.Passes (.tag name value) ↔
      check schema.corpus schema.registry [] [] tag.types value tag.filters schema.strict =
        .ok none := by
  unfold Passes
  rw [reportOf, reportTag, meant]
  dsimp only
  rw [reportSingle, found, approved_bind_iff]
  constructor
  · rintro ⟨outcome, checked, approved⟩
    rw [approved_explained_iff] at approved
    exact approved ▸ checked
  · exact fun checked => ⟨none, checked, approved_explained_iff.2 rfl⟩

theorem not_passes_tag {name : String}
    (unknown : TagKind.singles.find? (·.name = name) = none) : ¬schema.Passes (.tag name value) := by
  unfold Passes
  rw [reportOf, reportTag, unknown]
  exact not_approved_error

/-- Without the tag only the absent value passes. -/
theorem passes_tag_iff_isUndefined {name : String} {kind : TagKind}
    (meant : TagKind.singles.find? (·.name = name) = some kind)
    (missing : schema.elements.single? kind = none) :
    schema.Passes (.tag name value) ↔ value.isUndefined = true := by
  unfold Passes
  rw [reportOf, reportTag, meant]
  dsimp only
  rw [reportSingle, missing]
  refine approved_explained_iff.trans ?_
  cases value.isUndefined <;> simp

theorem passes_typedef_iff (named : schema.block.typedefTag?.isSome = true) :
    schema.Passes (.typedef value) ↔
      checkBlock schema.corpus schema.registry [] [] schema.block value schema.strict =
        .ok .yes := by
  obtain ⟨tag, ht⟩ := Option.isSome_iff_exists.1 named
  unfold Passes
  rw [reportOf, reportTypedef, ht, approved_bind_iff]
  constructor
  · rintro ⟨verdict, checked, approved⟩
    rw [approved_explained_iff, Verdict.failure?_eq_none] at approved
    exact approved ▸ checked
  · exact fun checked => ⟨.yes, checked, approved_explained_iff.2 rfl⟩

/-- A block of a function takes what can be called. -/
theorem passes_typedef_iff_isCallable (schema : Schema)
    (function : schema.block.elements.callback.isSome = true) :
    schema.Passes (.typedef value) ↔ value.isCallable = true := by
  have named : schema.block.typedefTag?.isSome = true := by
    unfold Block.typedefTag?
    cases schema.block.elements.typedef with
    | none => exact function
    | some tag => rfl
  rw [passes_typedef_iff named, checkBlock_of_callback function]
  cases value.isCallable <;> simp

theorem not_passes_typedef (nameless : schema.block.typedefTag? = none) :
    ¬schema.Passes (.typedef value) := by
  unfold Passes
  rw [reportOf, reportTypedef, nameless]
  exact not_approved_error

end

end Schema

/-! ## Parameters and the arguments at their places -/

/-- The first failure among outcomes. Nothing after a fault counts. -/
def firstFailure : List (Except Fault (Option Failure)) → Except Fault (Option Failure)
  | [] => .ok none
  | outcome :: rest => do
    match ← outcome with
    | some failure => return some failure
    | none => firstFailure rest

theorem firstFailure_eq_none_iff {outcomes : List (Except Fault (Option Failure))} :
    firstFailure outcomes = .ok none ↔ ∀ outcome ∈ outcomes, outcome = .ok none := by
  induction outcomes with
  | nil => simp [firstFailure]
  | cons outcome rest ih =>
    rw [firstFailure, bind_eq_ok, List.forall_mem_cons, ← ih]
    constructor
    · rintro ⟨told, here, after⟩
      cases told with
      | some failure => cases after
      | none => exact ⟨here, after⟩
    · rintro ⟨here, after⟩
      exact ⟨none, here, after⟩

/-- The argument at a place. One that is not given reads as the absent value. -/
def argumentAt (args : List Value) (place : Nat) : Value := args[place]?.getD .undefined

namespace Schema

variable {schema : Schema} {args : List Value} {tags : List Tag} {tag : Tag}

/-- What a parameter speaks of in an argument, the whole of it or a member, and the keys that lead
there. -/
def spokenOf (arg : Value) (tag : Tag) : Value × List Value :=
  match tag.member with
  | some (_, member) => (arg.member (.string member), [.string member])
  | none => (arg, [])

theorem argumentOf_eq (args : List Value) (tag : Tag) :
    argumentOf args tag = spokenOf (argumentAt args tag.place) tag := by
  unfold argumentOf spokenOf argumentAt
  cases tag.member with
  | none => rfl
  | some parts => rfl

section

variable [AddressTest]

/-- Check an argument against a parameter. -/
def checkArgument (schema : Schema) (arg : Value) (tag : Tag) : Except Fault (Option Failure) :=
  let (value, steps) := spokenOf arg tag
  if tag.optional && value.isUndefined then .ok none
  else check schema.corpus schema.registry [] steps tag.types value tag.filters false

/-- The first failure of arguments is that of the first parameter that refuses the argument at its
place. -/
theorem checkArguments_eq (schema : Schema) (args : List Value) (tags : List Tag) :
    schema.checkArguments args tags =
      firstFailure (tags.map fun tag => schema.checkArgument (argumentAt args tag.place) tag) := by
  induction tags with
  | nil => rfl
  | cons tag rest ih =>
    rw [checkArguments, List.map_cons, firstFailure, checkArgument, argumentOf_eq, ← ih]
    rcases spokenOf (argumentAt args tag.place) tag with ⟨value, steps⟩
    dsimp only
    split
    · rfl
    · rfl

/-- Arguments pass just when every parameter lets the argument at its place pass. -/
theorem checkArguments_eq_none_iff :
    schema.checkArguments args tags = .ok none ↔
      ∀ tag ∈ tags, schema.checkArgument (argumentAt args tag.place) tag = .ok none := by
  rw [checkArguments_eq, firstFailure_eq_none_iff]
  exact List.forall_mem_map

end

end Schema

end Docblock
