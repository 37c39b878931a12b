import Docblock.Check.Report
import Docblock.Net.Url
import Docblock.Proofs.Check.Trail

/-!
# What reports tell

A report of a value that fails tells where: the keys of its path lead from the checked value to the
value that it tells, and they are those of a trail (`path_of_failure`).

A report is a failure of the checker with a message, which is written at the end. An explanation
changes nothing else (`Failure.exists_of_explain`), so what the checker knows of a failure is known
of the report, and the uses of a block differ only in what they check (`Schema.subject?`).

A report that cannot be written is not treated here, nor is what stands in the message. Failures
about undeclared keys tell no value, and their path ends at the object that has the keys.
-/

namespace Docblock

section

variable {value : Value} {failure told : Failure}

/-- What a whole block is checked against. -/
def Schema.subject? (schema : Schema) : Option Subject :=
  if schema.elements.enum.isSome then schema.elements.enum.map fun tag => .types tag.types
  else if schema.elements.type.isSome then schema.elements.type.map fun tag => .types tag.types
  else if schema.elements.typedef.isSome then some (.block schema.block)
  else if !schema.elements.param.isEmpty then some (.keys schema.elements.param)
  else none

/-- The message of a failure is all that an explanation changes. -/
theorem Failure.exists_of_explain {what : String} {depth : Nat}
    (h : told.explain what depth = .ok failure) : ∃ message, failure = { told with message } := by
  unfold explain at h
  split at h
  · obtain ⟨message, -, h⟩ := bind_eq_ok.1 h
    cases h
    exact ⟨message, rfl⟩
  · cases h
    exact ⟨_, rfl⟩

theorem Report.explained_eq_ok {kind : TagKind} {what : String} {depth : Nat}
    {outcome : Option Failure} {report : Report} :
    explained kind what depth outcome = .ok report ↔
      (outcome = none ∧ report = ⟨some kind, none⟩) ∨ ∃ told failure, outcome = some told ∧
        told.explain what depth = .ok failure ∧ report = ⟨some kind, some failure⟩ := by
  cases outcome with
  | none => simp [explained, @eq_comm _ report]
  | some told => simp [explained, map_eq_ok, @eq_comm _ report]

theorem Report.passed_of_explained {kind : TagKind} {what : String} {depth : Nat}
    {outcome : Option Failure} {report : Report}
    (given : explained kind what depth outcome = .ok report) :
    report.passed = true ↔ outcome = none := by
  rcases explained_eq_ok.1 given with ⟨rfl, rfl⟩ | ⟨told, failure, rfl, -, rfl⟩ <;> simp [passed]

variable [AddressTest]

/-- A report tells a failure that has a trail in a subject. -/
def Report.Tells (report : Report) (schema : Schema) (value : Value) (subject : Subject) : Prop :=
  ∀ failure, report.failure = some failure → ∃ told what depth,
    told.explain what depth = .ok failure ∧
      Trail schema.corpus told schema.registry [] value subject

theorem Report.tells_explained {schema : Schema} {kind : TagKind} {what : String} {depth : Nat}
    {outcome : Option Failure} {subject : Subject} {report : Report}
    (given : Report.explained kind what depth outcome = .ok report)
    (h : ∀ told, outcome = some told →
      Trail schema.corpus told schema.registry [] value subject) :
    report.Tells schema value subject := by
  intro failure hf
  rcases Report.explained_eq_ok.1 given with ⟨-, rfl⟩ | ⟨told, shown, ht, explained, rfl⟩
  · cases hf
  · cases hf
    exact ⟨told, what, depth, explained, h told ht⟩

namespace Schema

variable {schema : Schema} {report : Report}

theorem tells_reportSingle (kind : TagKind) {tag : Tag}
    (found : schema.elements.single? kind = some tag)
    (h : schema.reportSingle kind value = .ok report) :
    report.Tells schema value (.types tag.types) := by
  unfold reportSingle at h
  rw [found] at h
  obtain ⟨outcome, checked, h⟩ := bind_eq_ok.1 h
  refine Report.tells_explained h fun told ht => ?_
  subst ht
  exact trail_of_fails (.types _) ⟨_, _, checked⟩

theorem tells_reportTypedef (h : schema.reportTypedef value = .ok report) :
    report.Tells schema value (.block schema.block) := by
  unfold reportTypedef at h
  split at h
  · exact absurd h refuse_ne_ok
  · obtain ⟨verdict, checked, h⟩ := bind_eq_ok.1 h
    refine Report.tells_explained h fun told ht => ?_
    cases verdict with
    | yes => cases ht
    | no =>
      cases ht
      exact .here (Failure.standsAt_ofType _ _ _ _)
    | failed failure =>
      cases ht
      exact trail_of_fails (.block _) ⟨_, checked⟩

theorem memberVerdict_of_checkKeys {tags : List Tag} {verdict : Verdict}
    (h : schema.checkKeys tags value = .ok verdict) :
    MemberVerdict schema.corpus schema.registry [] (Tag.shape tags value schema.strict)
      verdict := by
  unfold checkKeys at h
  split at h
  · rename_i hs
    cases h
    exact hs ▸ .mismatch
  · rename_i hs
    exact hs ▸ memberVerdict_of_checkAll h

theorem tells_reportKeys {kind : TagKind} {name : String} {tags : List Tag}
    (found : schema.keyTags? name = some (kind, tags))
    (h : schema.reportKeys name value = .ok report) :
    report.Tells schema value (.keys tags) := by
  unfold reportKeys at h
  rw [found] at h
  obtain ⟨verdict, checked, h⟩ := bind_eq_ok.1 h
  cases verdict with
  | yes =>
    rw [pure_eq_ok] at h
    subst h
    intro failure hf
    cases hf
  | no =>
    refine Report.tells_explained h fun told ht => ?_
    cases ht
    exact .here (Failure.standsAt_ofType _ _ _ _)
  | failed failure =>
    obtain ⟨what, -, h⟩ := bind_eq_ok.1 h
    refine Report.tells_explained h fun told ht => ?_
    cases ht
    have fails : Fails schema.corpus schema.registry [] [] value failure (.keys tags) :=
      ⟨_, _, memberVerdict_of_checkKeys checked, rfl⟩
    exact trail_of_fails (.keys tags) fails

/-- A failure of a block has a trail in what the block is checked against. -/
theorem tells_report (h : schema.report value = .ok report) :
    ∃ subject, schema.subject? = some subject ∧ report.Tells schema value subject := by
  unfold Schema.report at h
  unfold subject?
  split at h
  · rename_i henum
    obtain ⟨tag, ht⟩ := Option.isSome_iff_exists.1 henum
    rw [if_pos henum, ht]
    exact ⟨_, rfl, tells_reportSingle .enum ht h⟩
  · rename_i henum
    rw [if_neg henum]
    split at h
    · rename_i htype
      obtain ⟨tag, ht⟩ := Option.isSome_iff_exists.1 htype
      rw [if_pos htype, ht]
      exact ⟨_, rfl, tells_reportSingle .type ht h⟩
    · rename_i htype
      rw [if_neg htype]
      split at h
      · rename_i htypedef
        rw [if_pos htypedef]
        exact ⟨_, rfl, tells_reportTypedef h⟩
      · rename_i htypedef
        rw [if_neg htypedef]
        split at h
        · rename_i hparam
          rw [if_pos hparam]
          have found : schema.keyTags? TagKind.param.name = some (.param, schema.elements.param) :=
            if_pos rfl
          exact ⟨_, rfl, tells_reportKeys found h⟩
        · cases h

end Schema

theorem Trail.points_of_explained {corpus : Corpus} {registry : Registry} {subject : Subject}
    {what : String} {depth : Nat} (h : Trail corpus told registry [] value subject)
    (hf : told.explain what depth = .ok failure) (proper : value.Proper)
    (kind : failure.kind ≠ .strict) : value.Points failure.path failure.value := by
  obtain ⟨message, rfl⟩ := Failure.exists_of_explain hf
  obtain ⟨keys, hpath, points⟩ := h.points proper kind
  rw [List.nil_append] at hpath
  exact hpath ▸ points

/-- The path of a failure is that of a trail, and unless the failure is about undeclared keys it
leads from the checked value to the value that is told. -/
theorem path_of_failure :
    (∀ (corpus : Corpus) (registry : Registry) (types : List TypeExpr) (value : Value)
      (filters : List Filter) (report : Report) (failure : Failure),
      corpus.checkTypes registry types value filters = .ok report →
      report.failure = some failure →
      Trail corpus failure registry [] value (.types types) ∧
        (value.Proper → failure.kind ≠ .strict → value.Points failure.path failure.value)) ∧
    ∀ (schema : Schema) (value : Value) (report : Report) (failure : Failure),
      schema.report value = .ok report → report.failure = some failure →
      (∃ subject told what depth, schema.subject? = some subject ∧
        told.explain what depth = .ok failure ∧
        Trail schema.corpus told schema.registry [] value subject) ∧
        (value.Proper → failure.kind ≠ .strict → value.Points failure.path failure.value) := by
  constructor
  · intro corpus registry types value filters report failure h hf
    obtain ⟨outcome, checked, h⟩ := bind_eq_ok.1 h
    rw [pure_eq_ok] at h
    subst h
    cases hf
    have trail : Trail corpus failure registry [] value (.types types) :=
      trail_of_fails (.types types) ⟨_, _, checked⟩
    refine ⟨trail, fun proper kind => ?_⟩
    obtain ⟨keys, hpath, points⟩ := trail.points proper kind
    rw [List.nil_append] at hpath
    exact hpath ▸ points
  · intro schema value report failure h hf
    obtain ⟨subject, hs, tells⟩ := Schema.tells_report h
    obtain ⟨told, what, depth, ht, trail⟩ := tells failure hf
    exact ⟨⟨subject, told, what, depth, hs, ht, trail⟩, trail.points_of_explained ht⟩

end

/-! ## A list with an item of another type

The path of the report is the place of the item, and the value it tells is the item and not the
list. -/

namespace Misfit

def types : List TypeExpr := [.array "number[]" [.primitive "number" .number]]

def value : Value := .list [.int 1, .string "one"]

def failure : Failure := .ofType "number" (.string "one") [.int 1] ""

/-- The failure as it is reported. -/
def told : Failure :=
  { failure with
    message := "Expected value to be of type number, but the actual type is string at [1]" }

def tag : Tag where
  kind := .type
  typeText := "number[]"
  types := types
  name := ""
  description := ""
  filters := []
  optional := false
  defaultValue := none
  member := none
  place := 0

def schema : Schema where
  corpus := ⟨[]⟩
  source := 0
  block :=
    ⟨⟨"", ⟨false, false⟩, false, some tag, none, none, none, none, none, [], [], []⟩, "", 1, 1, ""⟩
  forceStrict := false

theorem explained :
    Report.explained .type "value" 0 (some failure) = .ok ⟨some .type, some told⟩ := by
  rfl

theorem check_types [AddressTest] (registry : Registry) :
    check ⟨[]⟩ registry [] [] types value [] false = .ok (some failure) := by
  have one : checkDemand ⟨[]⟩ registry []
      ⟨[.int 0], .int 1, [.primitive "number" .number], []⟩ = .ok none := by
    rw [checkDemand, check]
    exact checkAny_of_yes (checkType_of_plain rfl rfl)
  have other : checkDemand ⟨[]⟩ registry []
      ⟨[.int 1], .string "one", [.primitive "number" .number], []⟩ = .ok (some failure) := by
    rw [checkDemand, check]
    refine (checkAny_of_refused (checkType_of_mismatch rfl rfl) rfl).trans ?_
    rw [checkAny]
    rfl
  have items : checkType ⟨[]⟩ registry [] [] (.array "number[]" [.primitive "number" .number])
      value false = .ok (.failed failure) := by
    have below : ∀ demand ∈ Demand.ofItems [.primitive "number" .number] [.int 1, .string "one"],
        demand.value.rank < value.rank := fun demand hd => Demand.rank_of_mem_ofItems rfl hd
    rw [checkType_of_members rfl rfl below]
    exact bind_eq_ok.2
      ⟨some failure, (checkAll_of_none one).trans (checkAll_of_some other), rfl⟩
  rw [check]
  refine (checkAny_of_refused items rfl).trans ?_
  rw [checkAny]
  rfl

end Misfit

open scoped Net

/-- The second item of a list of numbers is a text, and the path leads to it. -/
theorem path_of_failure_misfit :
    Misfit.value.Points [.int 1] (.string "one") ∧
      ∃ report, Misfit.schema.report Misfit.value = .ok report ∧
        ∃ subject, Misfit.schema.subject? = some subject := by
  have checked : Corpus.checkTypes ⟨[]⟩ [] Misfit.types Misfit.value [] =
      .ok ⟨none, some Misfit.failure⟩ := by
    rw [Corpus.checkTypes, Misfit.check_types]
    rfl
  have proper : Misfit.value.Proper := by
    simp [Misfit.value, Value.Proper, Value.ProperAll]
  have points := (path_of_failure.1 _ _ _ _ _ _ _ checked rfl).2 proper (by decide)
  have reported : Misfit.schema.report Misfit.value =
      .ok ⟨some .type, some Misfit.told⟩ := by
    rw [Schema.report, if_neg (by decide), if_pos (by decide), Schema.reportSingle]
    exact bind_eq_ok.2 ⟨_, Misfit.check_types _, Misfit.explained⟩
  obtain ⟨⟨subject, -, -, -, hs, -⟩, -⟩ := path_of_failure.2 _ _ _ _ reported rfl
  exact ⟨points, _, reported, subject, hs⟩

end Docblock
