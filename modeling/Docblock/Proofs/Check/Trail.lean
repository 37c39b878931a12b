import Docblock.Proofs.Check.Step
import Docblock.Proofs.Value.Walk

/-!
# Where a failure stands

A failure carries a path. The path is that of a trail from the checked value (`trail_of_check`): at
each value only the first alternative is followed, names are followed to their blocks, and every
member that the trail enters is one that was refused. So no key of another alternative and none of a
member that passed is ever in a path. A trail ends at the value that the failure tells, or at the
text of a key of a map (`Trail.points`).

Filters are no alternatives: the first alternative that the value is of decides with them, and their
failure stands at the value itself, where every trail may end. A key of a map is checked as its
text, so the last step of a path can be the key and the value that is told its text.

Which of several members is refused first is not part of a trail, and neither is strictness. Both
are there in the failure that the checker gives.
-/

namespace Docblock

variable {corpus : Corpus} {registry : Registry} {closed : List BlockRef} {path : List Value}
variable {value : Value} {failure : Failure}

/-! ## Trails -/

/-- What a value can be checked against. -/
inductive Subject where
  | types (types : List TypeExpr)
  | type (type : TypeExpr)
  | block (block : Block)
  | keys (tags : List Tag)

/-- A failure stands at a path and tells the value there, if it is not about undeclared keys. -/
structure Failure.StandsAt (failure : Failure) (path : List Value) (value : Value) : Prop where
  path : failure.path = path
  value : failure.kind ≠ .strict → failure.value = value

theorem Failure.standsAt_ofType (expected message : String) (value : Value) (path : List Value) :
    (ofType expected value path message).StandsAt path value := ⟨rfl, fun _ => rfl⟩

section

variable [AddressTest]

/-- The trail from a value at a path to where a failure stands. -/
inductive Trail (corpus : Corpus) (failure : Failure) :
    Registry → List Value → Value → Subject → Prop
  | here {registry : Registry} {path : List Value} {value : Value} {subject : Subject}
      (stands : failure.StandsAt path value) : Trail corpus failure registry path value subject
  | first {registry : Registry} {path : List Value} {value : Value} {types rest : List TypeExpr}
      {type : TypeExpr} (split : alternatives types = type :: rest)
      (inside : Trail corpus failure registry path value (.type type)) :
      Trail corpus failure registry path value (.types types)
  | member {registry : Registry} {path : List Value} {value : Value} {type : TypeExpr}
      {strict : Bool} {demand : Demand} (mem : demand ∈ (type.shape value strict).demands)
      (refused : checkDemand corpus registry path demand = .ok (some failure))
      (inside : Trail corpus failure registry (path ++ demand.steps) demand.value
        (.types demand.types)) :
      Trail corpus failure registry path value (.type type)
  | name {registry : Registry} {path : List Value} {value : Value} {type : TypeExpr}
      {ref : BlockRef} {block : Block} (target : corpus.target? registry type = some ref)
      (found : corpus.block? ref = some block)
      (inside : Trail corpus failure (registry.chain ref.source) path value (.block block)) :
      Trail corpus failure registry path value (.type type)
  | described {registry : Registry} {path : List Value} {value : Value} {block : Block}
      (inside : Trail corpus failure registry path value (.keys block.elements.property)) :
      Trail corpus failure registry path value (.block block)
  | synonym {registry : Registry} {path : List Value} {value : Value} {block : Block} {tag : Tag}
      (named : block.elements.typedef = some tag)
      (inside : Trail corpus failure registry path value
        (.types (block.elements.aliasTag tag).types)) :
      Trail corpus failure registry path value (.block block)
  | key {registry : Registry} {path : List Value} {value : Value} {tags : List Tag}
      {strict : Bool} {demand : Demand} (mem : demand ∈ (Tag.shape tags value strict).demands)
      (refused : checkDemand corpus registry path demand = .ok (some failure))
      (inside : Trail corpus failure registry (path ++ demand.steps) demand.value
        (.types demand.types)) :
      Trail corpus failure registry path value (.keys tags)

theorem Failure.standsAt_of_filterFailure {type : TypeExpr} {filters : List Filter}
    (h : filterFailure? type filters value path = .ok (some failure)) :
    failure.StandsAt path value := by
  obtain ⟨message, filter, rfl⟩ := exists_ofFilter_of_filterFailure h
  exact ⟨rfl, fun _ => rfl⟩

/-- A verdict on members is about undeclared keys, or a member was refused. -/
theorem MemberVerdict.standsAt_or_refused {shape : Shape}
    (h : MemberVerdict corpus registry path shape (.failed failure)) :
    failure.StandsAt path value ∨
      ∃ demand ∈ shape.demands, checkDemand corpus registry path demand = .ok (some failure) := by
  cases h with
  | excess all more told =>
    obtain ⟨message, -, h⟩ := bind_eq_ok.1 told
    cases h
    exact .inl ⟨rfl, fun kind => absurd rfl kind⟩
  | failed mem one => exact .inr ⟨_, mem, one⟩

/-- A check of a value at a path against a subject ends with a failure. -/
def Fails (corpus : Corpus) (registry : Registry) (closed : List BlockRef) (path : List Value)
    (value : Value) (failure : Failure) : Subject → Prop
  | .types alts => ∃ filters strict,
    check corpus registry closed path alts value filters strict = .ok (some failure)
  | .type alt => ∃ strict verdict,
    checkType corpus registry closed path alt value strict = .ok verdict ∧
      verdict.failure? alt.text value path = some failure
  | .block named => ∃ strict,
    checkBlock corpus registry closed path named value strict = .ok (.failed failure)
  | .keys tags => ∃ strict verdict,
    MemberVerdict corpus registry path (Tag.shape tags value strict) verdict ∧
      verdict = .failed failure

/-- Every failure of a check of a member of a value has its trail from there. -/
def TrailsBelow (corpus : Corpus) (path : List Value) (value : Value) (failure : Failure) : Prop :=
  ∀ (registry : Registry) (demand : Demand), demand.value.rank < value.rank →
    checkDemand corpus registry path demand = .ok (some failure) →
    Trail corpus failure registry (path ++ demand.steps) demand.value (.types demand.types)

/-- Every failure of a check that has entered one more block at the same value has its trail. -/
def TrailsWithin (corpus : Corpus) (closed : List BlockRef) (path : List Value) (value : Value)
    (failure : Failure) : Prop :=
  ∀ (registry : Registry) (target : BlockRef) (block : Block),
    corpus.block? target = some block → target ∉ closed →
    Fails corpus registry (target :: closed) path value failure (.block block) →
    Trail corpus failure registry path value (.block block)

section

variable (below : TrailsBelow corpus path value failure)
  (within : TrailsWithin corpus closed path value failure)

include below

theorem trail_of_keys {tags : List Tag}
    (h : Fails corpus registry closed path value failure (.keys tags)) :
    Trail corpus failure registry path value (.keys tags) := by
  obtain ⟨strict, verdict, members, rfl⟩ := h
  rcases members.standsAt_or_refused with stands | ⟨demand, mem, refused⟩
  · exact .here stands
  · exact .key mem refused (below registry demand (Tag.rank_lt_of_mem_demands mem) refused)

include within

theorem trail_of_type {type : TypeExpr}
    (h : Fails corpus registry closed path value failure (.type type)) :
    Trail corpus failure registry path value (.type type) := by
  obtain ⟨strict, verdict, checked, told⟩ := h
  cases verdict with
  | yes => cases told
  | no =>
    cases told
    exact .here (Failure.standsAt_ofType _ _ _ _)
  | failed other =>
    cases told
    cases checkType_cases checked with
    | form target members =>
      rcases members.standsAt_or_refused with stands | ⟨demand, mem, refused⟩
      · exact .here stands
      · exact .member mem refused
          (below registry demand (TypeExpr.rank_lt_of_mem_demands mem) refused)
    | again target found mem => exact .here (Failure.standsAt_ofType _ _ _ _)
    | entered target found fresh inside =>
      exact .name target found (within _ _ _ found fresh ⟨_, inside⟩)

theorem trail_of_types {types : List TypeExpr}
    (h : Fails corpus registry closed path value failure (.types types)) :
    Trail corpus failure registry path value (.types types) := by
  obtain ⟨filters, strict, checked⟩ := h
  cases check_cases checked with
  | first split others matched filtered => exact .here (Failure.standsAt_of_filterFailure filtered)
  | none split others failed told =>
    exact .first split (trail_of_type below within ⟨strict, _, failed, told⟩)

/-- The failure of a block is one of its properties, or of the types that it is a synonym for. -/
theorem trail_of_block {block : Block}
    (h : Fails corpus registry closed path value failure (.block block)) :
    Trail corpus failure registry path value (.block block) := by
  obtain ⟨strict, checked⟩ := h
  obtain ⟨verdict, hv, checked⟩ : ∃ verdict, Verdict.failed failure = verdict ∧
      checkBlock corpus registry closed path block value strict = .ok verdict := ⟨_, rfl, checked⟩
  cases checkBlock_cases checked with
  | callback function => split at hv <;> cases hv
  | keys other described members =>
    have fails : Fails corpus registry closed path value failure
        (.keys block.elements.property) := ⟨strict, verdict, members, hv.symm⟩
    exact .described (trail_of_keys below fails)
  | @synonym tag outcome other bare named inside =>
    cases outcome with
    | none => cases hv
    | some failure' =>
      cases hv
      exact .synonym named (trail_of_types below within ⟨_, strict, inside⟩)

end

/-- Every failure has its trail. Members are of a smaller rank than the value, and at one value ever
fewer blocks are left to be entered. -/
theorem trail_of_fails (subject : Subject)
    (h : Fails corpus registry closed path value failure subject) :
    Trail corpus failure registry path value subject := by
  induction hn : value.rank using Nat.strongRecOn
    generalizing registry closed path value subject with
  | _ n ihRank =>
  induction hk : corpus.countOpen closed using Nat.strongRecOn
    generalizing registry closed subject with
  | _ k ihOpen =>
    subst hn hk
    have below : TrailsBelow corpus path value failure := fun registry demand hd refused =>
      ihRank _ hd (.types demand.types) ⟨_, _, refused⟩ rfl
    have within : TrailsWithin corpus closed path value failure :=
      fun registry target block found fresh inside =>
        ihOpen _ (Corpus.countOpen_cons_lt found fresh) (.block block) inside rfl
    cases subject with
    | types types => exact trail_of_types below within h
    | type type => exact trail_of_type below within h
    | keys tags => exact trail_of_keys below h
    | block block => exact trail_of_block below within h

/-! ## Failures stand below the checked value -/

/-- A trail never leaves the value that it starts from. -/
theorem Trail.isPrefix {corpus : Corpus} {failure : Failure} {registry : Registry}
    {path : List Value} {value : Value} {subject : Subject}
    (h : Trail corpus failure registry path value subject) : path <+: failure.path := by
  induction h with
  | here stands => exact stands.path ▸ List.prefix_rfl
  | first split inside ih => exact ih
  | member mem refused inside ih => exact (List.prefix_append _ _).trans ih
  | name target found inside ih => exact ih
  | described inside ih => exact ih
  | synonym named inside ih => exact ih
  | key mem refused inside ih => exact (List.prefix_append _ _).trans ih

theorem isPrefix_of_check {corpus : Corpus} {registry : Registry} {closed : List BlockRef}
    {path : List Value} {types : List TypeExpr} {value : Value} {filters : List Filter}
    {strict : Bool} {failure : Failure}
    (h : check corpus registry closed path types value filters strict = .ok (some failure)) :
    path <+: failure.path :=
  (trail_of_fails (.types types) ⟨filters, strict, h⟩).isPrefix

end

/-! ## Trails lead to the value -/

/-- Keys lead from a value to what a failure tells: to a value, or to an own key of an object, as
a text. -/
def Value.Points (value : Value) (keys : List Value) (found : Value) : Prop :=
  value.Leads keys found ∨
    ∃ before key owner text, keys = before ++ [key] ∧ value.Leads before owner ∧
      key ∈ owner.ownKeys ∧ key.text = .ok text ∧ found = .string text

theorem Value.Points.after {middle found : Value} {keys keys' : List Value}
    (h : value.Leads keys middle) (h' : middle.Points keys' found) :
    value.Points (keys ++ keys') found := by
  rcases h' with h' | ⟨before, key, owner, text, rfl, hl, hk, ht, hf⟩
  · exact .inl (h.append h')
  · exact .inr ⟨keys ++ before, key, owner, text, by simp, h.append hl, hk, ht, hf⟩

/-- The member that a demand speaks of stands where its steps lead, or it is the text of an own
key. -/
def Demand.Stands (value : Value) (demand : Demand) : Prop :=
  (value.Leads demand.steps demand.value ∧ demand.value.Proper) ∨
    ∃ key ∈ value.ownKeys, ∃ text, demand.steps = [key] ∧ key.text = .ok text ∧
      demand.value = .string text

theorem TypeExpr.stands_of_mem_demands {type : TypeExpr} {strict : Bool} {demand : Demand}
    (proper : value.Proper) (h : demand ∈ (type.shape value strict).demands) :
    demand.Stands value := by
  cases type <;> simp only [shape, Shape.demands_ofBool, List.not_mem_nil] at h
  case array text types =>
    split at h
    · rename_i items hi
      obtain ⟨⟨item, place⟩, hm, rfl⟩ := List.mem_map.1 h
      have hm := List.mem_zipIdx_iff_getElem?.1 hm
      refine .inl ⟨.one (.inl ?_), proper.item hi (List.mem_of_getElem? hm)⟩
      rw [Value.member_int hi, hm]
      rfl
    · cases h
  case tuple text fields =>
    split at h
    · obtain ⟨⟨field, place⟩, hm, rfl⟩ := List.mem_map.1 h
      exact .inl ⟨.one (.inl rfl), proper.member _⟩
    · cases h
  case map text keys values =>
    split at h
    · rename_i entries he
      obtain ⟨entry, hm, text, ht, rfl | rfl⟩ := Demand.exists_of_mem_ofEntries h
      · refine .inr ⟨entry.1, ?_, text, rfl, ht, rfl⟩
        rw [Value.ownKeys, he]
        exact List.mem_map_of_mem hm
      · exact .inl ⟨.one (Value.under_of_mem_ownEntries proper he hm), proper.ownEntry he hm⟩
    · cases h
  case object text fields =>
    split at h
    · obtain ⟨field, hm, rfl⟩ := List.mem_map.1 h
      exact .inl ⟨.one (.inl rfl), proper.member _⟩
    · cases h

theorem Tag.stands_of_mem_demands {tags : List Tag} {strict : Bool} {demand : Demand}
    (proper : value.Proper) (h : demand ∈ (Tag.shape tags value strict).demands) :
    demand.Stands value := by
  unfold Tag.shape at h
  split at h
  · obtain ⟨tag, -, ht⟩ := List.mem_filterMap.1 h
    unfold Demand.ofTag? at ht
    dsimp only at ht
    split at ht
    · cases ht
    · cases ht
      refine .inl ⟨Value.leads_foldl_member _ _, ?_⟩
      unfold Demand.tagSteps
      split
      · exact (proper.member _).member _
      · exact proper.member _
  · cases h

/-- A text has no members. -/
theorem TypeExpr.demands_string (type : TypeExpr) (text : String) (strict : Bool) :
    (type.shape (.string text) strict).demands = [] := by
  cases type <;> first | rfl | exact Shape.demands_ofBool _

variable [AddressTest]

theorem Trail.standsAt_string {text : String} {subject : Subject}
    (h : Trail corpus failure registry path value subject) (hv : value = .string text) :
    failure.StandsAt path value := by
  induction h with
  | here stands => exact stands
  | first split inside ih => exact ih hv
  | member mem refused inside ih =>
    subst hv
    rw [TypeExpr.demands_string] at mem
    cases mem
  | name target found inside ih => exact ih hv
  | described inside ih => exact ih hv
  | synonym named inside ih => exact ih hv
  | key mem refused inside ih =>
    subst hv
    cases mem

theorem Demand.Stands.points {demand : Demand} {subject : Subject} (h : demand.Stands value)
    (kind : failure.kind ≠ .strict)
    (inside : Trail corpus failure registry (path ++ demand.steps) demand.value subject)
    (rest : demand.value.Proper →
      ∃ keys, failure.path = path ++ demand.steps ++ keys ∧
        demand.value.Points keys failure.value) :
    ∃ keys, failure.path = path ++ keys ∧ value.Points keys failure.value := by
  rcases h with ⟨leads, proper⟩ | ⟨key, hk, text, hsteps, written, htext⟩
  · obtain ⟨keys, hpath, points⟩ := rest proper
    exact ⟨demand.steps ++ keys, by rw [hpath, List.append_assoc], points.after leads⟩
  · have stands := inside.standsAt_string htext
    refine ⟨demand.steps, stands.path,
      .inr ⟨[], key, value, text, hsteps, .here value, hk, written, ?_⟩⟩
    rw [stands.value kind, htext]

/-- A trail ends at the value that its failure tells, and the path leads there. -/
theorem Trail.points {subject : Subject} (h : Trail corpus failure registry path value subject)
    (proper : value.Proper) (kind : failure.kind ≠ .strict) :
    ∃ keys, failure.path = path ++ keys ∧ value.Points keys failure.value := by
  induction h with
  | here stands =>
    refine ⟨[], by rw [stands.path, List.append_nil], .inl ?_⟩
    rw [stands.value kind]
    exact .here _
  | first split inside ih => exact ih proper
  | member mem refused inside ih =>
    exact (TypeExpr.stands_of_mem_demands proper mem).points kind inside ih
  | name target found inside ih => exact ih proper
  | described inside ih => exact ih proper
  | synonym named inside ih => exact ih proper
  | key mem refused inside ih =>
    exact (Tag.stands_of_mem_demands proper mem).points kind inside ih

end Docblock
