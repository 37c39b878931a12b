import Docblock.Check.Report
import Docblock.Proofs.Check.Break
import Docblock.Proofs.Check.Guard
import Docblock.Proofs.Check.Notes

/-!
# Answers

What the checker answers to a query is a verdict or a fault (`Query.verdict`). Here it is said
without the ranks that make the checker end: the demands of a shape are checked one after the other
(`checkShape`), and types and blocks that speak of members are answered by their shapes. Where two
checks are compared, they are compared through these equations.

The definition of the checker carries a bound for the demands of a value and a proof for each that
it is below. Both are of no interest once it is defined, and equal demands of different values would
not have equal proofs. So `checkAll` is rewritten once, and nothing in the files that build on this
one mentions a bound.

A verdict is yes where the query is accepted, and where names are resolved in one registry that is
so just when the query's meaning says so (`Query.eq_yes_iff_accepts`).
-/

namespace Docblock

variable {corpus : Corpus} {registry : Registry} {closed : List BlockRef} {path : List Value}
variable {value : Value} {strict : Bool}

/-! ## Members -/

theorem Verdict.ofMembers_none_eq_yes {extra : Except Fault (List Value)} :
    Verdict.ofMembers path extra none = .ok .yes ↔ extra = .ok [] := by
  simp [ofMembers_none_eq_ok]

/-- The ways in which a block can be a type. -/
theorem Block.stands (block : Block) :
    block.elements.callback.isSome = true ∨
      (block.elements.callback = none ∧ block.elements.property ≠ []) ∨
      (block.elements.callback = none ∧ block.elements.property = [] ∧
        block.elements.typedef = none) ∨
      block.elements.callback = none ∧ block.elements.property = [] ∧
        ∃ tag, block.elements.typedef = some tag := by
  cases block.elements.callback <;> cases block.elements.property <;>
    cases block.elements.typedef <;> simp

theorem Verdict.ofFailure_eq_yes {outcome : Option Failure} :
    Verdict.ofFailure outcome = .yes ↔ outcome = none := by
  cases outcome <;> simp [ofFailure]

variable [AddressTest]

/-- The first failure among demands on members of a value at a path. -/
def checkDemands (corpus : Corpus) (registry : Registry) (path : List Value) :
    List Demand → Except Fault (Option Failure)
  | [] => .ok none
  | demand :: rest => do
    match ← checkDemand corpus registry path demand with
    | some failure => return some failure
    | none => checkDemands corpus registry path rest

/-- How a value at a path stands to what a shape says of its members. -/
def checkShape (corpus : Corpus) (registry : Registry) (path : List Value) :
    Shape → Except Fault Verdict
  | .mismatch => .ok .no
  | .members demands extra => do
    let failure ← checkDemands corpus registry path demands
    Verdict.ofMembers path extra failure

theorem checkAll_eq_checkDemands {bound : Nat} {demands : List Demand}
    {below : ∀ demand ∈ demands, demand.value.rank < bound} :
    checkAll corpus registry path bound demands below =
      checkDemands corpus registry path demands := by
  induction demands with
  | nil => rw [checkAll, checkDemands]
  | cons demand rest ih =>
    rw [checkAll, checkDemands, checkDemand]
    refine bind_congr fun outcome => ?_
    cases outcome with
    | some failure => rfl
    | none => exact ih

theorem checkDemands_eq_none_iff {demands : List Demand} :
    checkDemands corpus registry path demands = .ok none ↔
      ∀ demand ∈ demands, demand.Met corpus registry path := by
  induction demands with
  | nil => simp [checkDemands]
  | cons demand rest ih =>
    rw [checkDemands, bind_eq_ok, List.forall_mem_cons, ← ih]
    constructor
    · rintro ⟨outcome, one, more⟩
      cases outcome with
      | some failure => cases more
      | none => exact ⟨one, more⟩
    · rintro ⟨one, more⟩
      exact ⟨none, one, more⟩

/-- A failure among demands is that of one of them. -/
theorem exists_of_checkDemands {demands : List Demand} {failure : Failure}
    (h : checkDemands corpus registry path demands = .ok (some failure)) :
    ∃ demand ∈ demands, checkDemand corpus registry path demand = .ok (some failure) := by
  induction demands with
  | nil => cases h
  | cons demand rest ih =>
    obtain ⟨outcome, one, more⟩ := bind_eq_ok.1 h
    cases outcome with
    | some failure =>
      cases more
      exact ⟨demand, by simp, one⟩
    | none =>
      obtain ⟨other, mem, found⟩ := ih more
      exact ⟨other, by simp [mem], found⟩

/-- Nothing is wrong with the members of a value just when the shape is met. -/
theorem checkShape_eq_yes_iff {shape : Shape} :
    checkShape corpus registry path shape = .ok .yes ↔
      shape.Met (Demand.Met corpus registry path) := by
  cases shape with
  | mismatch => simp [checkShape, Shape.Met]
  | members demands extra =>
    rw [checkShape, Shape.Met, bind_eq_ok, ← checkDemands_eq_none_iff]
    constructor
    · rintro ⟨outcome, checked, yes⟩
      cases outcome with
      | some failure => cases yes
      | none => exact ⟨checked, Verdict.ofMembers_none_eq_yes.1 yes⟩
    · rintro ⟨checked, rfl⟩
      exact ⟨none, checked, rfl⟩

/-! ## Types, blocks and keys -/

theorem checkType_of_form {type : TypeExpr} (target : corpus.target? registry type = none) :
    checkType corpus registry closed path type value strict =
      checkShape corpus registry path (type.shape value strict) := by
  cases shape : type.shape value strict with
  | mismatch =>
    rw [checkType_of_mismatch target shape]
    rfl
  | members demands extra =>
    rw [checkType_of_members target shape fun demand hd =>
      TypeExpr.rank_lt_of_mem_demands (by rw [shape]; exact hd), checkAll_eq_checkDemands]
    rfl

theorem checkBlock_of_callback {block : Block}
    (function : block.elements.callback.isSome = true) :
    checkBlock corpus registry closed path block value strict =
      .ok (if value.isCallable then .yes else .no) := by
  rw [checkBlock, if_pos function]

theorem checkBlock_of_property {block : Block} (other : block.elements.callback = none)
    (described : block.elements.property ≠ []) :
    checkBlock corpus registry closed path block value strict =
      checkShape corpus registry path (Tag.shape block.elements.property value strict) := by
  rw [checkBlock, if_neg (by simp [other]), if_pos (by simpa using described)]
  split
  · rename_i shape
    rw [shape]
    rfl
  · rename_i shape
    rw [checkAll_eq_checkDemands, shape]
    rfl

/-- A block that stands for nothing. -/
theorem checkBlock_of_nameless {block : Block} (other : block.elements.callback = none)
    (bare : block.elements.property = []) (nameless : block.elements.typedef = none) :
    checkBlock corpus registry closed path block value strict = refuse .notTypedef := by
  rw [checkBlock, if_neg (by simp [other]), if_neg (by simp [bare])]
  split
  · rfl
  · rename_i named
    cases nameless.symm.trans named

theorem Schema.checkKeys_eq {schema : Schema} {tags : List Tag} :
    schema.checkKeys tags value =
      checkShape schema.corpus schema.registry [] (Tag.shape tags value schema.strict) := by
  unfold checkKeys
  split
  · rename_i shape
    rw [shape]
    rfl
  · rename_i shape
    rw [checkAll_eq_checkDemands, shape]
    rfl

/-- A type without a category has no filters that could be checked. -/
theorem TypeExpr.passes_of_plain {type : TypeExpr} {filters : List Filter}
    (plain : type.category? = none) : type.Passes filters value :=
  fun _ category => nomatch plain.symm.trans category

/-- A single alternative whose filters let the value through. -/
theorem check_singleton_eq_none_iff {type : TypeExpr} {filters : List Filter}
    (passes : type.Passes filters value) :
    check corpus registry closed path [type] value filters strict = .ok none ↔
      checkType corpus registry closed path type value strict = .ok .yes := by
  constructor
  · intro h
    cases check_cases h with
    | @first before after other _ split _ matched _ =>
      have mem : other ∈ [type] := by
        rw [show [type] = before ++ other :: after from split]
        simp
      exact List.mem_singleton.1 mem ▸ matched
  · intro matched
    rw [check]
    exact (checkAny_of_yes matched).trans (filterFailure?_eq_none.2 passes)

/-! ## Verdicts -/

namespace Query

theorem verdict_types_eq_ok {types : List TypeExpr} {filters : List Filter}
    {outcome : Option Failure}
    (h : check corpus registry closed path types value filters strict = .ok outcome) :
    (Query.types types filters strict).verdict corpus registry closed path value =
      .ok (.ofFailure outcome) := by
  rw [verdict, h]
  rfl

/-- A block that stands for alternatives is answered as they are. -/
theorem verdict_block_of_synonym {block : Block} {tag : Tag}
    (other : block.elements.callback = none) (bare : block.elements.property = [])
    (named : block.elements.typedef = some tag) :
    (Query.block block strict).verdict corpus registry closed path value =
      (Query.types (block.elements.aliasTag tag).types (block.elements.aliasTag tag).filters
        strict).verdict corpus registry closed path value := by
  rw [verdict, verdict, checkBlock_of_synonym other bare named]
  cases check corpus registry closed path (block.elements.aliasTag tag).types value
    (block.elements.aliasTag tag).filters strict <;> rfl

theorem verdict_eq_yes_iff {query : Query} :
    query.verdict corpus registry closed path value = .ok .yes ↔
      Accepted corpus registry closed path value query := by
  cases query with
  | types types filters strict =>
    rw [verdict, Accepted]
    cases check corpus registry closed path types value filters strict with
    | error fault => simp [Except.map]
    | ok outcome => simp [Except.map, Verdict.ofFailure_eq_yes]
  | type type strict => exact .rfl
  | block block strict => exact .rfl

theorem refused_of_verdict {query : Query} {verdict : Verdict}
    (h : query.verdict corpus registry closed path value = .ok verdict) (ne : verdict ≠ .yes) :
    Refused corpus registry closed path value query := by
  cases query with
  | types types filters strict =>
    rw [Query.verdict] at h
    cases checked : check corpus registry closed path types value filters strict with
    | error fault =>
      rw [checked] at h
      cases h
    | ok outcome =>
      rw [checked] at h
      cases h
      cases outcome with
      | none => exact absurd rfl ne
      | some failure => exact ⟨failure, checked⟩
  | type type strict => exact ⟨verdict, h, ne⟩
  | block block strict => exact ⟨verdict, h, ne⟩

/-- A verdict is yes just when the meaning of the query says so. -/
theorem eq_yes_iff_accepts (settled : Settled corpus registry) {query : Query}
    (filtered : query.Filtered) {verdict : Verdict}
    (h : query.verdict corpus registry [] path value = .ok verdict) :
    verdict = .yes ↔ Accepts corpus registry value query := by
  constructor
  · rintro rfl
    exact (answer_iff settled query filtered).1 (verdict_eq_yes_iff.1 h)
  · intro accepts
    by_contra ne
    exact (answer_iff settled query filtered).2 (refused_of_verdict h ne) accepts

end Query

/-- A block that stands for alternatives takes what they take. -/
theorem checkBlock_of_synonym_eq_yes_iff {block : Block} {tag : Tag}
    (other : block.elements.callback = none) (bare : block.elements.property = [])
    (named : block.elements.typedef = some tag) :
    checkBlock corpus registry closed path block value strict = .ok .yes ↔
      check corpus registry closed path (block.elements.aliasTag tag).types value
        (block.elements.aliasTag tag).filters strict = .ok none := by
  change (Query.block block strict).verdict corpus registry closed path value = .ok .yes ↔ _
  rw [Query.verdict_block_of_synonym other bare named]
  exact Query.verdict_eq_yes_iff

end Docblock
