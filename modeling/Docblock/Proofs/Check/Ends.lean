import Docblock.Proofs.Check.Meaning
import Docblock.Proofs.Check.Trial

/-!
# A check ends

Every trial of the checker ends, from any pad, with any marks and whatever the names of a directory
mean (`endsAt_ask`). Members have a smaller rank than their value. For one value no block is entered
that is marked for it, and entering marks one that was not, so fewer are left. Marks of other values
do not count: they stay when a member is checked, and may hold blocks that are entered again there.

A trial is a partial function, so it has to be shown to end, and no measure was given with it. The
measure is found here, in the proof: first the rank of the value, then the number of blocks that are
not marked for it. That a value is never marked under the mark of a member is not needed for that.

What a check ends with is another matter, and without it this would be little: a check that gave up
at once would end too. It is the answer of the checker in the directory of a corpus.
-/

namespace Docblock

variable {ρ ι : Type} [DecidableEq ι]

/-- Carry out the check that a query asks for. -/
def Directory.ask [AddressTest] (names : Directory ρ) (identity : List Value → Value → ι)
    (registry : ρ) (resolving : List (BlockRef × ι)) (value : Value) : Query → Trial Bool
  | .types types filters strict =>
    names.check identity registry resolving types value filters strict
  | .type type strict => names.checkType identity registry resolving type value strict
  | .block block strict => names.checkBlock identity registry resolving block value strict

namespace Trial

/-! ## Ends -/

section

variable {α β : Type} {pad : Pad}

/-- Steps end, with a result or a fault. -/
def EndsAt (x : Trial α) (pad : Pad) : Prop := (x.outcome pad).isSome = true

theorem endsAt_pure (a : α) : (pure a : Trial α).EndsAt pad := rfl

theorem endsAt_fail (note : Pad → Pad) : (fail note).EndsAt pad := rfl

theorem endsAt_lift (x : Except Fault α) : (lift x).EndsAt pad := rfl

/-- Steps end where the first do and those after a result of the first do. -/
theorem EndsAt.bind {x : Trial α} {f : α → Trial β} (hx : x.EndsAt pad)
    (hf : ∀ a pad', x.outcome pad = some (.ok (a, pad')) → (f a).EndsAt pad') :
    (x >>= f).EndsAt pad := by
  obtain ⟨result, hr⟩ := Option.isSome_iff_exists.1 hx
  cases result with
  | error fault =>
    rw [EndsAt, outcome_bind_of_error hr]
    rfl
  | ok step =>
    rw [EndsAt, outcome_bind_of_ok hr]
    exact hf step.1 step.2 hr

/-- A step that has a known result ends where the steps after it do. -/
theorem EndsAt.bind_of_ok {x : Trial α} {f : α → Trial β} {a : α} {pad' : Pad}
    (hx : x.outcome pad = some (.ok (a, pad'))) (hf : (f a).EndsAt pad') :
    (x >>= f).EndsAt pad := by
  rw [EndsAt, outcome_bind_of_ok hx]
  exact hf

end

/-! ## Marks -/

/-- The blocks that are marked for one value. -/
def markedFor (resolving : List (BlockRef × ι)) (mark : ι) : List BlockRef :=
  (resolving.filter fun marked => marked.2 = mark).map Prod.fst

theorem mem_markedFor {resolving : List (BlockRef × ι)} {mark : ι} {ref : BlockRef} :
    ref ∈ markedFor resolving mark ↔ (ref, mark) ∈ resolving := by
  simp [markedFor]

theorem markedFor_cons_self {resolving : List (BlockRef × ι)} {mark : ι} {ref : BlockRef} :
    markedFor ((ref, mark) :: resolving) mark = ref :: markedFor resolving mark := by
  simp [markedFor]

/-! ## What is asked of a trial -/

section

variable [AddressTest] {names : Directory ρ} {identity : List Value → Value → ι}
variable {registry : ρ} {resolving : List (BlockRef × ι)} {value : Value} {strict : Bool}

/-- The check of a demand ends from any pad. -/
def Settles (names : Directory ρ) (identity : List Value → Value → ι) (registry : ρ)
    (resolving : List (BlockRef × ι)) (demand : Demand) : Prop :=
  ∀ pad, (names.ask identity registry resolving demand.value
    (.types demand.types demand.filters false)).EndsAt pad

theorem endsAt_checkAll {demands : List Demand} {extra : Except Fault (List Value)}
    (members : ∀ demand ∈ demands, Settles names identity registry resolving demand) (pad : Pad) :
    (names.checkAll identity registry resolving demands extra).EndsAt pad := by
  induction demands generalizing pad with
  | nil =>
    rw [Directory.checkAll]
    refine .bind (endsAt_lift _) fun keys pad' _ => ?_
    split
    · exact endsAt_pure _
    · refine .bind_of_ok (outcome_get pad') (.bind (endsAt_lift _) fun message pad'' _ => ?_)
      exact endsAt_fail _
  | cons demand rest ih =>
    rw [Directory.checkAll]
    refine .bind_of_ok (outcome_modify _ pad) (.bind (members demand (by simp) _) ?_)
    intro passed pad' _
    cases passed with
    | false => exact endsAt_pure _
    | true =>
      refine .bind_of_ok (outcome_modify _ pad') ?_
      exact ih (fun other ho => members other (by simp [ho])) _

theorem endsAt_checkShape {shape : Shape}
    (members : ∀ demand ∈ shape.demands, Settles names identity registry resolving demand)
    (pad : Pad) : (names.checkShape identity registry resolving shape).EndsAt pad := by
  cases shape with
  | mismatch =>
    rw [Directory.checkShape]
    exact endsAt_pure _
  | members demands extra =>
    rw [Directory.checkShape]
    exact endsAt_checkAll members pad

/-- Every alternative is tried from the pad at the start. -/
theorem endsAt_checkAny {types : List TypeExpr} {filters : List Filter} {start : Pad}
    {first : Option (String × Pad)}
    (each : ∀ type ∈ types,
      (names.ask identity registry resolving value (.type type strict)).EndsAt start) :
    (names.checkAny identity registry resolving start first types value filters strict).EndsAt
      start := by
  induction types generalizing first with
  | nil =>
    cases first with
    | none =>
      rw [Directory.checkAny]
      exact endsAt_pure _
    | some tried =>
      rw [Directory.checkAny]
      refine .bind_of_ok (outcome_set start tried.2) ?_
      split
      · exact endsAt_pure _
      · exact endsAt_fail _
  | cons type rest ih =>
    rw [Directory.checkAny]
    refine .bind (each type (by simp)) ?_
    intro matched pad' _
    cases matched with
    | true =>
      refine .bind_of_ok (outcome_set pad' start) ?_
      cases type.category? with
      | none => exact endsAt_pure _
      | some category =>
        refine .bind (endsAt_lift _) ?_
        intro failed pad'' _
        cases failed with
        | none => exact endsAt_pure _
        | some told => exact endsAt_fail _
    | false =>
      refine .bind_of_ok (outcome_get pad') (.bind_of_ok (outcome_set pad' start) ?_)
      exact ih fun other ho => each other (by simp [ho])

theorem endsAt_check {types : List TypeExpr} {filters : List Filter} {pad : Pad}
    (each : ∀ type ∈ alternatives types,
      (names.ask identity registry resolving value (.type type strict)).EndsAt pad) :
    (names.ask identity registry resolving value (.types types filters strict)).EndsAt pad := by
  rw [Directory.ask, Directory.check]
  exact .bind_of_ok (outcome_get pad) (endsAt_checkAny each)

/-- A block that is met again for the same value fails at once. -/
theorem outcome_ask_of_marked {type : TypeExpr} {ref : BlockRef} {block : Block} {pad : Pad}
    (target : names.target? registry type = some (ref, block))
    (marked : (ref, identity pad.path value) ∈ resolving) :
    (names.ask identity registry resolving value (.type type strict)).outcome pad =
      some (.ok (false,
        pad.note .type type.text value (cycleMessage (type.name?.getD "")))) := by
  rw [Directory.ask, Directory.checkType, target]
  refine (outcome_bind_of_ok (outcome_get pad)).trans ?_
  rw [if_pos marked]
  rfl

/-- A block that is met for the first time is marked for the value while it is checked. -/
theorem outcome_ask_of_unmarked {type : TypeExpr} {ref : BlockRef} {block : Block} {pad : Pad}
    (target : names.target? registry type = some (ref, block))
    (fresh : (ref, identity pad.path value) ∉ resolving) :
    (names.ask identity registry resolving value (.type type strict)).outcome pad =
      (names.ask identity (names.chain registry ref) ((ref, identity pad.path value) :: resolving)
        value (.block block (strict || block.strict))).outcome pad := by
  rw [Directory.ask, Directory.checkType, target]
  refine (outcome_bind_of_ok (outcome_get pad)).trans ?_
  rw [if_neg fresh]
  rfl

theorem endsAt_checkType {type : TypeExpr} {pad : Pad}
    (members : ∀ demand ∈ (type.shape value strict).demands,
      Settles names identity registry resolving demand)
    (inside : ∀ ref block, names.target? registry type = some (ref, block) →
      (ref, identity pad.path value) ∉ resolving →
      (names.ask identity (names.chain registry ref) ((ref, identity pad.path value) :: resolving)
        value (.block block (strict || block.strict))).EndsAt pad) :
    (names.ask identity registry resolving value (.type type strict)).EndsAt pad := by
  rcases target : names.target? registry type with _ | ⟨ref, block⟩
  · rw [Directory.ask, Directory.checkType, target]
    exact endsAt_checkShape members pad
  · by_cases marked : (ref, identity pad.path value) ∈ resolving
    · rw [EndsAt, outcome_ask_of_marked target marked]
      rfl
    · rw [EndsAt, outcome_ask_of_unmarked target marked]
      exact inside ref block target marked

theorem endsAt_checkBlock {block : Block} {pad : Pad}
    (members : ∀ demand ∈ (Tag.shape block.elements.property value strict).demands,
      Settles names identity registry resolving demand)
    (synonym : ∀ tag, block.elements.typedef = some tag →
      (names.ask identity registry resolving value (.types (block.elements.aliasTag tag).types
        (block.elements.aliasTag tag).filters strict)).EndsAt pad) :
    (names.ask identity registry resolving value (.block block strict)).EndsAt pad := by
  rw [Directory.ask, Directory.checkBlock]
  split
  · exact endsAt_pure _
  split
  · exact endsAt_checkShape members pad
  split
  · exact endsAt_lift _
  · rename_i tag named
    exact synonym tag named

/-! ## The recursion ends -/

/-- Whatever is asked about a value, the check ends. -/
theorem endsAt_ask (names : Directory ρ) (identity : List Value → Value → ι) (registry : ρ)
    (resolving : List (BlockRef × ι)) (value : Value) (query : Query) (pad : Pad) :
    (names.ask identity registry resolving value query).EndsAt pad := by
  induction hn : value.rank using Nat.strongRecOn
    generalizing registry resolving value query pad with
  | _ n ihRank =>
  induction hk : countRemaining names.refs (markedFor resolving (identity pad.path value))
    using Nat.strongRecOn generalizing registry resolving query with
  | _ k ihMarked =>
    subst hn hk
    have ofType : ∀ type strict,
        (names.ask identity registry resolving value (.type type strict)).EndsAt pad := by
      intro type strict
      refine endsAt_checkType (fun demand hd pad' => ?_) fun ref block target fresh => ?_
      · exact ihRank _ (TypeExpr.rank_lt_of_mem_demands hd) _ _ _ _ _ rfl
      · refine ihMarked _ ?_ _ _ _ rfl
        rw [markedFor_cons_self]
        exact countRemaining_cons_lt (Directory.mem_refs_of_target target)
          (mt mem_markedFor.1 fresh)
    have ofTypes : ∀ types filters strict,
        (names.ask identity registry resolving value (.types types filters strict)).EndsAt pad := by
      intro types filters strict
      exact endsAt_check fun type _ => ofType type strict
    cases query with
    | type type strict => exact ofType type strict
    | types types filters strict => exact ofTypes types filters strict
    | block block strict =>
      refine endsAt_checkBlock (fun demand hd pad' => ?_) fun tag _ => ofTypes _ _ strict
      exact ihRank _ (Tag.rank_lt_of_mem_demands hd) _ _ _ _ _ rfl

end

end Trial

end Docblock
