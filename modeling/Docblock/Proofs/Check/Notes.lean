import Docblock.Proofs.Check.Ends
import Docblock.Proofs.Check.OneSource

/-!
# The notes of a check tell its answer

A trial from a clean pad ends as the checker answers (`outcome_ask`): with a clean pad when the
value passes, and else with the one failure that the checker gives. So nothing that an abandoned
alternative wrote is left, and the way back from a member is the way that led there.

The checker closes blocks for one value alone, while marks of the values around it stay among the
marks of a trial. It makes no difference as long as no value is taken for one that it is a part of
(`Separates`), and the marks for a value are then just its closed blocks (`Tracks`).

What stands for a value in a mark is left open. An address in memory does, and so does a rank, as
parts have smaller ones. Two values that are no parts of each other may well be taken for one
another: while the one is checked, the other is not.

The pad and the checker are compared step by step, in the order of the recursion. Pads on which
something stands already are treated where alternatives are.
-/

namespace Docblock

variable {corpus : Corpus} {registry : Registry} {closed : List BlockRef} {path : List Value}
variable {value : Value} {strict : Bool}

/-! ## Answers -/

/-- What filters leave on a pad: it is as it was, or the failure of one of them stands on it. -/
def Pad.filtered (pad : Pad) : Option Failure → Bool × Pad
  | none => (true, pad)
  | some failure => (false, .ofFailure failure)

/-- Whether a value at a path passes, and the pad that is left. -/
def Verdict.told (path : List Value) : Verdict → Bool × Pad
  | yes => (true, .clean path)
  | no => (false, .clean path)
  | failed failure => (false, .ofFailure failure)

theorem Verdict.told_of_failure {verdict : Verdict} {expected : String} {failure : Failure}
    (told : verdict.failure? expected value path = some failure) :
    verdict.told path = (false, (verdict.told path).2) := by
  cases verdict with
  | yes => cases told
  | no => rfl
  | failed => rfl

/-- In the directory of a corpus a name means what it means in the corpus. -/
theorem Corpus.directory_target? (registry : Registry) (type : TypeExpr) :
    corpus.directory.target? registry type =
      (corpus.target? registry type).bind fun ref => (corpus.block? ref).map (ref, ·) := by
  unfold Directory.target? Corpus.target?
  rw [Option.bind_assoc]
  rfl

namespace Trial

/-- Steps from a clean pad end as an answer tells. -/
def Tells (x : Trial Bool) (path : List Value) (answer : Except Fault Verdict) : Prop :=
  x.outcome (.clean path) = some (answer.map (Verdict.told path))

/-! ## Marks -/

section

variable {ι : Type} {identity : List Value → Value → ι} {resolving : List (BlockRef × ι)}

/-- No value is taken for another that it is a part of. -/
def Separates (identity : List Value → Value → ι) : Prop :=
  ∀ path steps whole part, part.rank < whole.rank →
    identity (path ++ steps) part ≠ identity path whole

/-- What is marked for a value are its closed blocks, and all other marks are of values that it is
a part of. -/
structure Tracks (identity : List Value → Value → ι) (resolving : List (BlockRef × ι))
    (closed : List BlockRef) (path : List Value) (value : Value) : Prop where
  here : ∀ ref, (ref, identity path value) ∈ resolving ↔ ref ∈ closed
  around : ∀ marked ∈ resolving, ∃ before steps whole,
    path = before ++ steps ∧ value.rank ≤ whole.rank ∧ marked.2 = identity before whole

theorem Tracks.start : Tracks identity [] [] path value := ⟨by simp, by simp⟩

/-- A block is closed and marked for the value. -/
theorem Tracks.mark (tracks : Tracks identity resolving closed path value) (ref : BlockRef) :
    Tracks identity ((ref, identity path value) :: resolving) (ref :: closed) path value where
  here other := by simp [tracks.here]
  around marked hm := by
    rcases List.mem_cons.1 hm with rfl | hm
    · exact ⟨path, [], value, by simp, Nat.le_refl _, rfl⟩
    · exact tracks.around marked hm

/-- Nothing is marked yet for a member. -/
theorem Tracks.member (separates : Separates identity)
    (tracks : Tracks identity resolving closed path value) {part : Value} (steps : List Value)
    (smaller : part.rank < value.rank) :
    Tracks identity resolving [] (path ++ steps) part where
  here ref := by
    refine ⟨fun hm => ?_, nofun⟩
    obtain ⟨before, between, whole, rfl, hle, hmark⟩ := tracks.around _ hm
    rw [List.append_assoc] at hmark
    exact absurd hmark (separates _ _ _ _ (Nat.lt_of_lt_of_le smaller hle))
  around marked hm := by
    obtain ⟨before, between, whole, rfl, hle, hmark⟩ := tracks.around marked hm
    exact ⟨before, between ++ steps, whole, List.append_assoc .., by omega, hmark⟩

end

/-! ## Alternatives -/

/-- The pad after the first alternative, once its failure is told. -/
def settled (text : String) (value : Value) (pad : Pad) : Pad :=
  if pad.kind.isSome then pad else pad.note .type text value ""

theorem settled_told {type : TypeExpr} {verdict : Verdict} {failure : Failure}
    (told : verdict.failure? type.text value path = some failure) :
    settled type.text value (verdict.told path).2 = .ofFailure failure := by
  cases verdict with
  | yes => cases told
  | no =>
    cases told
    rfl
  | failed other =>
    cases told
    rfl

/-- What is kept of the first alternative is what the checker keeps. -/
def Kept (value : Value) : Option (String × Pad) → Option Failure → Prop
  | none, none => True
  | some (text, pad), some failure => settled text value pad = .ofFailure failure
  | _, _ => False

theorem Kept.or {first : Option (String × Pad)} {failure : Option Failure} {type : TypeExpr}
    {verdict : Verdict} {other : Failure} (kept : Kept value first failure)
    (told : verdict.failure? type.text value path = some other) :
    Kept value (first <|> some (type.text, (verdict.told path).2)) (failure <|> some other) := by
  cases first <;> cases failure
  · exact settled_told told
  · exact kept.elim
  · exact kept.elim
  · exact kept

/-! ## Members -/

section

variable [AddressTest] {ι : Type} [DecidableEq ι] {identity : List Value → Value → ι}
variable {resolving : List (BlockRef × ι)}

/-- The check of a demand ends as the checker answers. -/
def Follows (corpus : Corpus) (identity : List Value → Value → ι) (registry : Registry)
    (resolving : List (BlockRef × ι)) (path : List Value) (demand : Demand) : Prop :=
  Tells (corpus.directory.ask identity registry resolving demand.value
      (.types demand.types demand.filters false))
    (path ++ demand.steps) ((checkDemand corpus registry path demand).map .ofFailure)

/-- What is left once all demands are met is told as the checker tells it. -/
theorem tells_extra {extra : Except Fault (List Value)} :
    Tells (corpus.directory.checkAll identity registry resolving [] extra) path
      (Verdict.ofMembers path extra none) := by
  rw [Directory.checkAll, Tells]
  cases extra with
  | error fault => rfl
  | ok keys =>
    refine (outcome_bind_of_ok (outcome_lift (.ok keys) _)).trans ?_
    cases keys with
    | nil => rfl
    | cons key rest =>
      refine (outcome_bind_of_ok (outcome_get _)).trans ?_
      rw [Verdict.ofMembers, Pad.path_clean]
      show _ = some ((Failure.ofExtraKeys (key :: rest) path >>= fun failure =>
        pure (Verdict.failed failure)).map (Verdict.told path))
      rw [Failure.ofExtraKeys]
      cases Failure.extraMessage (key :: rest) path with
      | error fault => rfl
      | ok message => rfl

theorem tells_checkAll {demands : List Demand} {extra : Except Fault (List Value)} {bound : Nat}
    (members : ∀ demand ∈ demands, Follows corpus identity registry resolving path demand)
    (below : ∀ demand ∈ demands, demand.value.rank < bound) :
    Tells (corpus.directory.checkAll identity registry resolving demands extra) path (do
      let failure ← Docblock.checkAll corpus registry path bound demands below
      Verdict.ofMembers path extra failure) := by
  induction demands with
  | nil =>
    rw [Docblock.checkAll]
    exact tells_extra
  | cons demand rest ih =>
    have one := members demand (by simp)
    rw [Follows, Tells] at one
    rw [Directory.checkAll, Tells, outcome_bind_of_ok (outcome_modify _ _), Pad.enter_clean]
    rcases checked : checkDemand corpus registry path demand with fault | _ | failure
    · rw [checked] at one
      rw [checkDemand] at checked
      rw [Docblock.checkAll, checked]
      exact outcome_bind_of_error one
    · rw [checked] at one
      rw [checkAll_of_none checked]
      refine (outcome_bind_of_ok one).trans ?_
      refine (outcome_bind_of_ok (outcome_modify _ _)).trans ?_
      rw [Pad.leave_clean_append]
      exact ih (fun other ho => members other (by simp [ho])) _
    · rw [checked] at one
      rw [checkAll_of_some checked]
      exact outcome_bind_of_ok one

/-! ## Types one after the other -/

theorem tells_checkAny_nil {first : String × Pad} {failure : Failure} {filters : List Filter}
    (kept : settled first.1 value first.2 = .ofFailure failure) :
    Tells (corpus.directory.checkAny identity registry resolving (.clean path) (some first) []
      value filters strict) path (.ok (.failed failure)) := by
  obtain ⟨text, pad⟩ := first
  rw [Directory.checkAny, Tells]
  refine (outcome_bind_of_ok (outcome_set _ _)).trans ?_
  show _ = some (Except.ok (false, Pad.ofFailure failure))
  rw [← kept]
  dsimp only
  unfold settled
  split
  · rfl
  · rfl

/-- The filters of an alternative that the value is of fail as the checker tells it, or leave the
pad as it is. -/
theorem outcome_filters {type : TypeExpr} {filters : List Filter} {pad : Pad} :
    (match type.category? with
      | none => return true
      | some category => do
        match ← lift (Filter.firstFault? category value filters) with
        | none => return true
        | some (filter, message) => fail (.noteFilter type.text value message filter)
      : Trial Bool).outcome pad =
    some ((filterFailure? type filters value pad.path).map pad.filtered) := by
  unfold filterFailure?
  cases type.category? with
  | none => rfl
  | some category =>
    dsimp only
    rcases found : Filter.firstFault? category value filters with fault | _ | ⟨filter, message⟩
    · rfl
    · rfl
    · rfl

/-- An alternative that the value is of decides with its filters. -/
theorem tells_filters {type : TypeExpr} {filters : List Filter} :
    Tells (match type.category? with
      | none => return true
      | some category => do
        match ← lift (Filter.firstFault? category value filters) with
        | none => return true
        | some (filter, message) => fail (.noteFilter type.text value message filter))
      path ((filterFailure? type filters value path).map .ofFailure) := by
  refine outcome_filters.trans ?_
  rw [Pad.path_clean]
  rcases filterFailure? type filters value path with fault | _ | failure
  · rfl
  · rfl
  · rfl

theorem tells_checkAny {types : List TypeExpr} {filters : List Filter}
    {first : Option (String × Pad)} {failure : Option Failure}
    (each : ∀ type ∈ types, Tells (corpus.directory.ask identity registry resolving value
      (.type type strict)) path (Docblock.checkType corpus registry closed path type value strict))
    (kept : Kept value first failure) (tried : types = [] → first.isSome = true) :
    Tells (corpus.directory.checkAny identity registry resolving (.clean path) first types value
        filters strict) path
      ((Docblock.checkAny corpus registry closed path types value filters strict failure).map
        .ofFailure) := by
  induction types generalizing first failure with
  | nil =>
    obtain ⟨first, rfl⟩ := Option.isSome_iff_exists.1 (tried rfl)
    cases failure with
    | none => exact kept.elim
    | some failure =>
      rw [Docblock.checkAny]
      exact tells_checkAny_nil kept
  | cons type rest ih =>
    have one := each type (by simp)
    rw [Tells, Directory.ask] at one
    rw [Directory.checkAny, Tells]
    -- Both go by what the first type comes to: it breaks off, the value is of it, or it is not.
    rcases checked : Docblock.checkType corpus registry closed path type value strict with
      fault | verdict
    · rw [checked] at one
      rw [Docblock.checkAny, checked]
      exact outcome_bind_of_error one
    · cases told : verdict.failure? type.text value path with
      | none =>
        cases Verdict.failure?_eq_none.1 told
        rw [checked] at one
        rw [checkAny_of_yes checked]
        refine (outcome_bind_of_ok one).trans ?_
        exact (outcome_bind_of_ok (outcome_set _ _)).trans tells_filters
      | some other =>
        rw [checked, Except.map, Verdict.told_of_failure told] at one
        rw [checkAny_of_refused checked told]
        refine (outcome_bind_of_ok one).trans ?_
        refine (outcome_bind_of_ok (outcome_get _)).trans ?_
        refine (outcome_bind_of_ok (outcome_set _ _)).trans ?_
        refine ih (fun type' ht => each type' (by simp [ht])) (kept.or told) ?_
        intro _
        cases first <;> rfl

theorem tells_check {types : List TypeExpr} {filters : List Filter}
    (each : ∀ type ∈ alternatives types, Tells (corpus.directory.ask identity registry resolving
      value (.type type strict)) path (Docblock.checkType corpus registry closed path type value
        strict)) :
    Tells (corpus.directory.ask identity registry resolving value (.types types filters strict))
      path ((Query.types types filters strict).verdict corpus registry closed path value) := by
  rw [Directory.ask, Query.verdict, Directory.check, Docblock.check]
  refine (outcome_bind_of_ok (outcome_get _)).trans ?_
  exact tells_checkAny each trivial fun none => absurd none (alternatives_ne_nil types)

/-! ## Types and blocks with names -/

theorem tells_checkShape {demands : List Demand} {extra : Except Fault (List Value)} {bound : Nat}
    {shape : Shape}
    (spoken : shape = .members demands extra)
    (members : ∀ demand ∈ shape.demands, Follows corpus identity registry resolving path demand)
    (below : ∀ demand ∈ demands, demand.value.rank < bound) :
    Tells (corpus.directory.checkShape identity registry resolving shape) path (do
      let failure ← Docblock.checkAll corpus registry path bound demands below
      Verdict.ofMembers path extra failure) := by
  subst spoken
  rw [Directory.checkShape]
  exact tells_checkAll members below

theorem tells_checkType {type : TypeExpr}
    (members : ∀ demand ∈ (type.shape value strict).demands,
      Follows corpus identity registry resolving path demand)
    (marks : ∀ ref, (ref, identity path value) ∈ resolving ↔ ref ∈ closed)
    (inside : ∀ ref block, corpus.target? registry type = some ref →
      corpus.block? ref = some block → ref ∉ closed →
      Tells (corpus.directory.ask identity (registry.chain ref.source)
          ((ref, identity path value) :: resolving) value (.block block (strict || block.strict)))
        path (Docblock.checkBlock corpus (registry.chain ref.source) (ref :: closed) path block
          value (strict || block.strict))) :
    Tells (corpus.directory.ask identity registry resolving value (.type type strict)) path
      (Docblock.checkType corpus registry closed path type value strict) := by
  rw [Directory.ask, Directory.checkType]
  cases target : corpus.target? registry type with
  | none =>
    rw [Corpus.directory_target?, target]
    cases shape : type.shape value strict with
    | mismatch =>
      rw [checkType_of_mismatch target shape]
      show Tells (Directory.checkShape _ _ _ _ _) _ _
      rw [Directory.checkShape]
      rfl
    | members demands extra =>
      have below : ∀ demand ∈ demands, demand.value.rank < value.rank := fun demand hd =>
        TypeExpr.rank_lt_of_mem_demands (by rw [shape]; exact hd)
      rw [checkType_of_members target shape below]
      exact tells_checkShape rfl (shape ▸ members) below
  | some ref =>
    obtain ⟨-, block, -, -, found, -⟩ := Corpus.exists_block_of_target target
    rw [Corpus.directory_target?, target]
    simp only [Option.bind_some, found, Option.map_some]
    refine (outcome_bind_of_ok (outcome_get _)).trans ?_
    rw [Pad.path_clean]
    by_cases mem : ref ∈ closed
    · rw [checkType_of_mem target found mem, if_pos ((marks ref).2 mem)]
      rfl
    · rw [checkType_of_not_mem target found mem, if_neg (mt (marks ref).1 mem)]
      exact inside ref block target found mem

theorem tells_checkBlock {block : Block}
    (members : ∀ demand ∈ (Tag.shape block.elements.property value strict).demands,
      Follows corpus identity registry resolving path demand)
    (synonym : ∀ tag, block.elements.typedef = some tag →
      Tells (corpus.directory.ask identity registry resolving value
          (.types (block.elements.aliasTag tag).types (block.elements.aliasTag tag).filters strict))
        path ((Docblock.check corpus registry closed path (block.elements.aliasTag tag).types value
          (block.elements.aliasTag tag).filters strict).map .ofFailure)) :
    Tells (corpus.directory.ask identity registry resolving value (.block block strict)) path
      (Docblock.checkBlock corpus registry closed path block value strict) := by
  rw [Directory.ask, Directory.checkBlock, Docblock.checkBlock]
  split
  · cases value.isCallable <;> rfl
  split
  · split
    · rename_i shape
      rw [shape, Directory.checkShape]
      rfl
    · rename_i shape
      exact tells_checkShape shape members _
  · cases named : block.elements.typedef with
    | none => rfl
    | some tag => exact synonym tag named

/-! ## The whole recursion -/

/-- A trial from a clean pad ends as the checker answers. -/
theorem tells_ask (separates : Separates identity)
    (tracks : Tracks identity resolving closed path value) (query : Query) :
    Tells (corpus.directory.ask identity registry resolving value query) path
      (query.verdict corpus registry closed path value) := by
  induction registry, closed, path, value, query using Query.induction generalizing resolving with
  | types registry closed path value types filters strict ih =>
    exact tells_check fun type ht => ih type ht tracks
  | type registry closed path value type strict ihMember ihBlock =>
    refine tells_checkType (fun demand hd => ?_) tracks.here fun ref block target found fresh => ?_
    · exact ihMember demand hd
        (tracks.member separates demand.steps (TypeExpr.rank_lt_of_mem_demands hd))
    · exact ihBlock ref block target found fresh (tracks.mark ref)
  | block registry closed path value block strict ihMember ihTypes =>
    refine tells_checkBlock (fun demand hd => ?_) fun tag named => ihTypes tag named tracks
    exact ihMember demand hd
      (tracks.member separates demand.steps (Tag.rank_lt_of_mem_demands hd))

end

end Trial

/-! ## Checks end -/

/-- Every check ends, whatever the names of a directory mean and whatever is marked. A block is
marked for the value while it is checked, and one that is met again for the same value fails at
once: that failure is all that changes on the pad. In a corpus a check ends with the checker's
answer. -/
theorem trial_ends [AddressTest] :
    (∀ {ρ ι : Type} [DecidableEq ι] (names : Directory ρ) (identity : List Value → Value → ι)
      (registry : ρ) (resolving : List (BlockRef × ι)) (pad : Pad),
      (∀ value query, (names.ask identity registry resolving value query).EndsAt pad) ∧
      (∀ shape, (names.checkShape identity registry resolving shape).EndsAt pad) ∧
      ∀ type value strict ref block, names.target? registry type = some (ref, block) →
        (names.ask identity registry resolving value (.type type strict)).outcome pad =
          if (ref, identity pad.path value) ∈ resolving then
            some (.ok (false,
              pad.note .type type.text value (cycleMessage (type.name?.getD ""))))
          else
            (names.ask identity (names.chain registry ref)
              ((ref, identity pad.path value) :: resolving) value
              (.block block (strict || block.strict))).outcome pad) ∧
    ∀ {ι : Type} [DecidableEq ι] (identity : List Value → Value → ι), Trial.Separates identity →
      ∀ (corpus : Corpus) (registry : Registry) (path : List Value) (value : Value)
        (query : Query),
        (corpus.directory.ask identity registry [] value query).outcome (.clean path) =
          some ((query.verdict corpus registry [] path value).map (Verdict.told path)) := by
  refine ⟨?_, ?_⟩
  · intro ρ ι _ names identity registry resolving pad
    refine ⟨fun value query => ?_, fun shape => ?_, ?_⟩
    · exact Trial.endsAt_ask names identity registry resolving value query pad
    · exact Trial.endsAt_checkShape
        (fun demand _ pad' => Trial.endsAt_ask names identity registry resolving _ _ pad') pad
    · intro type value strict ref block target
      split
      · rename_i marked
        exact Trial.outcome_ask_of_marked target marked
      · rename_i fresh
        exact Trial.outcome_ask_of_unmarked target fresh
  · intro ι _ identity separates corpus registry path value query
    exact Trial.tells_ask separates .start query

open scoped Net

/-- Null is of a type that is itself or null: the check meets the name again, goes back and ends,
and nothing of it is left on the pad. -/
theorem trial_ends_cycle :
    ((Corpus.ofBlocks "" [Cycle.block]).directory.ask (fun _ value => value.rank) [0] []
        .null (.types Cycle.tag.types [] false)).outcome (.clean []) =
      some (.ok (true, .clean [])) ∧
    ((Corpus.ofBlocks "" [Cycle.block]).directory.ask (fun _ value => value.rank) [0]
        [(⟨0, 0⟩, Value.null.rank)] .null (.type (.named "Node" "Node") false)).outcome (.clean []) =
      some (.ok (false, .ofFailure (.ofType "Node" .null [] (cycleMessage "Node")))) := by
  have separates : Trial.Separates fun _ (value : Value) => value.rank :=
    fun _ _ _ _ smaller => Nat.ne_of_lt smaller
  refine ⟨?_, ?_⟩
  · have ends := trial_ends.2 _ separates (Corpus.ofBlocks "" [Cycle.block]) [0] [] .null
      (.types Cycle.tag.types [] false)
    rw [Query.verdict, Cycle.check_tag] at ends
    exact ends
  · have target : (Corpus.ofBlocks "" [Cycle.block]).directory.target? [0] (.named "Node" "Node") =
        some (⟨0, 0⟩, Cycle.block) := by
      cbv
    have again := (trial_ends.1 _ (fun _ value => value.rank) [0]
      [(⟨0, 0⟩, Value.null.rank)] (.clean [])).2.2 _ .null false _ _ target
    rw [again, if_pos (by simp)]
    rfl

end Docblock
