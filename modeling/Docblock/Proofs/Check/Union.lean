import Docblock.Proofs.Check.Notes

/-!
# What is left of a check of alternatives

A check of alternatives that the value passes leaves the pad as it was. Where the value is of no
alternative, what is left is what a check of the first one alone leaves, whatever the others are.
Where it is of one and a filter fails, the failure is that of the first such alternative and stands
where the check began (`notes_of_alternatives`).

So it is from any pad, with any marks and whatever the names of a directory mean. Each step of the
recursion answers in one of three ways (`Pad.Answer`), and no step looks at what stands on the pad
apart from the path.

The pad at the start is put back after every alternative, and the pad of the first one is kept
aside. With failures of earlier checks on the pad this would be hard to say through the checker,
which has no pad. So the statements about pads are proved of the trial itself, and the checker's
answers are added at the end for a corpus, where both exist.
-/

namespace Docblock

/-! ## Which alternative decides -/

section

variable {decides : TypeExpr → Bool → Prop} {types : List TypeExpr}

/-- Each of the alternatives is refused, when it is tried by itself. -/
def NoneMatch (decides : TypeExpr → Bool → Prop) (types : List TypeExpr) : Prop :=
  ∀ type ∈ types, decides type false

theorem NoneMatch.nil : NoneMatch decides [] := List.forall_mem_nil _

theorem noneMatch_cons {type : TypeExpr} :
    NoneMatch decides (type :: types) ↔ decides type false ∧ NoneMatch decides types :=
  List.forall_mem_cons

/-- A type is the first of the alternatives that matches. -/
inductive FirstMatch (decides : TypeExpr → Bool → Prop) (type : TypeExpr) : List TypeExpr → Prop
  | here {rest : List TypeExpr} (matched : decides type true) :
      FirstMatch decides type (type :: rest)
  | later {other : TypeExpr} {rest : List TypeExpr} (refused : decides other false)
      (found : FirstMatch decides type rest) : FirstMatch decides type (other :: rest)

/-- An alternative is refused, and others are tried. -/
theorem NoneMatch.or_firstMatch_cons {other : TypeExpr} (refused : decides other false)
    (rest : NoneMatch decides types ∨ ∃ type, FirstMatch decides type types) :
    NoneMatch decides (other :: types) ∨ ∃ type, FirstMatch decides type (other :: types) := by
  rcases rest with none | ⟨type, found⟩
  · exact .inl (noneMatch_cons.2 ⟨refused, none⟩)
  · exact .inr ⟨type, .later refused found⟩

end

/-! ## Answers on a pad -/

/-- How a step answers for a value: it passes and the pad is as before, or it does not, and then
either nothing was written or a failure stands on the pad. -/
inductive Pad.Answer (pad : Pad) : Bool → Pad → Prop
  | passed : Answer pad true pad
  | silent : Answer pad false pad
  | failed {left : Pad} (told : left.kind.isSome = true) : Answer pad false left

namespace Trial

theorem exists_of_outcome_bind {α β : Type} {x : Trial α} {f : α → Trial β} {pad : Pad}
    {result : β × Pad} (ended : (x >>= f).outcome pad = some (.ok result)) :
    ∃ a between, x.outcome pad = some (.ok (a, between)) ∧
      (f a).outcome between = some (.ok result) := by
  rw [outcome_bind] at ended
  obtain ⟨first, found, ended⟩ := Option.bind_eq_some_iff.1 ended
  cases first with
  | error fault => cases ended
  | ok step => exact ⟨step.1, step.2, found, ended⟩

theorem isSome_kind_settled (text : String) (value : Value) (pad : Pad) :
    (settled text value pad).kind.isSome = true := by
  unfold settled
  split
  · assumption
  · rfl

section

variable [AddressTest] {ρ ι : Type} [DecidableEq ι] {names : Directory ρ}
variable {identity : List Value → Value → ι}
variable {registry : ρ} {resolving : List (BlockRef × ι)} {value : Value} {filters : List Filter}
variable {strict : Bool} {pad : Pad} {kept : Option (String × Pad)} {types : List TypeExpr}

/-- From a pad, the check against one type comes to whether the value is of it. -/
def Decides (names : Directory ρ) (identity : List Value → Value → ι) (registry : ρ)
    (resolving : List (BlockRef × ι)) (pad : Pad) (value : Value) (strict : Bool) (type : TypeExpr)
    (matched : Bool) : Prop :=
  ∃ left, (names.checkType identity registry resolving type value strict).outcome pad =
    some (.ok (matched, left))

/-- When all that are left are refused, the failure of the first is told. -/
theorem outcome_checkAny_of_noneMatch {first : String × Pad}
    (none : NoneMatch (Decides names identity registry resolving pad value strict) types) :
    (names.checkAny identity registry resolving pad (some first) types value filters
      strict).outcome pad = some (.ok (false, settled first.1 value first.2)) := by
  induction types with
  | nil =>
    rw [Directory.checkAny]
    refine (outcome_bind_of_ok (outcome_set _ _)).trans ?_
    unfold settled
    split
    · rfl
    · rfl
  | cons type rest ih =>
    -- What this one writes is taken back, so the next is tried from the same pad.
    obtain ⟨⟨written, refused⟩, others⟩ := noneMatch_cons.1 none
    rw [Directory.checkAny]
    refine (outcome_bind_of_ok refused).trans ?_
    refine (outcome_bind_of_ok (outcome_get _)).trans ?_
    exact (outcome_bind_of_ok (outcome_set _ _)).trans (ih others)

/-- Whatever was tried before, the first alternative that the value is of decides. -/
theorem outcome_checkAny_of_firstMatch {type : TypeExpr}
    (found : FirstMatch (Decides names identity registry resolving pad value strict) type types) :
    (names.checkAny identity registry resolving pad kept types value filters strict).outcome pad =
      some ((filterFailure? type filters value pad.path).map pad.filtered) := by
  induction found generalizing kept with
  | here matched =>
    obtain ⟨written, matched⟩ := matched
    rw [Directory.checkAny]
    refine (outcome_bind_of_ok matched).trans ?_
    exact (outcome_bind_of_ok (outcome_set _ _)).trans outcome_filters
  | later refused found ih =>
    obtain ⟨written, refused⟩ := refused
    rw [Directory.checkAny]
    refine (outcome_bind_of_ok refused).trans ?_
    refine (outcome_bind_of_ok (outcome_get _)).trans ?_
    exact (outcome_bind_of_ok (outcome_set _ _)).trans ih

/-- Where a check of alternatives has a result, each was refused or one was the first to match. -/
theorem noneMatch_or_firstMatch {result : Bool × Pad}
    (ended : (names.checkAny identity registry resolving pad kept types value filters
      strict).outcome pad = some (.ok result)) :
    NoneMatch (Decides names identity registry resolving pad value strict) types ∨
      ∃ type, FirstMatch (Decides names identity registry resolving pad value strict) type
        types := by
  induction types generalizing kept with
  | nil => exact .inl .nil
  | cons type rest ih =>
    rw [Directory.checkAny] at ended
    obtain ⟨matched, written, found, ended⟩ := exists_of_outcome_bind ended
    cases matched with
    | true => exact .inr ⟨type, .here ⟨written, found⟩⟩
    | false =>
      refine NoneMatch.or_firstMatch_cons ⟨written, found⟩ ?_
      -- Looking at the pad and putting back the one at the start have their results for sure.
      obtain ⟨_, _, ⟨⟩, ended⟩ := exists_of_outcome_bind ended
      obtain ⟨_, _, ⟨⟩, ended⟩ := exists_of_outcome_bind ended
      exact ih ended

/-- When the first alternative is refused and so are the others, what it wrote is left, with a
failure of its own if it wrote none. -/
theorem outcome_check_of_noneMatch {first : TypeExpr} {rest : List TypeExpr} {written : Pad}
    (refused : (names.checkType identity registry resolving first value strict).outcome pad =
      some (.ok (false, written)))
    (others : NoneMatch (Decides names identity registry resolving pad value strict) rest) :
    (names.check identity registry resolving (first :: rest) value filters strict).outcome pad =
      some (.ok (false, settled first.text value written)) := by
  rw [Directory.check]
  refine (outcome_bind_of_ok (outcome_get _)).trans ?_
  show (names.checkAny identity registry resolving pad none (first :: rest) value filters
    strict).outcome pad = _
  rw [Directory.checkAny]
  refine (outcome_bind_of_ok refused).trans ?_
  refine (outcome_bind_of_ok (outcome_get _)).trans ?_
  refine (outcome_bind_of_ok (outcome_set _ _)).trans ?_
  exact outcome_checkAny_of_noneMatch others

theorem outcome_check_of_firstMatch {first type : TypeExpr} {rest : List TypeExpr}
    (found : FirstMatch (Decides names identity registry resolving pad value strict) type
      (first :: rest)) :
    (names.check identity registry resolving (first :: rest) value filters strict).outcome pad =
      some ((filterFailure? type filters value pad.path).map pad.filtered) := by
  rw [Directory.check]
  refine (outcome_bind_of_ok (outcome_get _)).trans ?_
  exact outcome_checkAny_of_firstMatch found

/-- When one alternative is the first to match, the value passes, or a filter fails and its failure
is left. -/
theorem left_of_firstMatch {first type : TypeExpr} {rest : List TypeExpr} {passed : Bool}
    {left : Pad}
    (found : FirstMatch (Decides names identity registry resolving pad value strict) type
      (first :: rest))
    (ended : (names.check identity registry resolving (first :: rest) value filters strict).outcome
      pad = some (.ok (passed, left))) :
    (passed = true ∧ left = pad) ∨ (passed = false ∧ ∃ message filter,
      filterFailure? type filters value pad.path =
        .ok (some (.ofFilter type.text value pad.path message filter)) ∧
      left = pad.noteFilter type.text value message filter) := by
  rw [outcome_check_of_firstMatch found] at ended
  rcases filtered : filterFailure? type filters value pad.path with fault | _ | failure
  · rw [filtered] at ended
    cases ended
  · rw [filtered] at ended
    cases ended
    exact .inl ⟨rfl, rfl⟩
  · obtain ⟨message, filter, rfl⟩ := exists_ofFilter_of_filterFailure filtered
    rw [filtered] at ended
    cases ended
    exact .inr ⟨rfl, message, filter, rfl, rfl⟩

/-! ## Every step answers -/

/-- Steps answer from a pad, if they have a result. -/
def Answers (x : Trial Bool) (pad : Pad) : Prop :=
  ∀ passed left, x.outcome pad = some (.ok (passed, left)) → pad.Answer passed left

theorem told_of_check_cons (first : TypeExpr) (rest : List TypeExpr) {passed : Bool} {left : Pad}
    (ended : (names.check identity registry resolving (first :: rest) value filters strict).outcome
      pad = some (.ok (passed, left))) :
    (passed = true ∧ left = pad) ∨ (passed = false ∧ left.kind.isSome = true) := by
  have tried := ended
  rw [Directory.check] at tried
  obtain ⟨_, _, ⟨⟩, tried⟩ := exists_of_outcome_bind tried
  rcases noneMatch_or_firstMatch tried with none | ⟨type, found⟩
  · obtain ⟨⟨written, refused⟩, others⟩ := noneMatch_cons.1 none
    rw [outcome_check_of_noneMatch refused others] at ended
    cases ended
    exact .inr ⟨rfl, isSome_kind_settled _ _ _⟩
  · rcases left_of_firstMatch found ended with passes | ⟨refused, _, _, -, rfl⟩
    · exact .inl passes
    · exact .inr ⟨refused, rfl⟩

/-- No alternatives stand for a single one. -/
theorem check_nil : names.check identity registry resolving [] value filters strict =
    names.check identity registry resolving [.any "*"] value filters strict := by
  rw [Directory.check, Directory.check]
  rfl

/-- A check of alternatives passes and leaves the pad as it was, or a failure is left. Nothing is
asked of the checks against the single types: what they wrote is taken back, or it holds a failure,
or one is added to it. -/
theorem told_of_check (types : List TypeExpr) {passed : Bool} {left : Pad}
    (ended : (names.check identity registry resolving types value filters strict).outcome pad =
      some (.ok (passed, left))) :
    (passed = true ∧ left = pad) ∨ (passed = false ∧ left.kind.isSome = true) := by
  cases types with
  | nil =>
    rw [check_nil] at ended
    exact told_of_check_cons _ _ ended
  | cons first rest => exact told_of_check_cons first rest ended

theorem answers_check (types : List TypeExpr) :
    Answers (names.check identity registry resolving types value filters strict) pad := by
  intro passed left ended
  rcases told_of_check types ended with ⟨rfl, rfl⟩ | ⟨rfl, told⟩
  · exact .passed
  · exact .failed told

/-- Each member is gone to and come back from, up to one that fails. -/
theorem answers_checkAll (demands : List Demand) (extra : Except Fault (List Value)) :
    Answers (names.checkAll identity registry resolving demands extra) pad := by
  intro passed left ended
  induction demands with
  | nil =>
    rw [Directory.checkAll] at ended
    cases extra with
    | error fault => cases ended
    | ok keys =>
      obtain ⟨_, _, ⟨⟩, ended⟩ := exists_of_outcome_bind ended
      split at ended
      · cases ended
        exact .passed
      · obtain ⟨_, _, ⟨⟩, ended⟩ := exists_of_outcome_bind ended
        -- A message that cannot be written breaks off, so there is one.
        obtain ⟨message, between, written, ended⟩ := exists_of_outcome_bind ended
        cases ended
        exact .failed rfl
  | cons demand rest ih =>
    rw [Directory.checkAll] at ended
    obtain ⟨_, _, ⟨⟩, ended⟩ := exists_of_outcome_bind ended
    obtain ⟨matched, between, checked, ended⟩ := exists_of_outcome_bind ended
    -- A member that passes leaves the pad of the way there, and one that fails is told.
    rcases told_of_check demand.types checked with ⟨rfl, rfl⟩ | ⟨rfl, told⟩
    · obtain ⟨_, _, ⟨⟩, ended⟩ := exists_of_outcome_bind ended
      rw [Pad.leave_enter] at ended
      exact ih ended
    · cases ended
      exact .failed told

theorem answers_checkShape (shape : Shape) :
    Answers (names.checkShape identity registry resolving shape) pad := by
  intro passed left ended
  cases shape with
  | mismatch =>
    rw [Directory.checkShape] at ended
    cases ended
    exact .silent
  | members demands extra =>
    rw [Directory.checkShape] at ended
    exact answers_checkAll demands extra passed left ended

theorem answers_checkBlock (block : Block) :
    Answers (names.checkBlock identity registry resolving block value strict) pad := by
  intro passed left ended
  rw [Directory.checkBlock] at ended
  split at ended
  · cases ended
    cases value.isCallable with
    | true => exact .passed
    | false => exact .silent
  split at ended
  · exact answers_checkShape _ passed left ended
  split at ended
  · cases ended
  · exact answers_check _ passed left ended

/-- The check against a type answers: a block that is met again is a failure of its own. -/
theorem answers_checkType (type : TypeExpr) :
    Answers (names.checkType identity registry resolving type value strict) pad := by
  intro passed left ended
  rw [Directory.checkType] at ended
  split at ended
  · exact answers_checkShape _ passed left ended
  · obtain ⟨_, _, ⟨⟩, ended⟩ := exists_of_outcome_bind ended
    dsimp only at ended
    split at ended
    · cases ended
      exact .failed rfl
    · exact answers_checkBlock _ passed left ended

/-- When all alternatives are refused, the check of the first one alone leaves the same pad: what
that one wrote, or a failure of its own where it wrote none. -/
theorem left_of_noneMatch {first : TypeExpr} {rest : List TypeExpr} {passed : Bool} {left : Pad}
    (clean : pad.kind = none)
    (none : NoneMatch (Decides names identity registry resolving pad value strict) (first :: rest))
    (ended : (names.check identity registry resolving (first :: rest) value filters strict).outcome
      pad = some (.ok (passed, left))) :
    passed = false ∧
      (names.check identity registry resolving [first] value filters strict).outcome pad =
        some (.ok (false, left)) ∧
      ∃ written, (names.checkType identity registry resolving first value strict).outcome pad =
          some (.ok (false, written)) ∧
        (written.kind.isSome = true ∧ left = written ∨
          written = pad ∧ left = pad.note .type first.text value "") := by
  obtain ⟨⟨written, refused⟩, others⟩ := noneMatch_cons.1 none
  rw [outcome_check_of_noneMatch refused others] at ended
  cases ended
  refine ⟨rfl, outcome_check_of_noneMatch refused .nil, written, refused, ?_⟩
  cases answers_checkType first _ _ refused with
  | silent =>
    -- Nothing was written and no failure stood on the pad, so one is added.
    exact .inr ⟨rfl, if_neg (by simp [clean])⟩
  | failed told => exact .inl ⟨told, if_pos told⟩

end

end Trial

/-! ## The checker's answers -/

section

variable [AddressTest] {corpus : Corpus} {registry : Registry} {closed : List BlockRef}
variable {path : List Value} {value : Value} {filters : List Filter} {strict : Bool}
variable {types : List TypeExpr}

/-- The checker tells whether a value is of a type. -/
def Tried (corpus : Corpus) (registry : Registry) (closed : List BlockRef) (path : List Value)
    (value : Value) (strict : Bool) (type : TypeExpr) (matched : Bool) : Prop :=
  ∃ verdict, checkType corpus registry closed path type value strict = .ok verdict ∧
    (verdict = .yes ↔ matched = true)

theorem Tried.exists_failure {type : TypeExpr}
    (refused : Tried corpus registry closed path value strict type false) :
    ∃ verdict failure, checkType corpus registry closed path type value strict = .ok verdict ∧
      verdict.failure? type.text value path = some failure := by
  obtain ⟨verdict, checked, other⟩ := refused
  cases told : verdict.failure? type.text value path with
  | none => cases other.1 (Verdict.failure?_eq_none.1 told)
  | some failure => exact ⟨verdict, failure, checked, told⟩

/-- When all that are left are refused, the failure of the first is told. -/
theorem checkAny_of_noneMatch {failure : Failure}
    (none : NoneMatch (Tried corpus registry closed path value strict) types) :
    checkAny corpus registry closed path types value filters strict (some failure) =
      .ok (some failure) := by
  induction types with
  | nil => rw [checkAny]
  | cons type rest ih =>
    obtain ⟨refused, others⟩ := noneMatch_cons.1 none
    obtain ⟨verdict, other, checked, told⟩ := refused.exists_failure
    rw [checkAny_of_refused checked told]
    exact ih others

/-- Whatever was tried before, the first alternative that the value is of decides. -/
theorem checkAny_of_firstMatch {type : TypeExpr} {kept : Option Failure}
    (found : FirstMatch (Tried corpus registry closed path value strict) type types) :
    checkAny corpus registry closed path types value filters strict kept =
      filterFailure? type filters value path := by
  induction found generalizing kept with
  | here matched =>
    obtain ⟨verdict, checked, yes⟩ := matched
    rw [yes.2 rfl] at checked
    exact checkAny_of_yes checked
  | later refused found ih =>
    obtain ⟨verdict, other, checked, told⟩ := refused.exists_failure
    rw [checkAny_of_refused checked told]
    exact ih

theorem check_of_noneMatch {first : TypeExpr} {rest : List TypeExpr}
    (none : NoneMatch (Tried corpus registry closed path value strict) (first :: rest)) :
    ∃ failure,
      check corpus registry closed path (first :: rest) value filters strict =
        .ok (some failure) ∧
      check corpus registry closed path [first] value filters strict = .ok (some failure) := by
  obtain ⟨refused, others⟩ := noneMatch_cons.1 none
  obtain ⟨verdict, failure, checked, told⟩ := refused.exists_failure
  refine ⟨failure, ?_, ?_⟩
  · rw [check]
    exact (checkAny_of_refused checked told).trans (checkAny_of_noneMatch others)
  · rw [check]
    exact (checkAny_of_refused checked told).trans (checkAny_of_noneMatch .nil)

theorem check_of_firstMatch {first type : TypeExpr} {rest : List TypeExpr}
    (found : FirstMatch (Tried corpus registry closed path value strict) type (first :: rest)) :
    check corpus registry closed path (first :: rest) value filters strict =
      filterFailure? type filters value path := by
  rw [check]
  exact checkAny_of_firstMatch found

end

/-- What is left of a check of alternatives that has a result. When the value passes, the pad is as
it was. When it is of no alternative, the pad is just what the check of the first one alone leaves:
what that wrote, if it wrote a failure, and else a failure of its own at the path. When it is of one,
but a filter fails, this failure is left: it stands at the path and tells the first alternative that
the value is of. There is no other way. The checker returns the same failures. -/
theorem notes_of_alternatives [AddressTest] :
    (∀ {ρ ι : Type} [DecidableEq ι] (names : Directory ρ) (identity : List Value → Value → ι)
      (registry : ρ) (resolving : List (BlockRef × ι)) (first : TypeExpr) (rest : List TypeExpr)
      (value : Value) (filters : List Filter) (strict : Bool) (pad left : Pad) (passed : Bool),
      pad.kind = none →
      (names.check identity registry resolving (first :: rest) value filters strict).outcome pad =
        some (.ok (passed, left)) →
      let decides := Trial.Decides names identity registry resolving pad value strict
      (passed = true → left = pad) ∧
      (NoneMatch decides (first :: rest) → passed = false ∧
        (names.check identity registry resolving [first] value filters strict).outcome pad =
          some (.ok (false, left)) ∧
        ∃ written,
          (names.checkType identity registry resolving first value strict).outcome pad =
            some (.ok (false, written)) ∧
          (written.kind.isSome = true ∧ left = written ∨
            written = pad ∧ left = pad.note .type first.text value "")) ∧
      (∀ type, FirstMatch decides type (first :: rest) → passed = false → ∃ message filter,
        filterFailure? type filters value pad.path =
          .ok (some (.ofFilter type.text value pad.path message filter)) ∧
        left = pad.noteFilter type.text value message filter ∧
        left.path = pad.path ∧ left.expected = type.text) ∧
      (NoneMatch decides (first :: rest) ∨ ∃ type, FirstMatch decides type (first :: rest))) ∧
    ∀ (corpus : Corpus) (registry : Registry) (closed : List BlockRef) (path : List Value)
      (first : TypeExpr) (rest : List TypeExpr) (value : Value) (filters : List Filter)
      (strict : Bool),
      let tried := Tried corpus registry closed path value strict
      (NoneMatch tried (first :: rest) → ∃ failure,
        check corpus registry closed path (first :: rest) value filters strict =
          .ok (some failure) ∧
        check corpus registry closed path [first] value filters strict = .ok (some failure)) ∧
      ∀ type failure, FirstMatch tried type (first :: rest) →
        check corpus registry closed path (first :: rest) value filters strict =
          .ok (some failure) →
        ∃ message filter, failure = .ofFilter type.text value path message filter := by
  refine ⟨?_, ?_⟩
  · intro ρ ι _ names identity registry resolving first rest value filters strict pad left passed
      clean ended decides
    refine ⟨?_, ?_, ?_, ?_⟩
    · rintro rfl
      rcases Trial.told_of_check _ ended with ⟨-, same⟩ | ⟨⟨⟩, -⟩
      exact same
    · intro none
      exact Trial.left_of_noneMatch clean none ended
    · rintro type found rfl
      rcases Trial.left_of_firstMatch found ended with ⟨⟨⟩, -⟩ |
        ⟨-, message, filter, filtered, rfl⟩
      exact ⟨message, filter, filtered, rfl, rfl, rfl⟩
    · rw [Directory.check] at ended
      obtain ⟨_, _, ⟨⟩, ended⟩ := Trial.exists_of_outcome_bind ended
      exact Trial.noneMatch_or_firstMatch ended
  · intro corpus registry closed path first rest value filters strict tried
    refine ⟨check_of_noneMatch, ?_⟩
    intro type failure found failed
    rw [check_of_firstMatch found] at failed
    exact exists_ofFilter_of_filterFailure failed

/-! ### An array of numbers, or a text -/

namespace ListOrText

def corpus : Corpus := .ofBlocks "" []

def list : TypeExpr := .array "number[]" [.primitive "number" .number]

def text : TypeExpr := .primitive "string" .string

def least : Filter := ⟨"min", .int 2, ""⟩

/-- What is wrong with the only item of a list. -/
def item : Failure := .ofType "number" (.string "x") [.string "k", .int 0] ""

def tooShort : Failure :=
  .ofFilter "string" (.string "x") [.string "k"]
    "Expected string \"x\" to be at least 2 characters long" least

section

variable [AddressTest]

/-- The outcome of a check that is one path deep. -/
def outcome (types : List TypeExpr) (value : Value) : Option (Except Fault (Bool × Pad)) :=
  (corpus.directory.check (fun _ value => value.rank) [0] [] types value [least] false).outcome
    (.clean [.string "k"])

theorem tells (value : Value) (query : Query) :
    (corpus.directory.ask (fun _ value => value.rank) [0] [] value query).outcome
      (.clean [.string "k"]) =
    some ((query.verdict corpus [0] [] [.string "k"] value).map
      (Verdict.told [.string "k"])) :=
  trial_ends.2 _ (fun _ _ _ _ smaller => Nat.ne_of_lt smaller) corpus [0] [.string "k"] value query

theorem checkType_list : checkType corpus [0] [] [.string "k"] list (.list [.string "x"]) false =
    .ok (.failed item) := by
  have refused : checkDemand corpus [0] [.string "k"]
      ⟨[.int 0], .string "x", [.primitive "number" .number], []⟩ = .ok (some item) := by
    rw [checkDemand, check]
    refine (checkAny_of_refused (checkType_of_mismatch rfl rfl) rfl).trans ?_
    rw [checkAny]
    rfl
  have shape : list.shape (.list [.string "x"]) false =
      .members [⟨[.int 0], .string "x", [.primitive "number" .number], []⟩] (.ok []) := rfl
  rw [checkType_of_members rfl shape fun demand mem => TypeExpr.rank_lt_of_mem_demands
    (by rw [shape]; exact mem), checkAll_of_some refused]
  rfl

/-- Neither is the list of the first alternative, nor of the second. -/
theorem noneMatch_list : NoneMatch (Trial.Decides corpus.directory (fun _ value => value.rank) [0] []
    (.clean [.string "k"]) (.list [.string "x"]) false) [list, text] := by
  have first := tells (.list [.string "x"]) (.type list false)
  have second := tells (.list [.string "x"]) (.type text false)
  rw [Query.verdict, checkType_list] at first
  rw [Query.verdict, checkType_of_mismatch rfl rfl] at second
  exact noneMatch_cons.2 ⟨⟨_, first⟩, noneMatch_cons.2 ⟨⟨_, second⟩, .nil⟩⟩

theorem firstMatch_text : FirstMatch (Trial.Decides corpus.directory (fun _ value => value.rank) [0]
    [] (.clean [.string "k"]) (.string "x") false) text [list, text] := by
  have first := tells (.string "x") (.type list false)
  have second := tells (.string "x") (.type text false)
  rw [Query.verdict, checkType_of_mismatch rfl rfl] at first
  rw [Query.verdict, checkType_of_plain rfl rfl] at second
  exact .later ⟨_, first⟩ (.here ⟨_, second⟩)

theorem outcome_list : outcome [list, text] (.list [.string "x"]) =
    some (.ok (false, .ofFailure item)) := by
  have checked : check corpus [0] [] [.string "k"] [list, text] (.list [.string "x"]) [least] false =
      .ok (some item) := by
    rw [check]
    refine (checkAny_of_refused checkType_list rfl).trans ?_
    refine (checkAny_of_refused (checkType_of_mismatch rfl rfl) rfl).trans ?_
    rw [checkAny]
    rfl
  have ends := tells (.list [.string "x"]) (.types [list, text] [least] false)
  rw [Query.verdict, checked] at ends
  exact ends

theorem outcome_text : outcome [list, text] (.string "x") =
    some (.ok (false, .ofFailure tooShort)) := by
  have checked : check corpus [0] [] [.string "k"] [list, text] (.string "x") [least] false =
      .ok (some tooShort) := by
    rw [check]
    refine (checkAny_of_refused (checkType_of_mismatch rfl rfl) rfl).trans ?_
    refine (checkAny_of_yes (checkType_of_plain rfl rfl)).trans ?_
    cbv
  have ends := tells (.string "x") (.types [list, text] [least] false)
  rw [Query.verdict, checked] at ends
  exact ends

end

end ListOrText

open scoped Net

/-- A list of texts leaves what the check against numbers alone leaves: the failure of its item,
below the path. A text that is too short leaves a failure at the path. -/
theorem notes_of_alternatives_list_or_text :
    ListOrText.outcome [ListOrText.list, ListOrText.text] (.list [.string "x"]) =
      some (.ok (false, .ofFailure ListOrText.item)) ∧
    ListOrText.outcome [ListOrText.list] (.list [.string "x"]) =
      some (.ok (false, .ofFailure ListOrText.item)) ∧
    ∃ message filter, Pad.ofFailure ListOrText.tooShort =
      (Pad.clean [.string "k"]).noteFilter "string" (.string "x") message filter := by
  have first := notes_of_alternatives.1 ListOrText.corpus.directory (fun _ value => value.rank) [0]
    [] ListOrText.list [ListOrText.text] _ _ _ _ _ _ rfl ListOrText.outcome_list
  have second := notes_of_alternatives.1 ListOrText.corpus.directory (fun _ value => value.rank) [0]
    [] ListOrText.list [ListOrText.text] _ _ _ _ _ _ rfl ListOrText.outcome_text
  obtain ⟨-, alone, -⟩ := first.2.1 ListOrText.noneMatch_list
  obtain ⟨message, filter, -, left, -⟩ := second.2.2.1 _ ListOrText.firstMatch_text rfl
  exact ⟨ListOrText.outcome_list, alone, message, filter, left⟩

end Docblock
