import Docblock.Proofs.Block.Places
import Docblock.Proofs.Check.Strictness

/-!
# Arguments as an object

Arguments can be checked by their places, or as an object that has each of them under the key of the
parameters at its place. The two ways read members of arguments, skip what is optional and refuse
what is too much each in its own manner, and where a failure stands they tell differently. But for
that the reports are the same (`arguments_of_ofSource`): the checker does the same at every path
(`Query.verdict_alike`), and the parameters at a place all declare one key.

The paths must not differ in whether they have a text, for what is told about keys that are too much
shows the path. Names always have one, and the two ways differ in names only, so nothing is asked of
the arguments here. Which parameters share a place is a matter of how a block is read, and not of
this file.

Two outcomes are compared by a part of them (`Alike`), and steps that are alike stay so when they
are put together. The part is all of a failure but its path and its message, and whether it can be
told. The last is needed although no report shows it: of two failures at different paths one might
have a text and the other none.
-/

namespace Docblock

/-! ## Outcomes up to some part of them -/

/-- Two outcomes are the same as far as a part of them goes. -/
def Alike {α γ : Type} (part : α → γ) (x y : Except Fault α) : Prop := x.map part = y.map part

section

variable {α β γ δ : Type} {part : α → γ} {part' : β → δ} {x y : Except Fault α}

theorem Alike.refl (part : α → γ) (x : Except Fault α) : Alike part x x := rfl

theorem Alike.bind_of_ok {f g : α → Except Fault β} (h : Alike part x y)
    (step : ∀ a b, y = .ok b → part a = part b → Alike part' (f a) (g b)) :
    Alike part' (x >>= f) (y >>= g) := by
  unfold Alike at h
  cases x with
  | error fault =>
    cases y with
    | error other =>
      cases h
      rfl
    | ok b => cases h
  | ok a =>
    cases y with
    | error other => cases h
    | ok b => exact step a b rfl (Except.ok.inj h)

theorem Alike.bind {f g : α → Except Fault β} (h : Alike part x y)
    (step : ∀ a b, part a = part b → Alike part' (f a) (g b)) : Alike part' (x >>= f) (y >>= g) :=
  h.bind_of_ok fun a b _ => step a b

theorem Alike.bind_same {f g : α → Except Fault β} (step : ∀ a, Alike part' (f a) (g a)) :
    Alike part' (x >>= f) (x >>= g) := by
  cases x with
  | error fault => rfl
  | ok a => exact step a

theorem Alike.pure {a b : α} (h : part a = part b) :
    Alike part (Pure.pure a : Except Fault α) (Pure.pure b) :=
  congrArg Except.ok h

/-- Two texts that are missing together are the same as far as a part of what they are for goes. -/
theorem Alike.of_missingIff {x y : Except Fault α} {long more : Prop} (hx : MissingIff x long)
    (hy : MissingIff y more) (same : long ↔ more)
    (parts : ∀ a b, x = .ok a → y = .ok b → part a = part b) : Alike part x y := by
  by_cases missing : long
  · rw [(hx _).2 ⟨rfl, missing⟩, (hy _).2 ⟨rfl, same.1 missing⟩]
    rfl
  · obtain ⟨a, ha⟩ := hx.exists_ok missing
    obtain ⟨b, hb⟩ := hy.exists_ok (mt same.2 missing)
    rw [ha, hb]
    exact congrArg Except.ok (parts a b ha hb)

end

/-! ## Failures without their paths -/

/-- A failure without what tells where it stands: its path, and the message that may show it. -/
def Failure.bare (failure : Failure) : Failure := { failure with path := [], message := "" }

/-- Of two paths both have a text, or neither has. -/
def Value.SameText (path path' : List Value) : Prop :=
  (∃ key ∈ path, key.Unwritable) ↔ ∃ key ∈ path', key.Unwritable

theorem Value.SameText.append {path path' : List Value} (same : SameText path path')
    (steps : List Value) : SameText (path ++ steps) (path' ++ steps) := by
  unfold SameText at *
  simp only [List.mem_append, or_and_right, exists_or, same]

/-- All names have a text. -/
theorem Value.sameText_strings (names names' : List String) :
    SameText (names.map .string) (names'.map .string) := by
  have writable : ∀ names : List String, ¬∃ key ∈ names.map Value.string, key.Unwritable := by
    rintro names ⟨key, mem, unwritable⟩
    obtain ⟨name, -, rfl⟩ := List.mem_map.1 mem
    exact not_unwritable_string name unwritable
  exact iff_of_false (writable names) (writable names')

/-- What is the same of a failure wherever the check began: all but its path and message, and whether
it can be told. -/
def Failure.outline (failure : Failure) : Failure × Prop := (failure.bare, failure.Untold 0)

/-- What is the same of a verdict wherever the check began. -/
def Verdict.outline : Verdict → Option (Option (Failure × Prop))
  | yes => none
  | no => some none
  | failed failure => some (some failure.outline)

/-- Every path that has a key is shown at depth zero, so the depth says nothing there. -/
theorem Failure.untold_zero_iff {failure : Failure} :
    failure.Untold 0 ↔ failure.message = "" ∧ ∃ key ∈ failure.path, key.Unwritable :=
  ⟨fun untold => ⟨untold.silent, untold.unwritable⟩, fun ⟨silent, key, mem, unwritable⟩ =>
    ⟨silent, List.length_pos_of_mem mem, key, mem, unwritable⟩⟩

theorem Failure.outline_eq {failure failure' : Failure} (bare : failure.bare = failure'.bare)
    (message : failure.message = failure'.message)
    (same : Value.SameText failure.path failure'.path) : failure.outline = failure'.outline := by
  have untold : failure.Untold 0 = failure'.Untold 0 := by
    rw [untold_zero_iff, untold_zero_iff, message, propext same]
  unfold outline
  rw [bare, untold]

/-- A failure with a message can be told. -/
theorem Failure.outline_of_message {failure : Failure} (told : failure.message ≠ "") :
    failure.outline = (failure.bare, False) := by
  have untold : failure.Untold 0 = False := eq_false fun untold => told untold.silent
  unfold outline
  rw [untold]

theorem Failure.bare_of_explain {what : String} {depth : Nat} {failure told : Failure}
    (h : failure.explain what depth = .ok told) : told.bare = failure.bare := by
  obtain ⟨message, rfl⟩ := exists_of_explain h
  rfl

theorem Failure.message_ne_of_ofExtraKeys {extra path : List Value} {failure : Failure}
    (h : ofExtraKeys extra path = .ok failure) : failure.message ≠ "" := by
  obtain ⟨message, written, h⟩ := bind_eq_ok.1 h
  obtain ⟨names, -, written⟩ := bind_eq_ok.1 written
  obtain ⟨place, -, written⟩ := bind_eq_ok.1 written
  cases h
  cases written
  intro empty
  have := congrArg String.length empty
  simp [ofExcess] at this

theorem Failure.bare_of_ofExtraKeys {extra path : List Value} {failure : Failure}
    (h : ofExtraKeys extra path = .ok failure) : failure.bare = ofExcess [] "" := by
  obtain ⟨message, -, h⟩ := bind_eq_ok.1 h
  cases h
  rfl

section

variable {path path' : List Value} {value : Value}

theorem Verdict.outline_ofFailure (outcome : Option Failure) :
    (ofFailure outcome).outline = (outcome.map Failure.outline).map some := by
  cases outcome <;> rfl

theorem alike_ofFailure_iff {x y : Except Fault (Option Failure)} :
    Alike Verdict.outline (x.map .ofFailure) (y.map .ofFailure) ↔
      Alike (Option.map Failure.outline) x y := by
  unfold Alike
  cases x with
  | error fault => cases y <;> simp [Except.map]
  | ok outcome =>
    cases y with
    | error fault => simp [Except.map]
    | ok outcome' =>
      simp only [Except.map, Except.ok.injEq, Verdict.outline_ofFailure]
      exact (Option.map_injective (Option.some_injective _)).eq_iff

/-- What is told about keys that are too much shows the path, so both paths need a text, or neither
has one. -/
theorem Failure.ofExtraKeys_alike (same : Value.SameText path path') (extra : List Value) :
    Alike outline (ofExtraKeys extra path) (ofExtraKeys extra path') := by
  refine .of_missingIff (missingIff_ofExtraKeys extra path) (missingIff_ofExtraKeys extra path') ?_
    fun first second hf hs => ?_
  · simp only [List.mem_append, or_and_right, exists_or]
    exact or_congr Iff.rfl same
  · rw [outline_of_message (message_ne_of_ofExtraKeys hf),
      outline_of_message (message_ne_of_ofExtraKeys hs), bare_of_ofExtraKeys hf,
      bare_of_ofExtraKeys hs]

theorem Verdict.ofMembers_alike (same : Value.SameText path path')
    (extra : Except Fault (List Value)) {outcome outcome' : Option Failure}
    (h : outcome.map Failure.outline = outcome'.map Failure.outline) :
    Alike outline (ofMembers path extra outcome) (ofMembers path' extra outcome') := by
  cases outcome <;> cases outcome' <;> simp only [Option.map_some, Option.map_none,
    reduceCtorEq, Option.some.injEq] at h
  · refine .bind_same fun keys => ?_
    split
    · exact .refl _ _
    · exact (Failure.ofExtraKeys_alike same keys).bind fun _ _ told =>
        .pure (congrArg (some ∘ some) told)
  · exact .pure (congrArg (some ∘ some) h)

theorem Verdict.outline_failure? (expected : String) (same : Value.SameText path path')
    {verdict verdict' : Verdict} (h : verdict.outline = verdict'.outline) :
    (verdict.failure? expected value path).map Failure.outline =
      (verdict'.failure? expected value path').map Failure.outline := by
  cases verdict <;> cases verdict' <;> simp only [outline, reduceCtorEq, Option.some.injEq] at h
  · rfl
  · exact congrArg some (Failure.outline_eq rfl rfl same)
  · exact congrArg some h

end

section

variable [AddressTest] {corpus : Corpus} {registry : Registry} {closed : List BlockRef}
variable {path path' : List Value} {value : Value} {strict : Bool}

theorem filterFailure?_alike (same : Value.SameText path path') (type : TypeExpr)
    (filters : List Filter) :
    Alike (Option.map Failure.outline) (filterFailure? type filters value path)
      (filterFailure? type filters value path') := by
  unfold filterFailure?
  split
  · exact .refl _ _
  · refine .bind_same fun failed => .pure ?_
    cases failed with
    | none => rfl
    | some found => exact congrArg some (Failure.outline_eq rfl rfl same)

/-! ## The same at every path -/

theorem checkDemands_alike {demands : List Demand}
    (each : ∀ demand ∈ demands, Alike (Option.map Failure.outline)
      (checkDemand corpus registry path demand) (checkDemand corpus registry path' demand)) :
    Alike (Option.map Failure.outline) (checkDemands corpus registry path demands)
      (checkDemands corpus registry path' demands) := by
  induction demands with
  | nil => exact .refl _ _
  | cons demand rest ih =>
    rw [checkDemands, checkDemands]
    refine (each demand (by simp)).bind fun outcome outcome' same => ?_
    cases outcome <;> cases outcome' <;> simp only [Option.map_some, Option.map_none,
      reduceCtorEq, Option.some.injEq] at same
    · exact ih fun other ho => each other (by simp [ho])
    · exact .pure (congrArg some same)

theorem checkShape_alike (same : Value.SameText path path') {shape : Shape}
    (each : ∀ demand ∈ shape.demands, Alike (Option.map Failure.outline)
      (checkDemand corpus registry path demand) (checkDemand corpus registry path' demand)) :
    Alike Verdict.outline (checkShape corpus registry path shape)
      (checkShape corpus registry path' shape) := by
  cases shape with
  | mismatch => exact .refl _ _
  | members demands extra =>
    rw [checkShape, checkShape]
    exact (checkDemands_alike each).bind fun _ _ told => Verdict.ofMembers_alike same extra told

theorem checkAny_alike (same : Value.SameText path path') {types : List TypeExpr}
    {filters : List Filter} {first first' : Option Failure}
    (each : ∀ type ∈ types, Alike Verdict.outline
      (checkType corpus registry closed path type value strict)
      (checkType corpus registry closed path' type value strict))
    (begun : first.map Failure.outline = first'.map Failure.outline) :
    Alike (Option.map Failure.outline)
      (checkAny corpus registry closed path types value filters strict first)
      (checkAny corpus registry closed path' types value filters strict first') := by
  induction types generalizing first first' with
  | nil =>
    rw [checkAny, checkAny]
    exact .pure begun
  | cons type rest ih =>
    rw [checkAny, checkAny]
    refine (each type (by simp)).bind fun verdict verdict' alike => ?_
    have told : (verdict.failure? type.text value path).map Failure.outline =
        (verdict'.failure? type.text value path').map Failure.outline :=
      Verdict.outline_failure? _ same alike
    cases failed : verdict.failure? type.text value path <;>
      cases failed' : verdict'.failure? type.text value path' <;>
      rw [failed, failed'] at told <;>
      simp only [Option.map_some, Option.map_none, reduceCtorEq, Option.some.injEq] at told
    · exact filterFailure?_alike same type filters
    · refine ih (fun other ho => each other (by simp [ho])) ?_
      cases first <;> cases first' <;> simp only [Option.map_some, Option.map_none,
        reduceCtorEq, Option.some.injEq] at begun
      · exact congrArg some told
      · exact congrArg some begun

/-- The checker does the same at two paths of which both have a text, or neither, but for telling
where a failure stands. -/
theorem Query.verdict_alike (query : Query) {path' : List Value}
    (same : Value.SameText path path') :
    Alike Verdict.outline (query.verdict corpus registry closed path value)
      (query.verdict corpus registry closed path' value) := by
  induction registry, closed, path, value, query using Query.induction generalizing path' with
  | types registry closed path value types filters strict ih =>
    refine alike_ofFailure_iff.2 ?_
    rw [check, check]
    exact checkAny_alike same (fun type mem => ih type mem same) rfl
  | type registry closed path value type strict ihMember ihBlock =>
    rcases target : corpus.target? registry type with _ | ref
    · simp only [verdict, checkType_of_form target]
      exact checkShape_alike same fun demand hd =>
        alike_ofFailure_iff.1 (ihMember demand hd (same.append demand.steps))
    · obtain ⟨-, block, -, -, found, -⟩ := Corpus.exists_block_of_target target
      by_cases mem : ref ∈ closed
      · simp only [verdict, checkType_of_mem target found mem]
        exact .pure (congrArg (some ∘ some) (Failure.outline_eq rfl rfl same))
      · simp only [verdict, checkType_of_not_mem target found mem]
        exact ihBlock ref block target found mem same
  | block registry closed path value block strict ihMember ihTypes =>
    rcases block.stands with function | ⟨other, described⟩ | ⟨other, bare, nameless⟩ |
      ⟨other, bare, tag, named⟩
    · simp only [verdict, checkBlock_of_callback function]
      exact .refl _ _
    · simp only [verdict, checkBlock_of_property other described]
      exact checkShape_alike same fun demand hd =>
        alike_ofFailure_iff.1 (ihMember demand hd (same.append demand.steps))
    · simp only [verdict, checkBlock_of_nameless other bare nameless]
      exact .refl _ _
    · rw [verdict_block_of_synonym other bare named, verdict_block_of_synonym other bare named]
      exact ihTypes tag named same

/-- A check of alternatives does the same at two paths of which both have a text, or neither. -/
theorem check_alike (same : Value.SameText path path') (types : List TypeExpr)
    (filters : List Filter) :
    Alike (Option.map Failure.outline)
      (check corpus registry closed path types value filters strict)
      (check corpus registry closed path' types value filters strict) :=
  alike_ofFailure_iff.1 (Query.verdict_alike (.types types filters strict) same)

end

/-! ## Arguments under keys -/

/-- Arguments from a place on, each under the key that the parameters at its place declare. -/
def keyedEntries (tags : List Tag) (start : Nat) (args : List Value) : List (Value × Value) :=
  (args.zipIdx start).filterMap fun (arg, place) =>
    (tags.find? (·.place == place)).map fun tag => (.string tag.declaredKey, arg)

/-- Arguments as an object: each stands under the key that the parameters at its place declare. -/
def keyedArguments (tags : List Tag) (args : List Value) : Value :=
  .mapping (keyedEntries tags 0 args)

/-- Just the tags at one place declare one key. -/
def Tag.KeyedByPlace (tags : List Tag) : Prop :=
  ∀ tag ∈ tags, ∀ other ∈ tags, tag.place = other.place ↔ tag.declaredKey = other.declaredKey

section

variable {tags : List Tag} {tag : Tag} {args : List Value}

theorem keyedEntries_cons_of_none {start : Nat} {arg : Value} {rest : List Value}
    (free : tags.find? (·.place == start) = none) :
    keyedEntries tags start (arg :: rest) = keyedEntries tags (start + 1) rest := by
  simp [keyedEntries, List.zipIdx_cons, free]

theorem keyedEntries_cons_of_some {start : Nat} {arg : Value} {rest : List Value}
    (found : tags.find? (·.place == start) = some tag) :
    keyedEntries tags start (arg :: rest) =
      (.string tag.declaredKey, arg) :: keyedEntries tags (start + 1) rest := by
  simp [keyedEntries, List.zipIdx_cons, found]

theorem lookup_keyedEntries (keyed : Tag.KeyedByPlace tags) (mem : tag ∈ tags) {start : Nat}
    (le : start ≤ tag.place) :
    Value.lookup (.string tag.declaredKey) (keyedEntries tags start args) =
      args[tag.place - start]?.getD .undefined := by
  induction args generalizing start with
  | nil => rfl
  | cons arg rest ih =>
    -- At another place stands another key, so the search goes on behind it.
    have later : start ≠ tag.place →
        Value.lookup (.string tag.declaredKey) (keyedEntries tags (start + 1) rest) =
          (arg :: rest)[tag.place - start]?.getD .undefined := by
      intro ne
      have after : tag.place - start = tag.place - (start + 1) + 1 := by omega
      rw [ih (by omega), after, List.getElem?_cons_succ]
    cases found : tags.find? (·.place == start) with
    | none =>
      rw [keyedEntries_cons_of_none found]
      refine later fun here => ?_
      have none_here := List.find?_eq_none.1 found tag mem
      simp [here] at none_here
    | some other =>
      have at_start : other.place = start := by simpa using List.find?_some found
      have same := keyed other (List.mem_of_find?_eq_some found) tag mem
      rw [keyedEntries_cons_of_some found, Value.lookup]
      by_cases here : start = tag.place
      · have key : other.declaredKey = tag.declaredKey := same.1 (at_start.trans here)
        simp [Value.eqv, key, here]
      · have key : other.declaredKey ≠ tag.declaredKey := fun key =>
          here (at_start.symm.trans (same.2 key))
        simp [Value.eqv, key, later here]

/-- Under its key a parameter finds the argument at its place. -/
theorem member_keyedArguments (keyed : Tag.KeyedByPlace tags) (mem : tag ∈ tags) :
    (keyedArguments tags args).member (.string tag.declaredKey) =
      args[tag.place]?.getD .undefined :=
  lookup_keyedEntries keyed mem (Nat.zero_le _)

/-- Every key of the arguments is declared. -/
theorem undeclared_keyedArguments :
    (keyedArguments tags args).undeclared (tags.map Tag.declaredKey) = [] := by
  rw [Value.undeclared_eq_nil_iff]
  intro key own
  obtain ⟨entry, mem, rfl⟩ := List.mem_map.1 own
  obtain ⟨⟨arg, place⟩, -, found⟩ := List.mem_filterMap.1 mem
  obtain ⟨tag, there, rfl⟩ := Option.map_eq_some_iff.1 found
  exact ⟨tag.declaredKey, List.mem_map_of_mem (List.mem_of_find?_eq_some there), rfl⟩

theorem shape_keyedArguments (tags : List Tag) (args : List Value) (strict : Bool) :
    Tag.shape tags (keyedArguments tags args) strict =
      .members (tags.filterMap (Demand.ofTag? (keyedArguments tags args))) (.ok []) := by
  have object : (keyedArguments tags args).isObject = true := rfl
  rw [Tag.shape, if_pos object, undeclared_keyedArguments, ite_self]

/-- What a parameter demands of the object is what it is asked of the arguments. -/
theorem ofTag?_keyedArguments (keyed : Tag.KeyedByPlace tags) (mem : tag ∈ tags) :
    Demand.ofTag? (keyedArguments tags args) tag =
      if tag.optional && (Schema.argumentOf args tag).1.isUndefined then none
      else some ⟨Demand.tagSteps tag, (Schema.argumentOf args tag).1, tag.types, tag.filters⟩ := by
  have found : (keyedArguments tags args).member (.string tag.declaredKey) =
      args[tag.place]?.getD .undefined := member_keyedArguments keyed mem
  have member : (Demand.tagSteps tag).foldl Value.member (keyedArguments tags args) =
      (Schema.argumentOf args tag).1 := by
    unfold Demand.tagSteps Schema.argumentOf
    unfold Tag.declaredKey at found
    cases dotted : tag.member with
    | none =>
      rw [dotted] at found
      exact found
    | some parts =>
      rw [dotted] at found
      exact congrArg (Value.member · (.string parts.2)) found
  unfold Demand.ofTag?
  dsimp only
  rw [member]

end

/-! ## Reports -/

/-- A report whose failure does not tell where it stands. -/
def Report.bare (report : Report) : Report :=
  { report with failure := report.failure.map Failure.bare }

theorem Report.passed_bare (report : Report) : report.bare.passed = report.passed :=
  Option.isNone_map

/-- A failure below a name can be told just when the failure can without the name. -/
theorem Failure.keyUntold_iff {failure : Failure} {name : String} {rest : List Value}
    (path : failure.path = .string name :: rest) : failure.KeyUntold ↔ failure.Untold 0 := by
  have writable : ¬(Value.string name).Unwritable := Value.not_unwritable_string name
  rw [untold_zero_iff, KeyUntold]
  constructor
  · rintro (⟨key, head, unwritable⟩ | untold)
    · rw [path] at head
      cases head
      exact absurd unwritable writable
    · exact ⟨untold.silent, untold.unwritable⟩
  · rintro ⟨silent, key, mem, unwritable⟩
    refine .inr ⟨silent, ?_, key, mem, unwritable⟩
    -- The key without a text is not the name, so it stands deeper.
    rw [path] at mem ⊢
    rcases List.mem_cons.1 mem with rfl | mem
    · exact absurd unwritable writable
    · exact Nat.succ_lt_succ (List.length_pos_of_mem mem)

/-- Two reports about failures that are alike are alike, when one shows the whole path and the other
the key that it begins with and what is below. -/
theorem Report.explained_alike (kind : TagKind) {failure below : Failure} {name : String}
    {rest : List Value} (path : below.path = .string name :: rest)
    (same : failure.outline = below.outline) :
    Alike bare (explained kind "argument" 0 (some failure)) (do
      explained kind (← Schema.keyText below) 1 (some below)) := by
  obtain ⟨parts, untold⟩ := Prod.mk.inj same
  have told : MissingIff (do explained kind (← Schema.keyText below) 1 (some below))
      below.KeyUntold :=
    (Schema.missingIff_keyText below).bind fun what => missingIff_explained kind what 1 below
  refine .of_missingIff (missingIff_explained kind "argument" 0 failure) told ?_
    fun first second hf hs => ?_
  · rw [Failure.keyUntold_iff path, untold]
  · obtain ⟨what, -, hs⟩ := bind_eq_ok.1 hs
    obtain ⟨shown, here, rfl⟩ := map_eq_ok.1 hf
    obtain ⟨shown', there, rfl⟩ := map_eq_ok.1 hs
    have shown_eq : shown.bare = shown'.bare := by
      rw [Failure.bare_of_explain here, Failure.bare_of_explain there, parts]
    exact congrArg (Report.mk (some kind) ∘ some) shown_eq

theorem Alike.approved_iff {answer other : Except Fault Report} (h : Alike Report.bare answer other) :
    Approved answer ↔ Approved other := by
  have of_alike : ∀ {x y : Except Fault Report}, Alike Report.bare x y → Approved x → Approved y := by
    rintro x y h ⟨report, rfl, passed⟩
    cases y with
    | error fault => cases h
    | ok report' =>
      have same : report.bare = report'.bare := Except.ok.inj h
      refine ⟨report', rfl, ?_⟩
      rwa [← report'.passed_bare, ← same, report.passed_bare]
  exact ⟨of_alike h, of_alike h.symm⟩

namespace Schema

variable {schema : Schema} {tags : List Tag} {args : List Value}

/-- The keys that lead to a parameter are names, in arguments and in an object. -/
theorem sameText_argumentOf (args : List Value) (tag : Tag) :
    Value.SameText (argumentOf args tag).2 ([] ++ Demand.tagSteps tag) := by
  unfold argumentOf Demand.tagSteps
  cases tag.member with
  | none => exact Value.sameText_strings [] [tag.name]
  | some parts => exact Value.sameText_strings [parts.2] [parts.1, parts.2]

theorem le_foldl_place (tags : List Tag) (n : Nat) :
    n ≤ tags.foldl (fun n tag => max n (tag.place + 1)) n := by
  induction tags generalizing n with
  | nil => exact Nat.le_refl n
  | cons first rest ih => exact (Nat.le_max_left n _).trans (ih _)

theorem place_lt_foldl {tag : Tag} (mem : tag ∈ tags) (n : Nat) :
    tag.place < tags.foldl (fun n tag => max n (tag.place + 1)) n := by
  induction tags generalizing n with
  | nil => cases mem
  | cons first rest ih =>
    rcases List.mem_cons.1 mem with rfl | mem
    · exact (Nat.lt_succ_self _).trans_le ((Nat.le_max_right n _).trans (le_foldl_place rest _))
    · exact ih mem _

/-- Every place is below the number of arguments that are declared. -/
theorem place_lt_arity {tag : Tag} (mem : tag ∈ tags) : tag.place < arity tags :=
  place_lt_foldl mem 0

/-- No more places are taken than arguments are declared. -/
theorem length_places_le_arity (tags : List Tag) :
    (tags.map (·.place)).dedup.length ≤ arity tags := by
  have below : (tags.map (·.place)).dedup ⊆ List.range (arity tags) := by
    intro place hp
    obtain ⟨tag, mem, rfl⟩ := List.mem_map.1 (List.mem_dedup.1 hp)
    exact List.mem_range.2 (place_lt_arity mem)
  have fewer := ((List.nodup_dedup _).subperm below).length_le
  rwa [List.length_range] at fewer

section

variable [AddressTest]

/-- A failure of an object stands below a name. -/
theorem exists_name_of_checkDemands {corpus : Corpus} {registry : Registry} {value : Value}
    {failure : Failure} (h : checkDemands corpus registry []
      (tags.filterMap (Demand.ofTag? value)) = .ok (some failure)) :
    ∃ name rest, failure.path = .string name :: rest := by
  obtain ⟨demand, mem, found⟩ := exists_of_checkDemands h
  obtain ⟨tag, -, asked⟩ := List.mem_filterMap.1 mem
  obtain ⟨below, path⟩ : demand.steps <+: failure.path := isPrefix_of_check found
  unfold Demand.ofTag? at asked
  dsimp only at asked
  split at asked
  · cases asked
  · cases asked
    rw [← path]
    unfold Demand.tagSteps
    cases tag.member with
    | none => exact ⟨_, _, rfl⟩
    | some parts => exact ⟨_, _, rfl⟩

theorem checkArguments_alike (keyed : Tag.KeyedByPlace tags) {rest : List Tag}
    (sub : ∀ tag ∈ rest, tag ∈ tags) :
    Alike (Option.map Failure.outline) (schema.checkArguments args rest)
      (checkDemands schema.corpus schema.registry []
        (rest.filterMap (Demand.ofTag? (keyedArguments tags args)))) := by
  induction rest with
  | nil => exact .refl _ _
  | cons tag rest ih =>
    have later := ih fun other ho => sub other (by simp [ho])
    -- Both skip the tag, or both ask the same of its argument.
    rw [checkArguments, List.filterMap_cons, ofTag?_keyedArguments keyed (sub tag (by simp))]
    have same : Value.SameText (argumentOf args tag).2 ([] ++ Demand.tagSteps tag) :=
      sameText_argumentOf args tag
    revert same
    rcases argumentOf args tag with ⟨arg, steps⟩
    dsimp only
    intro same
    split
    · exact later
    · rw [checkDemands, checkDemand]
      refine (check_alike same tag.types tag.filters).bind fun outcome outcome' told => ?_
      cases outcome <;> cases outcome' <;> simp only [Option.map_some, Option.map_none,
        reduceCtorEq, Option.some.injEq] at told
      · exact later
      · exact .pure (congrArg some told)

/-- Arguments by their places and as an object give the same report, but for telling where. -/
theorem reportArguments_alike (keyed : Tag.KeyedByPlace schema.elements.param)
    (few : args.length ≤ (schema.elements.param.map (·.place)).dedup.length) :
    Alike Report.bare (schema.reportArguments args)
      (schema.reportKeys TagKind.param.name (keyedArguments schema.elements.param args)) := by
  -- No argument is too much and no key undeclared, so strictness makes no difference.
  have fits : schema.excess? args = none :=
    excess?_eq_none_iff.2 fun _ => few.trans (length_places_le_arity _)
  have known : schema.keyTags? TagKind.param.name = some (.param, schema.elements.param) :=
    if_pos rfl
  rw [reportArguments, reportKeys, known, fits]
  dsimp only
  rw [checkKeys_eq, shape_keyedArguments]
  simp only [checkShape, bind_assoc]
  refine (checkArguments_alike keyed fun _ => id).bind_of_ok fun outcome outcome' checked same => ?_
  cases outcome <;> cases outcome' <;> simp only [Option.map_some, Option.map_none,
    reduceCtorEq, Option.some.injEq] at same
  · exact .refl _ _
  · obtain ⟨name, rest, path⟩ := exists_name_of_checkDemands checked
    exact Report.explained_alike .param path same

end

end Schema

/-- Arguments of a block that was read pass by their places just when they pass as an object, where
parameters at other places declare other keys and there are no more arguments than places. Either way
the same breaks off the check, and a failure is the same but for its path and message. -/
theorem arguments_of_ofSource [AddressTest] {file code : String} {blocks : List Block}
    (parsed : Block.ofSource file code = .ok blocks) {block : Block} (mem : block ∈ blocks)
    (apart : ∀ tag ∈ block.elements.param, ∀ other ∈ block.elements.param,
      tag.place ≠ other.place → tag.declaredKey ≠ other.declaredKey)
    (args : List Value)
    (few : args.length ≤ (block.elements.param.map (·.place)).dedup.length)
    (corpus : Corpus) (source : Nat) (forceStrict : Bool) :
    let schema : Schema := ⟨corpus, source, block, forceStrict⟩
    let object := keyedArguments block.elements.param args
    (schema.Passes (.arguments args) ↔ schema.Passes (.keys TagKind.param.name object)) ∧
      (schema.reportArguments args).map Report.bare =
        (schema.reportKeys TagKind.param.name object).map Report.bare := by
  intro schema object
  have keyed : Tag.KeyedByPlace schema.elements.param := by
    intro tag ht other ho
    refine ⟨Block.declaredKey_eq_of_place_eq parsed mem ht ho, fun key => ?_⟩
    by_contra ne
    exact apart tag ht other ho ne key
  have alike : Alike Report.bare (schema.reportArguments args)
      (schema.reportKeys TagKind.param.name object) := Schema.reportArguments_alike keyed few
  exact ⟨alike.approved_iff, alike⟩

/-! ### Members of an argument, and one that is optional -/

namespace Members

open Text

def code : String := "/**\n * @param {number} a.x\n * @param {string=} a.y\n * @param {boolean} [b]\n */"

def lines : List (List Char) :=
  ["@param {number} a.x".toList, "@param {string=} a.y".toList, "@param {boolean} [b]".toList]

def tagX : Tag where
  kind := .param
  typeText := "number"
  types := [.primitive "number" .number]
  name := "a.x"
  description := ""
  filters := []
  optional := false
  defaultValue := none
  member := some ("a", "x")
  place := 0

def tagY : Tag :=
  { tagX with
    typeText := "string"
    types := [.primitive "string" .string]
    name := "a.y"
    optional := true
    member := some ("a", "y") }

def tagB : Tag :=
  { tagX with
    typeText := "boolean"
    types := [.primitive "boolean" .boolean]
    name := "b"
    optional := true
    member := none
    place := 1 }

def elements : Elements :=
  ⟨"", ⟨false, false⟩, false, none, none, none, none, none, none, [tagX, tagY, tagB], [], []⟩

def block : Block := ⟨elements, "", 1, 5, ""⟩

theorem ofText_x : Tag.ofText .param "@param {number} a.x".toList = .ok tagX := by
  have named : TagKind.param.isNamed = true := rfl
  have taken : Tag.takeType (Tag.dropTag "@param {number} a.x".toList) =
      ("number".toList, " a.x".toList) := by cbv
  have split : splitWord (trim " a.x".toList) = ("a.x".toList, []) := by cbv
  have after : Filter.ofTail [] [.primitive "number" .number] = .ok ("", []) := by cbv
  rw [Tag.ofText_named named (by decide) taken split Finite.read_types after]
  cbv

theorem ofText_y : Tag.ofText .param "@param {string=} a.y".toList = .ok tagY := by
  have named : TagKind.param.isNamed = true := rfl
  have taken : Tag.takeType (Tag.dropTag "@param {string=} a.y".toList) =
      ("string=".toList, " a.y".toList) := by cbv
  have split : splitWord (trim " a.y".toList) = ("a.y".toList, []) := by cbv
  have read : TypeExpr.read ((Tag.optionalType? "string=".toList).getD "string=".toList) =
      .ok [.primitive "string" .string] := by
    rw [show Tag.optionalType? "string=".toList = some "string".toList by cbv, Option.getD_some,
      TypeExpr.read_of_form (by cbv) (by cbv)]
    cbv
  have after : Filter.ofTail [] [.primitive "string" .string] = .ok ("", []) := by cbv
  rw [Tag.ofText_named named (by decide) taken split read after]
  cbv

theorem ofText_b : Tag.ofText .param "@param {boolean} [b]".toList =
    .ok { tagB with place := 0 } := by
  have named : TagKind.param.isNamed = true := rfl
  have taken : Tag.takeType (Tag.dropTag "@param {boolean} [b]".toList) =
      ("boolean".toList, " [b]".toList) := by cbv
  have split : splitWord (trim " [b]".toList) = ("[b]".toList, []) := by cbv
  have read : TypeExpr.read ((Tag.optionalType? "boolean".toList).getD "boolean".toList) =
      .ok [.primitive "boolean" .boolean] := by
    rw [show Tag.optionalType? "boolean".toList = none by cbv, Option.getD_none,
      TypeExpr.read_of_form (by cbv) (by cbv)]
    cbv
  have after : Filter.ofTail [] [.primitive "boolean" .boolean] = .ok ("", []) := by cbv
  rw [Tag.ofText_named named (by decide) taken split read after]
  cbv

theorem ofLines_lines : Elements.ofLines lines = .ok elements := by
  have occurs : tagOccurrences TagKind.param.name.toList lines = lines := by decide
  have all : Tag.allOf .param lines = .ok [tagX, tagY, tagB] := by
    rw [Tag.allOf, occurs]
    simp only [lines, List.mapM_cons, List.mapM_nil, ofText_x, ofText_y, ofText_b]
    rfl
  exact Elements.ofLines_params (by decide) (by decide) (by decide) (by decide) all

theorem ofSource_code : Block.ofSource "" code = .ok [block] := by
  have comments : Comment.ofSource code.toList = [⟨code, 0, 1, 5, ""⟩] := by cbv
  have read : linesOf (removeMarks (renameTags 0 code.toList)) = lines := by cbv
  exact Block.ofSource_of_comment comments (Block.ofComment_of_elements "" read ofLines_lines)

/-- One argument, which has the member that has to be there. -/
def args : List Value := [.mapping [(.string "x", .int 1)]]

theorem check_x [AddressTest] :
    check (.ofBlocks "" [block]) [0] [] [.string "x"] tagX.types (.int 1) tagX.filters false =
      .ok none := by
  rw [check]
  exact checkAny_of_yes (checkType_of_plain rfl rfl)

theorem passes_args [AddressTest] :
    Schema.Passes ⟨.ofBlocks "" [block], 0, block, true⟩ (.arguments args) := by
  rw [Schema.passes_arguments_iff]
  refine ⟨?_, rfl⟩
  -- The other two may be missing, and are.
  exact bind_eq_ok.2 ⟨none, check_x, rfl⟩

end Members

open scoped Net

/-- An argument with one of its two members passes, and so does an object that has it. -/
theorem arguments_of_ofSource_members :
    Block.ofSource "" Members.code = .ok [Members.block] ∧
      Schema.Passes ⟨.ofBlocks "" [Members.block], 0, Members.block, true⟩
        (.keys TagKind.param.name (.mapping [(.string "a", .mapping [(.string "x", .int 1)])])) := by
  have same := arguments_of_ofSource Members.ofSource_code (List.mem_singleton.2 rfl) (by decide)
    Members.args (by decide) (.ofBlocks "" [Members.block]) 0 true
  exact ⟨Members.ofSource_code, same.1.1 Members.passes_args⟩

end Docblock
