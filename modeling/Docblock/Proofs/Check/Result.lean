import Docblock.Proofs.Check.Notes
import Docblock.Proofs.Check.Report

/-!
# Results of checks of whole blocks

A block is used in one of several ways (`Use`). Each use carries out trials on one pad, and a result
is that pad as it is left, with a message if there is none yet. It is given back, or raised when the
value does not pass and failures are to be raised (`Schema.call`).

A result is well formed (`result_of_call`): when the value passes, nothing is left on the pad of
what failed on the way, and when it does not, the pad tells one failure and all of it. For this the
pad is compared with the reports of the checker, step by step (`call_eq`).

With that comparison done, whatever is proved of reports holds of results, and the second half of
the file is about reports alone. A message is never empty there: an explanation begins with the word
that it always begins with, and filters and undeclared keys have messages of their own.

Uses start from a clean pad. One pad for several uses would keep what the use before wrote, and no
use is carried out in that way.
-/

namespace Docblock

/-! ## Uses of blocks -/

/-- The ways in which a block is used to check something. -/
inductive Use where
  | arguments (args : List Value)
  | keys (name : String) (value : Value)
  | tag (name : String) (value : Value)
  | typedef (value : Value)
  | whole (value : Value)

/-! ## Results -/

/-- What a use gives: the pad as it is left, the tag that it was about, and whether the value
passes. -/
structure Result extends Pad where
  tag : Option TagKind
  passed : Bool

/-- What a use raises. -/
inductive Raised where
  | fault (fault : Fault)
  | refused (result : Result)

/-- How a use of a block ends. When the value does not pass, the message names it, and shows the
path when that is longer than a depth. -/
inductive Ending where
  | passed
  | refused (what : String) (depth : Nat)

namespace Pad

/-- The message that follows from what stands on the pad. -/
def defaultMessage (what : String) (depth : Nat) (pad : Pad) : Except Fault String := do
  return "Expected " ++ what ++ " to be of type " ++ pad.expected ++ ", but the actual " ++
    pad.value.describe ++ (← Failure.placeText depth pad.path)

/-- A pad with a message. -/
def explain (what : String) (depth : Nat) (pad : Pad) : Except Fault Pad :=
  if pad.message = "" then do return { pad with message := ← pad.defaultMessage what depth }
  else .ok pad

/-- How a message names the key that the path begins with. -/
def keyText (pad : Pad) : Except Fault String :=
  match pad.path with
  | key :: _ => do return "\"" ++ (← key.text) ++ "\""
  | [] => .ok "value"

theorem explain_ofFailure (what : String) (depth : Nat) (failure : Failure) :
    (ofFailure failure).explain what depth = ofFailure <$> failure.explain what depth := by
  unfold explain Failure.explain
  show (if failure.message = "" then _ else _) = _
  split
  · show ((ofFailure failure).defaultMessage what depth >>= _) = _
    have same : (ofFailure failure).defaultMessage what depth =
        failure.defaultMessage what depth := rfl
    rw [same]
    cases failure.defaultMessage what depth <;> rfl
  · rfl

end Pad

/-- The result of a trial from a clean pad. -/
def Trial.deliver (tag : TagKind) (throwing : Bool) (x : Trial Ending) :
    Option (Except Raised Result) :=
  (x.outcome (.clean [])).map fun
    | .error fault => .error (.fault fault)
    | .ok (.passed, pad) => .ok { toPad := pad, tag := some tag, passed := true }
    | .ok (.refused what depth, pad) =>
      match pad.explain what depth with
      | .error fault => .error (.fault fault)
      | .ok pad =>
        let result := { toPad := pad, tag := some tag, passed := false }
        if throwing then .error (.refused result) else .ok result

/-- The result of a trial, if the block is fit for its use. -/
def Trial.deliverUse (throwing : Bool) :
    Except Fault (TagKind × Trial Ending) → Option (Except Raised Result)
  | .error fault => some (.error (.fault fault))
  | .ok (tag, x) => x.deliver tag throwing

namespace Schema

section

variable [AddressTest] {ι : Type} [DecidableEq ι] (identity : List Value → Value → ι)
variable (schema : Schema)

/-- The report of a use. -/
def reportOf : Use → Except Fault Report
  | .arguments args => schema.reportArguments args
  | .keys name value => schema.reportKeys name value
  | .tag name value => schema.reportTag name value
  | .typedef value => schema.reportTypedef value
  | .whole value => schema.report value

/-- Check the arguments that parameters speak of one after the other, and then their number. -/
def argumentsTrial (args : List Value) : List Tag → Trial Ending
  | [] => do
    let declared := arity schema.elements.param
    if schema.strict && declared < args.length then
      modify (.note .strict "" .undefined ("Expected at most " ++ toString declared ++
        " arguments, but got " ++ toString args.length))
      return .refused "argument" 0
    else return .passed
  | tag :: rest => do
    let (arg, steps) := argumentOf args tag
    if tag.optional && arg.isUndefined then argumentsTrial args rest
    else
      modify (.enter steps)
      if ← schema.corpus.directory.check identity schema.registry [] tag.types arg
          tag.filters false then
        modify fun pad => { pad with path := [] }
        argumentsTrial args rest
      else return .refused "argument" 0

/-- Check an object against tags that describe its keys. -/
def keysTrial (tags : List Tag) (value : Value) : Trial Ending := do
  if value.isObject then
    if ← schema.corpus.directory.checkShape identity schema.registry []
        (Tag.shape tags value schema.strict) then return .passed
    else return .refused (← Trial.lift (← get).keyText) 1
  else
    modify (.note .type "Object" value "")
    return .refused "value" 0

/-- Check a value against the single tag of a kind. -/
def singleTrial (kind : TagKind) (value : Value) : Trial Ending :=
  match schema.elements.single? kind with
  | none => do
    if value.isUndefined then return .passed
    else
      modify fun pad => { pad with kind := some .type, expected := "undefined", value }
      return .refused "value" 0
  | some tag => do
    if ← schema.corpus.directory.check identity schema.registry [] tag.types value
        tag.filters schema.strict then return .passed
    else return .refused "value" 0

/-- Check a value against a block that has a name. When nothing is said of the failure, the tag
of the name tells what was expected. -/
def typedefTrial (tag : Tag) (value : Value) : Trial Ending := do
  if ← schema.corpus.directory.checkBlock identity schema.registry [] schema.block value
      schema.strict then return .passed
  else
    let pad ← get
    if pad.kind.isNone then modify (.note .type (typedefText tag) value "")
    return .refused "value" 0

/-- The trial of an object against the tags with a word, and the kind of these tags. -/
def keysUse (name : String) (value : Value) : Except Fault (TagKind × Trial Ending) :=
  match schema.keyTags? name with
  | none => refuse (.notProperties name)
  | some (kind, tags) => .ok (kind, schema.keysTrial identity tags value)

/-- The trial of a value against the single tag with a word, and the kind of this tag. -/
def tagUse (name : String) (value : Value) : Except Fault (TagKind × Trial Ending) :=
  match TagKind.singles.find? (·.name = name) with
  | none => refuse .notSingle
  | some kind => .ok (kind, schema.singleTrial identity kind value)

/-- The trial of a value against a block that has a name. -/
def typedefUse (value : Value) : Except Fault (TagKind × Trial Ending) :=
  match schema.block.typedefTag? with
  | none => refuse .notTypedef
  | some tag =>
    let kind := if schema.elements.typedef.isSome then .typedef else .callback
    .ok (kind, schema.typedefTrial identity tag value)

/-- The trial of a use, and the kind of tag that it is about. -/
def trialOf : Use → Except Fault (TagKind × Trial Ending)
  | .arguments args => .ok (.param, schema.argumentsTrial identity args schema.elements.param)
  | .keys name value => schema.keysUse identity name value
  | .tag name value => schema.tagUse identity name value
  | .typedef value => schema.typedefUse identity value
  | .whole value =>
    if schema.elements.enum.isSome then schema.tagUse identity TagKind.enum.name value
    else if schema.elements.type.isSome then schema.tagUse identity TagKind.type.name value
    else if schema.elements.typedef.isSome then schema.typedefUse identity value
    else if !schema.elements.param.isEmpty then
      schema.keysUse identity TagKind.param.name value
    else .error (.schema .noSchemaTag (some schema.block.location))

/-- Use a block; failures are raised or given back. -/
def call (throwing : Bool) (use : Use) : Option (Except Raised Result) :=
  Trial.deliverUse throwing (schema.trialOf identity use)

end

end Schema

/-! ## Results are those of reports -/

/-- The result that a report stands for. -/
def Report.result (report : Report) : Result :=
  match report.failure with
  | none => { toPad := .clean [], tag := report.tag, passed := true }
  | some failure => { toPad := .ofFailure failure, tag := report.tag, passed := false }

/-- A report is given back as its result, or raised. -/
def Report.deliver (throwing : Bool) (report : Report) : Except Raised Result :=
  if !report.passed && throwing then .error (.refused report.result) else .ok report.result

/-- What a use comes to with an answer of the checker. -/
def Report.deliverAnswer (throwing : Bool) : Except Fault Report → Except Raised Result
  | .error fault => .error (.fault fault)
  | .ok report => report.deliver throwing

namespace Trial

variable {x : Trial Ending} {tag : TagKind} {throwing : Bool}

theorem deliver_of_error {fault : Fault} (h : x.outcome (.clean []) = some (.error fault)) :
    x.deliver tag throwing = some (Report.deliverAnswer throwing (.error fault)) := by
  rw [deliver, h]
  rfl

theorem deliver_of_passed (h : x.outcome (.clean []) = some (.ok (.passed, .clean []))) :
    x.deliver tag throwing = some (Report.deliverAnswer throwing (.ok ⟨some tag, none⟩)) := by
  rw [deliver, h]
  rfl

theorem deliver_of_refused {what : String} {depth : Nat} {failure : Failure}
    (h : x.outcome (.clean []) = some (.ok (.refused what depth, .ofFailure failure))) :
    x.deliver tag throwing =
      some (Report.deliverAnswer throwing (Report.explained tag what depth (some failure))) := by
  rw [deliver, h, Report.explained]
  dsimp only [Option.map_some]
  rw [Pad.explain_ofFailure]
  cases failure.explain what depth with
  | error fault => rfl
  | ok told => cases throwing <;> rfl

end Trial

namespace Schema

variable [AddressTest] {ι : Type} [DecidableEq ι] {identity : List Value → Value → ι}
variable {schema : Schema} {throwing : Bool} {value : Value}

/-- A check of alternatives at the start of a use. -/
theorem outcome_check (separates : Trial.Separates identity) (schema : Schema) (path : List Value)
    (types : List TypeExpr) (value : Value) (filters : List Filter) (strict : Bool) :
    (schema.corpus.directory.check identity schema.registry [] types value filters
        strict).outcome (.clean path) =
      some (((check schema.corpus schema.registry [] path types value filters strict).map
        .ofFailure).map (Verdict.told path)) :=
  Trial.tells_ask separates .start (.types types filters strict)

theorem outcome_argumentsTrial (separates : Trial.Separates identity) (schema : Schema)
    (args : List Value) (tags : List Tag) :
    (schema.argumentsTrial identity args tags).outcome (.clean []) =
      some ((schema.checkArguments args tags).map fun failure =>
        match failure <|> schema.excess? args with
        | none => (.passed, .clean [])
        | some failure => (.refused "argument" 0, .ofFailure failure)) := by
  induction tags with
  | nil =>
    rw [argumentsTrial, checkArguments]
    dsimp only [Except.map, excess?]
    split
    · rfl
    · rfl
  | cons tag rest ih =>
    rw [argumentsTrial, checkArguments]
    rcases argumentOf args tag with ⟨arg, steps⟩
    dsimp only
    split
    · exact ih
    · have one := outcome_check separates schema steps tag.types arg tag.filters false
      refine (Trial.outcome_bind_of_ok (Trial.outcome_modify _ _)).trans ?_
      rcases checked : check schema.corpus schema.registry [] steps tag.types arg tag.filters
        false with fault | _ | failure
      · rw [checked] at one
        exact Trial.outcome_bind_of_error one
      · rw [checked] at one
        refine (Trial.outcome_bind_of_ok one).trans ?_
        exact (Trial.outcome_bind_of_ok (Trial.outcome_modify _ _)).trans ih
      · rw [checked] at one
        exact Trial.outcome_bind_of_ok one

theorem deliver_argumentsTrial (separates : Trial.Separates identity) (args : List Value) :
    (schema.argumentsTrial identity args schema.elements.param).deliver .param throwing =
      some (Report.deliverAnswer throwing (schema.reportArguments args)) := by
  have ends := outcome_argumentsTrial separates schema args schema.elements.param
  unfold reportArguments
  generalize schema.checkArguments args schema.elements.param = answer at ends ⊢
  rcases answer with fault | failure
  · exact Trial.deliver_of_error ends
  · dsimp only [Except.map] at ends
    show _ = some (Report.deliverAnswer throwing
      (Report.explained .param "argument" 0 (failure <|> schema.excess? args)))
    generalize (failure <|> schema.excess? args) = outcome at ends ⊢
    rcases outcome with _ | told
    · exact Trial.deliver_of_passed ends
    · exact Trial.deliver_of_refused ends

theorem checkKeys_of_not_isObject {tags : List Tag} {value : Value}
    (other : ¬value.isObject = true) : schema.checkKeys tags value = .ok .no := by
  have shape : Tag.shape tags value schema.strict = .mismatch := if_neg other
  unfold checkKeys
  split
  · rfl
  · rename_i spoken
    cases spoken.symm.trans shape

/-- What is said of the keys of an object is said of members. -/
theorem checkKeys_ne_no (schema : Schema) (tags : List Tag) {value : Value}
    (object : value.isObject = true) : schema.checkKeys tags value ≠ .ok .no := by
  intro h
  have shape : Tag.shape tags value schema.strict ≠ .mismatch := by
    rw [Tag.shape, if_pos object]
    intro same
    cases same
  cases hs : Tag.shape tags value schema.strict with
  | mismatch => exact shape hs
  | members demands extra =>
    have members := memberVerdict_of_checkKeys h
    rw [hs] at members
    cases members

theorem outcome_checkShape (separates : Trial.Separates identity) (schema : Schema)
    (tags : List Tag) (value : Value) :
    (schema.corpus.directory.checkShape identity schema.registry []
        (Tag.shape tags value schema.strict)).outcome (.clean []) =
      some ((schema.checkKeys tags value).map (Verdict.told [])) := by
  unfold checkKeys
  split
  · rename_i shape
    rw [shape, Directory.checkShape]
    rfl
  · rename_i shape
    refine Trial.tells_checkShape shape (fun demand hd => ?_) _
    exact Trial.tells_ask separates .start (.types demand.types demand.filters false)

theorem deliver_keysTrial (separates : Trial.Separates identity) {name : String} {kind : TagKind}
    {tags : List Tag} (found : schema.keyTags? name = some (kind, tags)) (value : Value) :
    (schema.keysTrial identity tags value).deliver kind throwing =
      some (Report.deliverAnswer throwing (schema.reportKeys name value)) := by
  unfold reportKeys keysTrial
  rw [found]
  dsimp only
  by_cases object : value.isObject = true
  · rw [if_pos object]
    have one := outcome_checkShape separates schema tags value
    have spoken := checkKeys_ne_no schema tags object
    generalize schema.checkKeys tags value = answer at one spoken ⊢
    rcases answer with fault | _ | _ | failure
    · exact Trial.deliver_of_error (Trial.outcome_bind_of_error one)
    · exact Trial.deliver_of_passed (Trial.outcome_bind_of_ok one)
    · exact absurd rfl spoken
    · show _ = some (Report.deliverAnswer throwing (keyText failure >>= fun what =>
        Report.explained kind what 1 (some failure)))
      have told : (Pad.ofFailure failure).keyText = keyText failure := rfl
      rcases written : keyText failure with fault | what
      · refine Trial.deliver_of_error ((Trial.outcome_bind_of_ok one).trans ?_)
        refine (Trial.outcome_bind_of_ok (Trial.outcome_get _)).trans ?_
        refine Trial.outcome_bind_of_error ?_
        rw [told, written]
        rfl
      · refine Trial.deliver_of_refused ((Trial.outcome_bind_of_ok one).trans ?_)
        refine (Trial.outcome_bind_of_ok (Trial.outcome_get _)).trans ?_
        rw [told, written]
        rfl
  · rw [if_neg object, checkKeys_of_not_isObject object]
    have noted : (do
        modify (.note .type "Object" value "")
        return .refused "value" 0 : Trial Ending).outcome (.clean []) =
          some (.ok (.refused "value" 0, .ofFailure (.ofType "Object" value [] ""))) := rfl
    exact Trial.deliver_of_refused noted

theorem deliver_singleTrial (separates : Trial.Separates identity) (kind : TagKind)
    (value : Value) :
    (schema.singleTrial identity kind value).deliver kind throwing =
      some (Report.deliverAnswer throwing (schema.reportSingle kind value)) := by
  unfold reportSingle singleTrial
  cases schema.elements.single? kind with
  | none =>
    dsimp only
    split
    · exact Trial.deliver_of_passed rfl
    · have noted : (do
          modify fun pad => { pad with kind := some .type, expected := "undefined", value }
          return .refused "value" 0 : Trial Ending).outcome (.clean []) =
            some (.ok (.refused "value" 0, .ofFailure (.ofType "undefined" value [] ""))) := rfl
      exact Trial.deliver_of_refused noted
  | some tag =>
    dsimp only
    have one := outcome_check separates schema [] tag.types value tag.filters
      schema.strict
    generalize check schema.corpus schema.registry [] [] tag.types value tag.filters
      schema.strict = answer at one ⊢
    rcases answer with fault | _ | failure
    · exact Trial.deliver_of_error (Trial.outcome_bind_of_error one)
    · exact Trial.deliver_of_passed (Trial.outcome_bind_of_ok one)
    · exact Trial.deliver_of_refused (Trial.outcome_bind_of_ok one)

theorem deliver_typedefTrial (separates : Trial.Separates identity) {tag : Tag}
    (found : schema.block.typedefTag? = some tag) (value : Value) :
    (schema.typedefTrial identity tag value).deliver
        (if schema.elements.typedef.isSome then .typedef else .callback) throwing =
      some (Report.deliverAnswer throwing (schema.reportTypedef value)) := by
  unfold reportTypedef typedefTrial
  rw [found]
  dsimp only
  have one : (schema.corpus.directory.checkBlock identity schema.registry [] schema.block
      value schema.strict).outcome (.clean []) = _ :=
    Trial.tells_ask separates .start (.block schema.block schema.strict)
  rw [Query.verdict] at one
  generalize checkBlock schema.corpus schema.registry [] [] schema.block value
    schema.strict = answer at one ⊢
  rcases answer with fault | _ | _ | failure
  · exact Trial.deliver_of_error (Trial.outcome_bind_of_error one)
  · exact Trial.deliver_of_passed (Trial.outcome_bind_of_ok one)
  · show _ = some (Report.deliverAnswer throwing (Report.explained _ "value" 0
      (some (.ofType (typedefText tag) value [] ""))))
    exact Trial.deliver_of_refused (Trial.outcome_bind_of_ok one)
  · exact Trial.deliver_of_refused (Trial.outcome_bind_of_ok one)

theorem deliverUse_keysUse (separates : Trial.Separates identity) (name : String)
    (value : Value) :
    Trial.deliverUse throwing (schema.keysUse identity name value) =
      some (Report.deliverAnswer throwing (schema.reportKeys name value)) := by
  unfold keysUse
  rcases found : schema.keyTags? name with _ | ⟨kind, tags⟩
  · rw [reportKeys, found]
    rfl
  · exact deliver_keysTrial separates found value

theorem deliverUse_tagUse (separates : Trial.Separates identity) (name : String) (value : Value) :
    Trial.deliverUse throwing (schema.tagUse identity name value) =
      some (Report.deliverAnswer throwing (schema.reportTag name value)) := by
  unfold tagUse reportTag
  cases TagKind.singles.find? (·.name = name) with
  | none => rfl
  | some kind => exact deliver_singleTrial separates kind value

theorem deliverUse_typedefUse (separates : Trial.Separates identity) (value : Value) :
    Trial.deliverUse throwing (schema.typedefUse identity value) =
      some (Report.deliverAnswer throwing (schema.reportTypedef value)) := by
  unfold typedefUse
  cases found : schema.block.typedefTag? with
  | none =>
    rw [reportTypedef, found]
    rfl
  | some tag => exact deliver_typedefTrial separates found value

/-- A use gives what its report says. -/
theorem call_eq (separates : Trial.Separates identity) (schema : Schema) (throwing : Bool)
    (use : Use) :
    schema.call identity throwing use =
      some (Report.deliverAnswer throwing (schema.reportOf use)) := by
  unfold call trialOf reportOf
  cases use with
  | arguments args => exact deliver_argumentsTrial separates args
  | keys name value => exact deliverUse_keysUse separates name value
  | tag name value => exact deliverUse_tagUse separates name value
  | typedef value => exact deliverUse_typedefUse separates value
  | whole value =>
    dsimp only
    unfold report
    by_cases enum : schema.elements.enum.isSome = true
    · rw [if_pos enum, if_pos enum]
      exact deliverUse_tagUse separates TagKind.enum.name value
    rw [if_neg enum, if_neg enum]
    by_cases type : schema.elements.type.isSome = true
    · rw [if_pos type, if_pos type]
      exact deliverUse_tagUse separates TagKind.type.name value
    rw [if_neg type, if_neg type]
    by_cases typedef : schema.elements.typedef.isSome = true
    · rw [if_pos typedef, if_pos typedef]
      exact deliverUse_typedefUse separates value
    rw [if_neg typedef, if_neg typedef]
    by_cases param : (!schema.elements.param.isEmpty) = true
    · rw [if_pos param, if_pos param]
      exact deliverUse_keysUse separates TagKind.param.name value
    · rw [if_neg param, if_neg param]
      rfl

end Schema

/-! ## What failures tell

A failure is made for a type, for undeclared keys or for a filter, and only the last names a
filter. The induction is over queries: failures of members and of blocks are handed on as they
are. -/

/-- A failure names a filter just when it is one of a filter. -/
def Failure.Consistent (failure : Failure) : Prop :=
  failure.filter.isSome = true ↔ failure.kind = .filter

/-- The failure of a report is consistent and has a message. -/
def Report.Complete (report : Report) : Prop :=
  ∀ failure, report.failure = some failure → failure.Consistent ∧ failure.message ≠ ""

theorem Failure.consistent_ofType (expected : String) (value : Value) (path : List Value)
    (message : String) : (ofType expected value path message).Consistent := ⟨nofun, nofun⟩

theorem Failure.consistent_ofExcess (path : List Value) (message : String) :
    (ofExcess path message).Consistent := ⟨nofun, nofun⟩

theorem Failure.message_ne_of_explain {what : String} {depth : Nat} {failure told : Failure}
    (h : told.explain what depth = .ok failure) : failure.message ≠ "" := by
  unfold explain at h
  split at h
  · obtain ⟨message, written, h⟩ := bind_eq_ok.1 h
    obtain ⟨place, -, written⟩ := bind_eq_ok.1 written
    cases h
    cases written
    intro empty
    have := congrArg String.length empty
    simp at this
  · cases h
    assumption

theorem Report.complete_explained {kind : TagKind} {what : String} {depth : Nat}
    {outcome : Option Failure} {report : Report}
    (given : Report.explained kind what depth outcome = .ok report)
    (h : ∀ told, outcome = some told → told.Consistent) : report.Complete := by
  intro failure hf
  rcases Report.explained_eq_ok.1 given with ⟨-, rfl⟩ | ⟨told, shown, ht, explained, rfl⟩
  · cases hf
  · cases hf
    obtain ⟨message, rfl⟩ := Failure.exists_of_explain explained
    exact ⟨h told ht, Failure.message_ne_of_explain explained⟩

theorem Schema.consistent_of_excess {schema : Schema} {args : List Value} {failure : Failure}
    (h : schema.excess? args = some failure) :
    failure.Consistent := by
  unfold excess? at h
  dsimp only at h
  split at h
  · cases h
    exact Failure.consistent_ofExcess _ _
  · cases h

section

variable [AddressTest] {corpus : Corpus} {registry : Registry} {closed : List BlockRef}
variable {path : List Value} {value : Value} {failure : Failure}

theorem Failure.consistent_of_filterFailure {type : TypeExpr} {filters : List Filter}
    (h : filterFailure? type filters value path = .ok (some failure)) : failure.Consistent := by
  obtain ⟨message, filter, rfl⟩ := exists_ofFilter_of_filterFailure h
  exact ⟨fun _ => rfl, fun _ => rfl⟩

theorem MemberVerdict.consistent {shape : Shape}
    (h : MemberVerdict corpus registry path shape (.failed failure))
    (members : ∀ demand ∈ shape.demands,
      checkDemand corpus registry path demand = .ok (some failure) → failure.Consistent) :
    failure.Consistent := by
  cases h with
  | excess all more told =>
    obtain ⟨message, -, h⟩ := bind_eq_ok.1 told
    cases h
    exact Failure.consistent_ofExcess _ _
  | failed mem one => exact members _ mem one

/-- Whatever is asked, a failure is consistent. -/
theorem Query.consistent_of_failed (query : Query)
    (h : query.verdict corpus registry closed path value = .ok (.failed failure)) :
    failure.Consistent := by
  induction registry, closed, path, value, query using Query.induction with
  | types registry closed path value types filters strict ih =>
    cases check_cases (Query.verdict_types_eq_failed.1 h) with
    | first split others matched filtered => exact Failure.consistent_of_filterFailure filtered
    | @none type rest verdict _ split others failed told =>
      cases verdict with
      | yes => cases told
      | no =>
        cases told
        exact Failure.consistent_ofType _ _ _ _
      | failed other =>
        cases told
        exact ih type (by simp [split]) failed
  | type registry closed path value type strict ihMember ihBlock =>
    obtain ⟨verdict, hv, checked⟩ : ∃ verdict, Verdict.failed failure = verdict ∧
        checkType corpus registry closed path type value strict = .ok verdict := ⟨_, rfl, h⟩
    cases checkType_cases checked with
    | form target members =>
      rw [← hv] at members
      exact members.consistent fun demand hd one =>
        ihMember demand hd (Query.verdict_types_eq_failed.2 one)
    | again target found mem =>
      rw [Verdict.failed.inj hv]
      exact Failure.consistent_ofType _ _ _ _
    | entered target found fresh inside =>
      subst hv
      exact ihBlock _ _ target found fresh inside
  | block registry closed path value block strict ihMember ihTypes =>
    obtain ⟨verdict, hv, checked⟩ : ∃ verdict, Verdict.failed failure = verdict ∧
        checkBlock corpus registry closed path block value strict = .ok verdict := ⟨_, rfl, h⟩
    cases checkBlock_cases checked with
    | callback function => split at hv <;> cases hv
    | keys other described members =>
      rw [← hv] at members
      exact members.consistent fun demand hd one =>
        ihMember demand hd (Query.verdict_types_eq_failed.2 one)
    | @synonym tag outcome other bare named inside =>
      cases outcome with
      | none => cases hv
      | some told =>
        cases hv
        exact ihTypes tag named (Query.verdict_types_eq_failed.2 inside)

theorem consistent_of_check {types : List TypeExpr} {filters : List Filter} {strict : Bool}
    (h : check corpus registry closed path types value filters strict = .ok (some failure)) :
    failure.Consistent :=
  Query.consistent_of_failed _ (Query.verdict_types_eq_failed.2 h)

/-! ## What reports tell -/

namespace Schema

variable {schema : Schema} {report : Report}

theorem consistent_of_checkArguments {args : List Value} {tags : List Tag}
    (h : schema.checkArguments args tags = .ok (some failure)) : failure.Consistent := by
  induction tags with
  | nil => cases h
  | cons tag rest ih =>
    rw [checkArguments] at h
    rcases argumentOf args tag with ⟨arg, steps⟩
    dsimp only at h
    split at h
    · exact ih h
    · obtain ⟨outcome, checked, h⟩ := bind_eq_ok.1 h
      cases outcome with
      | none => exact ih h
      | some told =>
        cases h
        exact consistent_of_check checked

theorem complete_reportArguments {args : List Value} (h : schema.reportArguments args = .ok report) :
    report.Complete := by
  obtain ⟨outcome, checked, h⟩ := bind_eq_ok.1 h
  refine Report.complete_explained h fun told ht => ?_
  cases outcome with
  | none =>
    exact consistent_of_excess ht
  | some failure =>
    cases ht
    exact consistent_of_checkArguments checked

theorem complete_reportKeys {name : String} (h : schema.reportKeys name value = .ok report) :
    report.Complete := by
  unfold reportKeys at h
  split at h
  · exact absurd h refuse_ne_ok
  · obtain ⟨verdict, checked, h⟩ := bind_eq_ok.1 h
    cases verdict with
    | yes =>
      rw [pure_eq_ok] at h
      subst h
      nofun
    | no =>
      exact Report.complete_explained h fun told ht =>
        Option.some.inj ht ▸ Failure.consistent_ofType _ _ _ _
    | failed failure =>
      obtain ⟨what, -, h⟩ := bind_eq_ok.1 h
      refine Report.complete_explained h fun told ht => ?_
      cases ht
      exact (memberVerdict_of_checkKeys checked).consistent fun demand _ one =>
        consistent_of_check one

theorem complete_reportSingle {kind : TagKind} (h : schema.reportSingle kind value = .ok report) :
    report.Complete := by
  unfold reportSingle at h
  split at h
  · refine Report.complete_explained h fun told ht => ?_
    split at ht
    · cases ht
    · cases ht
      exact Failure.consistent_ofType _ _ _ _
  · obtain ⟨outcome, checked, h⟩ := bind_eq_ok.1 h
    refine Report.complete_explained h fun told ht => ?_
    subst ht
    exact consistent_of_check checked

theorem complete_reportTypedef (h : schema.reportTypedef value = .ok report) :
    report.Complete := by
  unfold reportTypedef at h
  split at h
  · exact absurd h refuse_ne_ok
  · obtain ⟨verdict, checked, h⟩ := bind_eq_ok.1 h
    refine Report.complete_explained h fun told ht => ?_
    cases verdict with
    | yes => cases ht
    | no =>
      cases ht
      exact Failure.consistent_ofType _ _ _ _
    | failed failure =>
      cases ht
      exact Query.consistent_of_failed (.block schema.block schema.strict) checked

/-- Whatever a block is used for, its report is complete. -/
theorem complete_reportOf {use : Use} (h : schema.reportOf use = .ok report) :
    report.Complete := by
  cases use with
  | arguments args => exact complete_reportArguments h
  | keys name value => exact complete_reportKeys h
  | tag name value =>
    unfold reportOf reportTag at h
    dsimp only at h
    split at h
    · exact absurd h refuse_ne_ok
    · exact complete_reportSingle h
  | typedef value => exact complete_reportTypedef h
  | whole value =>
    unfold reportOf Schema.report at h
    dsimp only at h
    split at h
    · exact complete_reportSingle h
    split at h
    · exact complete_reportSingle h
    split at h
    · exact complete_reportTypedef h
    split at h
    · exact complete_reportKeys h
    · cases h

end Schema

end

/-! ## Results are well formed -/

/-- A call that does not raise failures gives a well-formed result. When the value passes, no
failure stands on the pad, whatever failed on the way. When it does not, the pad tells a kind and a
message, and a filter just when the failure is one of a filter; and the call that raises failures
raises the same result. -/
theorem result_of_call [AddressTest] {ι : Type} [DecidableEq ι] {identity : List Value → Value → ι}
    (separates : Trial.Separates identity) (schema : Schema) (use : Use) (result : Result)
    (given : schema.call identity false use = some (.ok result)) :
    (result.passed = true → result.toPad = .clean [] ∧
      schema.call identity true use = some (.ok result)) ∧
    (result.passed = false → (∃ kind, result.kind = some kind) ∧ result.message ≠ "" ∧
      (result.filter.isSome = true ↔ result.kind = some .filter) ∧
      schema.call identity true use = some (.error (.refused result))) := by
  rw [Schema.call_eq separates] at given ⊢
  rcases answer : schema.reportOf use with fault | report
  · rw [answer] at given
    cases given
  have complete := Schema.complete_reportOf answer
  rw [answer] at given
  obtain ⟨tag, failure⟩ := report
  cases failure with
  | none =>
    cases given
    exact ⟨fun _ => ⟨rfl, rfl⟩, nofun⟩
  | some failure =>
    cases given
    obtain ⟨consistent, message⟩ := complete failure rfl
    refine ⟨nofun, fun _ => ⟨⟨failure.kind, rfl⟩, message, ?_, rfl⟩⟩
    exact consistent.trans ⟨congrArg some, Option.some.inj⟩

open scoped Net

/-- The misfit in a list of numbers is given back, and raised. -/
theorem result_of_call_misfit :
    ∃ result, Misfit.schema.call (fun _ value => value.rank) false (.whole Misfit.value) =
        some (.ok result) ∧
      result.kind = some .type ∧ result.path = [.int 1] ∧ result.filter = none ∧
      Misfit.schema.call (fun _ value => value.rank) true (.whole Misfit.value) =
        some (.error (.refused result)) := by
  have separates : Trial.Separates fun _ (value : Value) => value.rank :=
    fun _ _ _ _ smaller => Nat.ne_of_lt smaller
  have reported : Misfit.schema.reportOf (.whole Misfit.value) =
      .ok ⟨some .type, some Misfit.told⟩ := by
    rw [Schema.reportOf, Schema.report, if_neg (by decide), if_pos (by decide),
      Schema.reportSingle]
    exact bind_eq_ok.2 ⟨_, Misfit.check_types _, Misfit.explained⟩
  have given : Misfit.schema.call (fun _ value => value.rank) false (.whole Misfit.value) =
      some (.ok (Report.result ⟨some .type, some Misfit.told⟩)) := by
    rw [Schema.call_eq separates, reported]
    rfl
  obtain ⟨-, -, -, raised⟩ := (result_of_call separates _ _ _ given).2 rfl
  exact ⟨_, given, rfl, rfl, rfl, raised⟩

end Docblock
