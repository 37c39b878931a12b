import Docblock.Proofs.Check.Fitness
import Docblock.Proofs.Check.Use

/-!
# What strictness takes away

A block can be used with undeclared keys refused although it does not say so. That only takes values
away, whatever alternatives, names and cycles stand in between: where the strict check gives a
result, the other gives one too, and passes if the strict one does (`Laxer`). An alternative that is
refused for its keys leaves the value to a later one, but beside filters stands no type that has
keys to declare, so no other filters come to be checked.

Where a use speaks of the keys of one object, what is taken away are just the values with a key that
is not declared (`forced_of_ofSource`).

Only the value itself is checked strictly, since members start anew. So the shapes of a strict and
of a lenient check differ in one place, the list of keys that are too much, and the demands are the
same (`Shape.Eases`). The relation between outcomes says that a result stays a result, which is more
than that passing is kept: a strict check that refuses a value must not hide a fault of the other.
-/

namespace Docblock

section

variable {value : Value} {strict lax : Bool}

/-! ## Two outcomes -/

/-- Where an outcome gives a result the other does too, and the other passes if it passes. -/
def Laxer {α : Type} (passed : α) (outcome other : Except Fault α) : Prop :=
  ∀ a, outcome = .ok a → ∃ b, other = .ok b ∧ (a = passed → b = passed)

theorem Laxer.refl {α : Type} (passed : α) (outcome : Except Fault α) :
    Laxer passed outcome outcome :=
  fun a h => ⟨a, h, id⟩

theorem Laxer.of_eq {α : Type} {passed : α} {outcome other : Except Fault α}
    (h : outcome = other) : Laxer passed outcome other :=
  h ▸ .refl passed outcome

theorem Laxer.passes {α : Type} {passed : α} {outcome other : Except Fault α}
    (h : Laxer passed outcome other) (ok : outcome = .ok passed) : other = .ok passed := by
  obtain ⟨b, hb, passes⟩ := h passed ok
  exact passes rfl ▸ hb

theorem Laxer.map {α β : Type} {passed : α} {passed' : β} {outcome other : Except Fault α}
    {f : α → β} (h : Laxer passed outcome other) (hf : ∀ a, f a = passed' ↔ a = passed) :
    Laxer passed' (outcome.map f) (other.map f) := by
  intro b hb
  cases outcome with
  | error fault => cases hb
  | ok a =>
    cases hb
    obtain ⟨a', rfl, passes⟩ := h a rfl
    exact ⟨f a', rfl, fun same => (hf a').2 (passes ((hf a).1 same))⟩

/-! ## Shapes -/

/-- What is said of the keys and members of an object. -/
def Shape.keyed (value : Value) (demands : List Demand) (declared : List String) (strict : Bool) :
    Shape :=
  if value.isObject then .members demands (.ok (if strict then value.undeclared declared else []))
  else .mismatch

/-- The same is demanded, and as much as before is too much, or nothing any more. -/
inductive Shape.Eases : Shape → Shape → Prop
  | refl (shape : Shape) : Eases shape shape
  | nothing (demands : List Demand) (extra : Except Fault (List Value)) :
      Eases (.members demands extra) (.members demands (.ok []))

theorem Shape.keyed_eases (le : lax = true → strict = true) (demands : List Demand)
    (declared : List String) :
    (keyed value demands declared strict).Eases (keyed value demands declared lax) := by
  cases lax with
  | true =>
    rw [le rfl]
    exact .refl _
  | false =>
    unfold keyed
    split
    · exact .nothing demands _
    · exact .refl _

theorem TypeExpr.shape_eases (le : lax = true → strict = true) (type : TypeExpr) :
    (type.shape value strict).Eases (type.shape value lax) := by
  cases type with
  | object text fields => exact Shape.keyed_eases le _ _
  | _ => exact .refl _

theorem Tag.shape_eases (le : lax = true → strict = true) (tags : List Tag) :
    (Tag.shape tags value strict).Eases (Tag.shape tags value lax) :=
  Shape.keyed_eases le _ _

variable [AddressTest] {corpus : Corpus} {registry : Registry} {closed : List BlockRef}
variable {path : List Value}

theorem checkShape_laxer {shape less : Shape} (h : shape.Eases less) :
    Laxer .yes (checkShape corpus registry path shape) (checkShape corpus registry path less) := by
  cases h with
  | refl => exact .refl _ _
  | nothing demands extra =>
    rw [checkShape, checkShape]
    intro verdict hv
    obtain ⟨outcome, checked, hv⟩ := bind_eq_ok.1 hv
    cases outcome with
    | some failure => exact ⟨verdict, bind_eq_ok.2 ⟨some failure, checked, hv⟩, id⟩
    | none => exact ⟨.yes, bind_eq_ok.2 ⟨none, checked, rfl⟩, fun _ => rfl⟩

/-! ## Alternatives -/

/-- Without filters the first alternative that the value is of ends the check. -/
theorem checkAny_laxer {types : List TypeExpr} {first first' : Option Failure}
    (each : ∀ type ∈ types, Laxer .yes (checkType corpus registry closed path type value strict)
      (checkType corpus registry closed path type value lax))
    (started : first = none → first' = none) :
    Laxer none (checkAny corpus registry closed path types value [] strict first)
      (checkAny corpus registry closed path types value [] lax first') := by
  induction types generalizing first first' with
  | nil =>
    rw [checkAny, checkAny]
    intro outcome h
    cases h
    exact ⟨first', rfl, started⟩
  | cons type rest ih =>
    have passes : filterFailure? type [] value path = .ok none :=
      filterFailure?_eq_none.2 (TypeExpr.passes_nil type)
    intro outcome h
    rw [checkAny, bind_eq_ok] at h
    obtain ⟨verdict, checked, h⟩ := h
    obtain ⟨verdict', checked', yes⟩ := each type (by simp) verdict checked
    cases told' : verdict'.failure? type.text value path with
    | none =>
      rw [Verdict.failure?_eq_none.1 told'] at checked'
      exact ⟨none, (checkAny_of_yes checked').trans passes, fun _ => rfl⟩
    | some failure' =>
      rw [checkAny_of_refused checked' told']
      cases told : verdict.failure? type.text value path with
      | none =>
        -- The strict check takes no alternative that the other does not take.
        rw [yes (Verdict.failure?_eq_none.1 told)] at told'
        cases told'
      | some failure =>
        rw [told] at h
        refine ih (fun other ho => each other (by simp [ho])) (fun none => ?_) outcome h
        cases first <;> cases none

/-- Beside filters strictness makes no difference. -/
theorem check_of_allowed {types : List TypeExpr} {filters : List Filter}
    (allowed : Allowed types filters) (some : filters ≠ []) (strict lax : Bool) :
    check corpus registry closed path types value filters strict =
      check corpus registry closed path types value filters lax := by
  refine check_congr fun type mem => ?_
  have target : corpus.target? registry type = none := allowed.target?_eq_none some mem
  rw [checkType_of_form target, checkType_of_form target, allowed.shape_eq some mem strict lax]

/-! ## Queries -/

theorem Query.verdict_laxer (blocks : ∀ ref block, corpus.block? ref = some block → block.Filtered)
    (query : Query) (filtered : query.Filtered) (le : lax = true → strict = true) :
    Laxer .yes ((query.withStrict strict).verdict corpus registry closed path value)
      ((query.withStrict lax).verdict corpus registry closed path value) := by
  induction registry, closed, path, value, query using Query.induction generalizing strict lax with
  | types registry closed path value types filters _ ih =>
    refine Laxer.map ?_ fun _ => Verdict.ofFailure_eq_yes
    by_cases some : filters = []
    · subst some
      rw [check, check]
      refine checkAny_laxer (fun type mem => ?_) id
      exact ih type mem (filtered_alternatives filtered.2 type mem) le
    · exact .of_eq (check_of_allowed filtered.1 some strict lax)
  | type registry closed path value type _ _ ihBlock =>
    simp only [withStrict, verdict]
    rcases target : corpus.target? registry type with _ | ref
    · -- Members are checked without strictness either way.
      rw [checkType_of_form target, checkType_of_form target]
      exact checkShape_laxer (type.shape_eases le)
    · obtain ⟨-, block, -, -, found, -⟩ := Corpus.exists_block_of_target target
      by_cases mem : ref ∈ closed
      · rw [checkType_of_mem target found mem, checkType_of_mem target found mem]
        exact .refl _ _
      · rw [checkType_of_not_mem target found mem, checkType_of_not_mem target found mem]
        -- The block of the name adds its own mark to both.
        refine ihBlock ref block target found mem (blocks ref block found) fun more => ?_
        cases lax with
        | false => simpa using .inr more
        | true => simp [le rfl]
  | block registry closed path value block _ _ ihTypes =>
    rcases block.stands with function | ⟨other, described⟩ | ⟨other, bare, nameless⟩ |
      ⟨other, bare, tag, named⟩
    · simp only [withStrict, verdict, checkBlock_of_callback function]
      exact .refl _ _
    · simp only [withStrict, verdict, checkBlock_of_property other described]
      exact checkShape_laxer (Tag.shape_eases le _)
    · simp only [withStrict, verdict, checkBlock_of_nameless other bare nameless]
      exact .refl _ _
    · have hf := Block.Filtered.aliasTag filtered named
      simp only [withStrict, verdict_block_of_synonym other bare named]
      exact ihTypes tag named ⟨hf.allowed, hf.types⟩ le

/-- Whatever is accepted with undeclared keys refused is accepted without that. -/
theorem accepted_of_strict
    (blocks : ∀ ref block, corpus.block? ref = some block → block.Filtered) (query : Query)
    (filtered : query.Filtered) (le : lax = true → strict = true)
    (h : Accepted corpus registry closed path value (query.withStrict strict)) :
    Accepted corpus registry closed path value (query.withStrict lax) := by
  rw [← Query.verdict_eq_yes_iff] at h ⊢
  exact (Query.verdict_laxer blocks query filtered le).passes h

end

/-! ## Keys that are declared -/

/-- All own keys of a value are among some names. -/
def Value.KeysAmong (names : List String) (value : Value) : Prop :=
  ∀ key ∈ value.ownKeys, ∃ name ∈ names, key = .string name

/-- The keys that types declare: those of the only type, when it is an object type. -/
def TypeExpr.declared? : List TypeExpr → Option (List String)
  | [.object _ fields] => some (fields.map (·.key))
  | _ => none

/-- The keys that a subject declares for the value itself. A block of a function declares none. -/
def Subject.declared? : Subject → Option (List String)
  | .types alts => TypeExpr.declared? alts
  | .type alt => TypeExpr.declared? [alt]
  | .block named =>
    if named.elements.callback.isSome then none
    else if named.elements.property.isEmpty then do
      let tag ← named.elements.typedef
      TypeExpr.declared? (named.elements.aliasTag tag).types
    else some (named.elements.property.map Tag.declaredKey)
  | .keys tags => some (tags.map Tag.declaredKey)

section

variable {value : Value} {declared : List String}

theorem Value.undeclared_eq_nil_iff : value.undeclared declared = [] ↔ value.KeysAmong declared := by
  unfold undeclared KeysAmong
  rw [List.filter_eq_nil_iff]
  refine forall₂_congr fun key _ => ?_
  cases key <;> simp

/-- Strictly nothing more is asked than that the keys be declared. -/
theorem Shape.met_keyed_iff (meets : Demand → Prop) (demands : List Demand) (strict : Bool) :
    (keyed value demands declared true).Met meets ↔
      (keyed value demands declared strict).Met meets ∧ value.KeysAmong declared := by
  unfold keyed
  split
  · rw [Met, Met, if_pos rfl, Except.ok.injEq, Except.ok.injEq, Value.undeclared_eq_nil_iff]
    cases strict
    · simp
    · rw [if_pos rfl, Value.undeclared_eq_nil_iff]
      tauto
  · simp [Met]

variable [AddressTest] {corpus : Corpus} {registry : Registry} {closed : List BlockRef}
variable {path : List Value}

theorem check_object_iff {types : List TypeExpr} {filters : List Filter}
    (h : TypeExpr.declared? types = some declared) (strict : Bool) :
    check corpus registry closed path types value filters true = .ok none ↔
      check corpus registry closed path types value filters strict = .ok none ∧
        value.KeysAmong declared := by
  unfold TypeExpr.declared? at h
  split at h
  · rename_i text fields
    cases h
    have form : ∀ strict, checkType corpus registry closed path (.object text fields) value strict =
        checkShape corpus registry path
          (.keyed value (Demand.ofFields fields value) (fields.map (·.key)) strict) :=
      fun strict => checkType_of_form rfl
    have plain : (TypeExpr.object text fields).Passes filters value :=
      TypeExpr.passes_of_plain rfl
    rw [check_singleton_eq_none_iff plain, check_singleton_eq_none_iff plain, form, form,
      checkShape_eq_yes_iff, checkShape_eq_yes_iff, Shape.met_keyed_iff]
  · cases h

theorem checkKeys_iff (tags : List Tag) (strict : Bool) :
    checkShape corpus registry path (Tag.shape tags value true) = .ok .yes ↔
      checkShape corpus registry path (Tag.shape tags value strict) = .ok .yes ∧
        value.KeysAmong (tags.map Tag.declaredKey) := by
  rw [checkShape_eq_yes_iff, checkShape_eq_yes_iff]
  exact Shape.met_keyed_iff _ _ strict

theorem checkBlock_declared_iff {block : Block}
    (h : (Subject.block block).declared? = some declared) (strict : Bool) :
    checkBlock corpus registry closed path block value true = .ok .yes ↔
      checkBlock corpus registry closed path block value strict = .ok .yes ∧
        value.KeysAmong declared := by
  unfold Subject.declared? at h
  rcases block.stands with function | ⟨other, described⟩ | ⟨other, bare, nameless⟩ |
    ⟨other, bare, tag, named⟩
  · simp [function] at h
  · rw [checkBlock_of_property other described, checkBlock_of_property other described]
    have keys : block.elements.property.map Tag.declaredKey = declared := by
      simpa [other, described] using h
    exact keys ▸ checkKeys_iff _ strict
  · simp [other, bare, nameless] at h
  · have keys : TypeExpr.declared? (block.elements.aliasTag tag).types = some declared := by
      simpa [other, bare, named] using h
    rw [checkBlock_of_synonym_eq_yes_iff other bare named,
      checkBlock_of_synonym_eq_yes_iff other bare named]
    exact check_object_iff keys strict

end

/-! ## Uses -/

namespace Schema

variable {schema : Schema} {value : Value}

/-- The same use of a block with undeclared keys refused. -/
def forced (schema : Schema) : Schema := { schema with forceStrict := true }

theorem strict_forced (schema : Schema) : schema.forced.strict = true := Bool.or_true _

variable [AddressTest]

/-- Arguments are checked one by one, and none of them strictly. -/
theorem checkArguments_forced (args : List Value) (tags : List Tag) :
    schema.forced.checkArguments args tags = schema.checkArguments args tags := by
  induction tags with
  | nil => rfl
  | cons tag rest ih =>
    rw [checkArguments, checkArguments, ih]
    rfl

/-- What passes with undeclared keys refused passes without that. -/
theorem passes_of_forced (schema : Schema)
    (blocks : ∀ ref block, schema.corpus.block? ref = some block → block.Filtered)
    (filtered : schema.block.Filtered) {use : Use} (h : schema.forced.Passes use) :
    schema.Passes use := by
  have le : schema.strict = true → schema.forced.strict = true := fun _ => schema.strict_forced
  induction use using Use.induction schema.elements with
  | arguments args =>
    rw [passes_arguments_iff, excess?_eq_none_iff] at h ⊢
    exact ⟨checkArguments_forced args _ ▸ h.1, fun strict => h.2 (le strict)⟩
  | keys name value =>
    cases known : schema.keyTags? name with
    | none => exact absurd h (not_passes_keys known)
    | some spoken =>
      have known' : schema.forced.keyTags? name = some spoken := known
      rw [passes_keys_iff known', checkKeys_eq] at h
      rw [passes_keys_iff known, checkKeys_eq]
      -- The shapes demand the same of the members, and only the stricter one refuses other keys.
      exact (checkShape_laxer (Tag.shape_eases le spoken.2)).passes h
  | tag name value =>
    cases meant : TagKind.singles.find? (·.name = name) with
    | none => exact absurd h (not_passes_tag meant)
    | some kind =>
      cases found : schema.elements.single? kind with
      | none =>
        have found' : schema.forced.elements.single? kind = none := found
        rw [passes_tag_iff_isUndefined meant found'] at h
        exact (passes_tag_iff_isUndefined meant found).2 h
      | some tag =>
        have found' : schema.forced.elements.single? kind = some tag := found
        rw [passes_tag_iff meant found'] at h
        have allowed := filtered tag (Elements.mem_tags_of_single found)
        exact (passes_tag_iff meant found).2
          (accepted_of_strict blocks (.types tag.types tag.filters true)
            ⟨allowed.allowed, allowed.types⟩ le h)
  | typedef value =>
    cases named : schema.block.typedefTag? with
    | none => exact absurd h (not_passes_typedef named)
    | some tag =>
      have isNamed : schema.block.typedefTag?.isSome = true := by simp [named]
      have isNamed' : schema.forced.block.typedefTag?.isSome = true := isNamed
      rw [passes_typedef_iff isNamed'] at h
      exact (passes_typedef_iff isNamed).2
        (accepted_of_strict blocks (.block schema.block true) filtered le h)
  | whole value ih =>
    rw [passes_whole_iff] at h ⊢
    obtain ⟨use, found, h⟩ := h
    exact ⟨use, found, ih use found h⟩

/-- Where a use declares keys, just the values with other keys are refused in addition. -/
theorem passes_forced_iff {use : Use} {subject : Subject} {declared : List String}
    (asked : schema.subjectOf use = some subject) (about : use.value? = some value)
    (keys : subject.declared? = some declared) :
    schema.forced.Passes use ↔ schema.Passes use ∧ value.KeysAmong declared := by
  have strictly : schema.forced.strict = true := schema.strict_forced
  induction use using Use.induction schema.elements with
  | arguments args => cases about
  | keys name value =>
    cases about
    obtain ⟨spoken, known, rfl⟩ := Option.map_eq_some_iff.1 asked
    cases keys
    have known' : schema.forced.keyTags? name = some spoken := known
    rw [passes_keys_iff known, passes_keys_iff known', checkKeys_eq, checkKeys_eq, strictly]
    exact checkKeys_iff spoken.2 schema.strict
  | tag name value =>
    cases about
    obtain ⟨kind, meant, asked⟩ := Option.bind_eq_some_iff.1 asked
    obtain ⟨tag, found, asked⟩ := Option.bind_eq_some_iff.1 asked
    cases asked
    have found' : schema.forced.elements.single? kind = some tag := found
    rw [passes_tag_iff meant found, passes_tag_iff meant found', strictly]
    exact check_object_iff keys schema.strict
  | typedef value =>
    cases about
    obtain ⟨tag, named, rfl⟩ := Option.map_eq_some_iff.1 asked
    have isNamed : schema.block.typedefTag?.isSome = true := by simp [named]
    have isNamed' : schema.forced.block.typedefTag?.isSome = true := isNamed
    rw [passes_typedef_iff isNamed, passes_typedef_iff isNamed', strictly]
    exact checkBlock_declared_iff keys schema.strict
  | whole value ih =>
    cases about
    have asked' : schema.subject? = some subject := asked
    rw [subject?_eq schema value] at asked'
    obtain ⟨use, found, asked'⟩ := Option.bind_eq_some_iff.1 asked'
    have same := ih use found asked' (Elements.value?_of_use? found)
    have found' : schema.forced.elements.use? value = some use := found
    rw [passes_whole_iff, passes_whole_iff]
    simp [found, found', same]

end Schema

/-! ## Blocks that were read -/

/-- Of every block that was read and every use of it, what passes with undeclared keys refused passes
without that. Where the use speaks of the keys of one object, it is just the values with other keys
that are refused. A block of a function speaks of none, and whatever else it says takes all that can
be called either way. -/
theorem forced_of_ofSource [AddressTest] {file code : String} {blocks : List Block}
    (parsed : Block.ofSource file code = .ok blocks) {block : Block} (mem : block ∈ blocks)
    (corpus : Corpus) (read : corpus.Read) (source : Nat) :
    let forced : Schema := ⟨corpus, source, block, true⟩
    let plain : Schema := ⟨corpus, source, block, false⟩
    (∀ use, forced.Passes use → plain.Passes use) ∧
    (∀ use subject value declared, plain.subjectOf use = some subject → use.value? = some value →
      subject.declared? = some declared →
      (forced.Passes use ↔ plain.Passes use ∧ value.KeysAmong declared)) ∧
    (block.elements.callback.isSome = true → ∀ value,
      (forced.Passes (.typedef value) ↔ value.isCallable = true) ∧
      (plain.Passes (.typedef value) ↔ value.isCallable = true)) := by
  intro forced plain
  have filtered : block.Filtered := Block.filtered_of_ofSource parsed mem
  refine ⟨fun use passes => ?_, fun use subject value declared asked about keys => ?_,
    fun function value => ?_⟩
  · exact plain.passes_of_forced read.filtered filtered passes
  · exact Schema.passes_forced_iff asked about keys
  · exact ⟨forced.passes_typedef_iff_isCallable function,
      plain.passes_typedef_iff_isCallable function⟩

/-! ### A type of a function with properties -/

namespace Caller

open Text

def code : String := "/**\n * @typedef {Object} T\n * @callback f\n * @property {number} a\n */"

def nameLine : List Char := "@typedef {Object} T".toList

def lines : List (List Char) := [nameLine, "@callback f".toList, "@property {number} a".toList]

def named : Tag where
  kind := .typedef
  typeText := "Object"
  types := [.map "Object<*,*>" [.any "*"] [.any "*"]]
  name := "T"
  description := ""
  filters := []
  optional := false
  defaultValue := none
  member := none
  place := 0

def callback : Tag :=
  { named with kind := .callback, typeText := "", types := [.any "*"], name := "f" }

def property : Tag :=
  { named with
    kind := .property
    typeText := "number"
    types := [.primitive "number" .number]
    name := "a" }

def elements : Elements :=
  ⟨"", ⟨false, false⟩, false, none, none, some named, some callback, none, none, [], [property], []⟩

def block : Block := ⟨elements, "", 1, 5, ""⟩

theorem ofText_name : Tag.ofText .typedef nameLine = .ok named := by
  have read : TypeExpr.read ['O', 'b', 'j', 'e', 'c', 't'] = .ok named.types :=
    TypeExpr.read_of_shorthand (by cbv)
  exact Tag.ofText_plain rfl (by decide) (by cbv) (by cbv) (by cbv) (by cbv) read (by cbv) (by cbv)

theorem ofText_callback : Tag.ofText .callback "@callback f".toList = .ok callback := by
  have read : TypeExpr.read [] = .ok callback.types := TypeExpr.read_of_shorthand (by cbv)
  exact Tag.ofText_plain rfl (by decide) (by cbv) (by cbv) (by cbv) (by cbv) read (by cbv) (by cbv)

theorem ofText_property : Tag.ofText .property "@property {number} a".toList = .ok property :=
  Tag.ofText_plain rfl (by decide) (by cbv) (by cbv) (by cbv) (by cbv) Finite.read_types (by cbv) (by cbv)

theorem ofLines_lines : Elements.ofLines lines = .ok elements := by
  have used : lines.filterMap usedTag? =
      ["typedef".toList, "callback".toList, "property".toList] := by decide
  have names : tagOccurrences TagKind.typedef.name.toList lines = [nameLine] := by decide
  have callbacks : tagOccurrences TagKind.callback.name.toList lines =
      ["@callback f".toList] := by decide
  have properties : tagOccurrences TagKind.property.name.toList lines =
      ["@property {number} a".toList] := by decide
  have last_name : Tag.lastOf .typedef lines = .ok (some named) := by
    rw [Tag.lastOf, names]
    dsimp only [List.getLast?, List.getLast]
    rw [ofText_name]
    rfl
  have last_callback : Tag.lastOf .callback lines = .ok (some callback) := by
    rw [Tag.lastOf, callbacks]
    dsimp only [List.getLast?, List.getLast]
    rw [ofText_callback]
    rfl
  have all_properties : Tag.allOf .property lines = .ok [property] := by
    rw [Tag.allOf, properties]
    simp only [List.mapM_cons, List.mapM_nil, ofText_property]
    rfl
  have scope : Scope.ofLines lines = ⟨false, false⟩ := by decide
  have description : descriptionOf lines = [] := by decide
  unfold Elements.ofLines
  simp only [used, last_name, last_callback, all_properties, scope, description]
  rfl

theorem ofSource_code : Block.ofSource "" code = .ok [block] := by
  have comments : Comment.ofSource code.toList = [⟨code, 0, 1, 5, ""⟩] := by cbv
  have read : linesOf (removeMarks (renameTags 0 code.toList)) = lines := by cbv
  exact Block.ofSource_of_comment comments (Block.ofComment_of_elements "" read ofLines_lines)

/-- An object that can be called, with a key that is not declared. -/
def value : Value := .record "C" [("a", .int 1), ("z", .int 1)] true

end Caller

open scoped Net

/-- With undeclared keys refused an object with another key passes, as it can be called. -/
theorem passes_callback_with_other_key :
    Block.ofSource "" Caller.code = .ok [Caller.block] ∧
      Caller.block.elements.typedef = some Caller.named ∧
      Caller.block.elements.property = [Caller.property] ∧ Caller.block.strict = false ∧
      Schema.Passes ⟨.ofBlocks "" [Caller.block], 0, Caller.block, true⟩ (.whole Caller.value) ∧
      ¬Caller.value.KeysAmong (Caller.block.elements.property.map Tag.declaredKey) := by
  refine ⟨Caller.ofSource_code, rfl, rfl, rfl, ?_, fun among => ?_⟩
  · rw [Schema.passes_whole_iff]
    exact ⟨.typedef Caller.value, rfl, (Schema.passes_typedef_iff_isCallable _ rfl).2 rfl⟩
  · have own : Value.string "z" ∈ Caller.value.ownKeys := by
      rw [show Caller.value.ownKeys = [.string "a", .string "z"] by cbv]
      simp
    obtain ⟨name, declared, same⟩ := among _ own
    cases same
    exact absurd declared (by decide)

/-! ### An object type with one key -/

namespace Keyed

open Text

def code : String := "/** @typedef {{a: number}} T */"

def line : List Char := "@typedef {{a: number}} T".toList

def type : TypeExpr := .object "{a: number}" [⟨"a", [.primitive "number" .number], "", []⟩]

def tag : Tag := { Cycle.tag with typeText := "{a: number}", types := [type], name := "T" }

def block : Block := ⟨.naming tag, "", 1, 1, ""⟩

theorem read_types :
    TypeExpr.read ['{', 'a', ':', ' ', 'n', 'u', 'm', 'b', 'e', 'r', '}'] = .ok [type] := by
  have form : Layer.ofText (unwrap (trim ['{', 'a', ':', ' ', 'n', 'u', 'm', 'b', 'e', 'r', '}'])) =
      .object [['a', ':', ' ', 'n', 'u', 'm', 'b', 'e', 'r']] := by cbv
  have member : Member.ofText true ['a', ':', ' ', 'n', 'u', 'm', 'b', 'e', 'r'] =
      .ok ⟨[], some (['a'], ['n', 'u', 'm', 'b', 'e', 'r'], [])⟩ := by cbv
  have fields : TypeExpr.readFields true [['a', ':', ' ', 'n', 'u', 'm', 'b', 'e', 'r']] [] =
      .ok [⟨"a", [.primitive "number" .number], "", []⟩] := by
    rw [TypeExpr.readFields_cons, member]
    simp only [bind, Except.bind, Finite.read_types]
    cbv
  rw [TypeExpr.read_of_form (by cbv) (by cbv), form, TypeExpr.readForm, fields]
  cbv

theorem ofText_line : Tag.ofText .typedef line = .ok tag :=
  Tag.ofText_naming (by cbv) (by cbv) (by cbv) (by cbv) read_types (by cbv) (by cbv)

theorem ofComment_code : Block.ofComment "" ⟨code, 0, 1, 1, ""⟩ = .ok block :=
  Block.ofComment_naming "" (by cbv)
    (Elements.ofLines_naming (by cbv) (by cbv) (by cbv) (by decide) ofText_line)

theorem ofSource_code : Block.ofSource "" code = .ok [block] :=
  Block.ofSource_of_comment (by cbv) ofComment_code

/-- An object with a key that is not declared. -/
def value : Value := .mapping [(.string "a", .int 1), (.string "z", .int 2)]

/-- Leniently the value is of the block, wherever that is used. -/
theorem checkBlock_value [AddressTest] (corpus : Corpus) (registry : Registry) (closed : List BlockRef)
    (path : List Value) : checkBlock corpus registry closed path block value false = .ok .yes := by
  have member : Demand.Met corpus registry path
      ⟨[.string "a"], .int 1, [.primitive "number" .number], []⟩ := by
    rw [Demand.Met, checkDemand, check]
    exact checkAny_of_yes (checkType_of_plain rfl rfl)
  have shape : type.shape value false =
      .members [⟨[.string "a"], .int 1, [.primitive "number" .number], []⟩] (.ok []) := by cbv
  have checked : checkType corpus registry closed path type value false = .ok .yes := by
    rw [checkType_of_form rfl, checkShape_eq_yes_iff, shape]
    exact ⟨fun demand hd => List.mem_singleton.1 hd ▸ member, rfl⟩
  rw [checkBlock_of_synonym_eq_yes_iff rfl rfl (show _ = some tag from rfl)]
  exact (check_singleton_eq_none_iff (TypeExpr.passes_nil type)).2 checked

theorem passes_value [AddressTest] :
    Schema.Passes ⟨.ofBlocks "" [block], 0, block, false⟩ (.whole value) := by
  rw [Schema.passes_whole_iff]
  exact ⟨.typedef value, rfl, (Schema.passes_typedef_iff rfl).2 (checkBlock_value _ _ _ _)⟩

/-- Not every key of the value is declared. -/
theorem not_keysAmong_value : ¬value.KeysAmong ["a"] := by
  intro among
  have own : Value.string "z" ∈ value.ownKeys := by
    rw [show value.ownKeys = [.string "a", .string "z"] by cbv]
    simp
  obtain ⟨name, declared, same⟩ := among _ own
  cases same
  exact absurd declared (by decide)

end Keyed

/-- A key that is not declared is let through, and refused where undeclared keys are. -/
theorem forced_of_ofSource_keyed :
    Schema.Passes ⟨.ofBlocks "" [Keyed.block], 0, Keyed.block, false⟩ (.whole Keyed.value) ∧
      ¬Schema.Passes ⟨.ofBlocks "" [Keyed.block], 0, Keyed.block, true⟩ (.whole Keyed.value) := by
  have read : (Corpus.ofBlocks "" [Keyed.block]).Read := by
    intro source hs
    cases List.mem_singleton.1 hs
    exact ⟨Keyed.code, Keyed.ofSource_code⟩
  have facts := forced_of_ofSource Keyed.ofSource_code (List.mem_singleton.2 rfl) _ read 0
  refine ⟨Keyed.passes_value, fun passes => ?_⟩
  exact Keyed.not_keysAmong_value ((facts.2.1 (.whole Keyed.value) _ _ _ rfl rfl rfl).1 passes).2

end Docblock
