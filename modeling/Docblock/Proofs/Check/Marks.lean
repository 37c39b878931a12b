import Docblock.Proofs.Check.Strictness

/-!
# Marking every block

That undeclared keys are refused can be forced on a use of a block, or marked in every block. Forced
strictness goes with the value that is used and ends at its members, while a marked block is strict
wherever a name leads to it. So the two differ only where a member has a type whose name leads to
keys of a block without the mark (`Corpus.Spares`). Where there is no such member both give the same
report (`Schema.reportOf_marked`).

Whether keys are spared is asked of types and blocks, without any value. It is a question about what
a check may come to, and a check of one value need not come there. So the condition is enough, and
not necessary for each value.

Reports are the same in full, with messages and paths, and so are the faults. Marking a block
changes no name and no place, and what a name means is not affected by it (`Corpus.resolve_marked`).
-/

namespace Docblock

/-! ## Marked blocks -/

/-- The same block, with undeclared keys refused. -/
def Block.marked (block : Block) : Block :=
  { block with elements := { block.elements with strict := true } }

theorem Block.strict_marked (block : Block) : block.marked.strict = true := rfl

/-- The same sources, with every block marked. -/
def Corpus.marked (corpus : Corpus) : Corpus where
  sources := corpus.sources.map fun source =>
    { source with blocks := source.blocks.map Block.marked }

namespace Corpus

variable {corpus : Corpus}

theorem block?_marked (ref : BlockRef) :
    corpus.marked.block? ref = (corpus.block? ref).map Block.marked := by
  unfold block? marked
  rw [List.getElem?_map]
  cases corpus.sources[ref.source]? with
  | none => rfl
  | some source => exact List.getElem?_map

theorem block?_marked_of_some {ref : BlockRef} {block : Block}
    (found : corpus.block? ref = some block) : corpus.marked.block? ref = some block.marked := by
  rw [block?_marked, found]
  rfl

/-- A mark gives and takes no names. -/
theorem seenBy_marked (index : Nat) : corpus.marked.seenBy index = corpus.seenBy index := by
  unfold seenBy marked
  rw [List.getElem?_map]
  cases corpus.sources[index]? with
  | none => rfl
  | some source =>
    dsimp only [Option.map_some]
    have local_eq : Source.localRefs { source with blocks := source.blocks.map Block.marked } index =
        source.localRefs index := by
      unfold Source.localRefs
      rw [List.zipIdx_map, List.filterMap_map]
      rfl
    rw [local_eq]

theorem resolve_marked (registry : Registry) (name : String) :
    corpus.marked.resolve registry name = corpus.resolve registry name := by
  unfold resolve
  have same : ∀ ref, (corpus.marked.block? ref).any (Block.declares name) =
      (corpus.block? ref).any (Block.declares name) := by
    intro ref
    rw [block?_marked]
    cases corpus.block? ref <;> rfl
  rw [show corpus.marked.seenBy = corpus.seenBy from funext seenBy_marked]
  simp only [same]

theorem target?_marked (registry : Registry) (type : TypeExpr) :
    corpus.marked.target? registry type = corpus.target? registry type := by
  unfold target?
  rw [show corpus.marked.resolve registry = corpus.resolve registry from
    funext (resolve_marked registry)]

end Corpus

/-! ## Where the two ways differ

Whether a type spares keys is found by unfolding names, and a name may lead back to its own block.
The definition is a relation for that reason, with one rule for every step that a check may take. -/

/-- A check comes to keys that it lets be undeclared, while with every block marked they are refused.
`strict` and `marked` tell whether undeclared keys are refused at the subject itself, in the one check
and in the other. A member starts without strictness either way, and a name then adds what its block
says. -/
inductive Corpus.Spares (corpus : Corpus) : Registry → Bool → Bool → Subject → Prop
  | object {registry : Registry} {strict marked : Bool} {text : String}
      {fields : List (Field TypeExpr)} (apart : strict ≠ marked) :
      Spares corpus registry strict marked (.type (.object text fields))
  | keys {registry : Registry} {strict marked : Bool} {tags : List Tag} (apart : strict ≠ marked) :
      Spares corpus registry strict marked (.keys tags)
  | part {registry : Registry} {strict marked : Bool} {type part : TypeExpr}
      (mem : part ∈ type.inner) (inside : Spares corpus registry false false (.type part)) :
      Spares corpus registry strict marked (.type type)
  | member {registry : Registry} {strict marked : Bool} {tags : List Tag} {tag : Tag}
      (mem : tag ∈ tags) (inside : Spares corpus registry false false (.types tag.types)) :
      Spares corpus registry strict marked (.keys tags)
  | alternative {registry : Registry} {strict marked : Bool} {types : List TypeExpr}
      {type : TypeExpr} (mem : type ∈ types)
      (inside : Spares corpus registry strict marked (.type type)) :
      Spares corpus registry strict marked (.types types)
  | name {registry : Registry} {strict marked : Bool} {type : TypeExpr} {ref : BlockRef}
      {block : Block} (target : corpus.target? registry type = some ref)
      (found : corpus.block? ref = some block)
      (inside : Spares corpus (registry.chain ref.source) (strict || block.strict) true
        (.block block)) :
      Spares corpus registry strict marked (.type type)
  | described {registry : Registry} {strict marked : Bool} {block : Block}
      (other : block.elements.callback = none) (some : block.elements.property ≠ [])
      (inside : Spares corpus registry strict marked (.keys block.elements.property)) :
      Spares corpus registry strict marked (.block block)
  | synonym {registry : Registry} {strict marked : Bool} {block : Block} {tag : Tag}
      (other : block.elements.callback = none) (bare : block.elements.property = [])
      (named : block.elements.typedef = some tag)
      (inside : Spares corpus registry strict marked
        (.types (block.elements.aliasTag tag).types)) :
      Spares corpus registry strict marked (.block block)

/-- What is spared is spared by a block without a mark. -/
theorem Corpus.Spares.exists_unmarked {corpus : Corpus} {registry : Registry}
    {strict marked : Bool} {subject : Subject}
    (h : corpus.Spares registry strict marked subject) (alike : strict = marked) :
    ∃ ref block, corpus.block? ref = some block ∧ block.strict = false := by
  induction h with
  | object apart => exact absurd alike apart
  | keys apart => exact absurd alike apart
  | part _ _ ih => exact ih rfl
  | member _ _ ih => exact ih rfl
  | alternative _ _ ih => exact ih alike
  | @name registry strict marked type ref block target found _ ih =>
    cases mark : block.strict with
    | false => exact ⟨ref, block, found, mark⟩
    | true => exact ih (by rw [mark, Bool.or_true])
  | described _ _ _ ih => exact ih alike
  | synonym _ _ _ _ ih => exact ih alike

/-- What a query asks about. -/
def Query.subject : Query → Subject
  | .types alts _ _ => .types alts
  | .type alt _ => .type alt
  | .block named _ => .block named

section

variable {corpus : Corpus} {registry : Registry} {closed : List BlockRef} {path : List Value}
variable {value : Value} {strict marked : Bool}

/-- An alternative spares nothing where none that is listed does. -/
theorem not_spares_alternative {types : List TypeExpr} {type : TypeExpr}
    (h : ¬corpus.Spares registry strict marked (.types types)) (mem : type ∈ alternatives types) :
    ¬corpus.Spares registry strict marked (.type type) := by
  intro spares
  unfold alternatives at mem
  split at mem
  · cases List.mem_singleton.1 mem
    cases spares with
    | part mem => cases mem
    | name target => cases target
  · exact h (.alternative mem spares)

theorem Shape.demands_keyed (demands : List Demand) (declared : List String) (strict lax : Bool) :
    (keyed value demands declared strict).demands = (keyed value demands declared lax).demands := by
  unfold keyed
  split <;> rfl

theorem TypeExpr.demands_shape (type : TypeExpr) (strict lax : Bool) :
    (type.shape value strict).demands = (type.shape value lax).demands := by
  cases type with
  | object text fields => exact Shape.demands_keyed _ _ strict lax
  | _ => rfl

theorem Tag.demands_shape (tags : List Tag) (strict lax : Bool) :
    (Tag.shape tags value strict).demands = (Tag.shape tags value lax).demands :=
  Shape.demands_keyed _ _ strict lax

theorem TypeExpr.shape_of_not_spares {type : TypeExpr}
    (h : ¬corpus.Spares registry strict marked (.type type)) :
    type.shape value strict = type.shape value marked := by
  cases type with
  | object text fields =>
    by_contra apart
    exact h (.object fun same => apart (congrArg _ same))
  | _ => rfl

theorem Tag.shape_of_not_spares {tags : List Tag}
    (h : ¬corpus.Spares registry strict marked (.keys tags)) :
    Tag.shape tags value strict = Tag.shape tags value marked := by
  by_contra apart
  exact h (.keys fun same => apart (congrArg _ same))

/-! ## The same report -/

theorem map_ofFailure_inj {x y : Except Fault (Option Failure)} :
    x.map Verdict.ofFailure = y.map Verdict.ofFailure ↔ x = y := by
  constructor
  · intro h
    cases x with
    | error fault =>
      cases y with
      | error other =>
        cases h
        rfl
      | ok outcome => cases h
    | ok outcome =>
      cases y with
      | error other => cases h
      | ok outcome' =>
        cases outcome <;> cases outcome' <;> cases h <;> rfl
  · exact fun h => h ▸ rfl

variable [AddressTest]

/-- A check of a block does not ask for its mark. -/
theorem checkBlock_marked (block : Block) :
    checkBlock corpus registry closed path block.marked value strict =
      checkBlock corpus registry closed path block value strict := by
  rw [checkBlock, checkBlock]
  rfl

/-- With every block marked a name is checked strictly. -/
theorem checkType_marked_of_not_mem {type : TypeExpr} {ref : BlockRef} {block : Block}
    (target : corpus.target? registry type = some ref) (found : corpus.block? ref = some block)
    (fresh : ref ∉ closed) :
    checkType corpus.marked registry closed path type value marked =
      checkBlock corpus.marked (registry.chain ref.source) (ref :: closed) path block value true := by
  have target' := (corpus.target?_marked registry type).trans target
  rw [checkType_of_not_mem target' (Corpus.block?_marked_of_some found) fresh, checkBlock_marked,
    Block.strict_marked, Bool.or_true]

theorem checkType_marked_of_mem {type : TypeExpr} {ref : BlockRef} {block : Block}
    (target : corpus.target? registry type = some ref) (found : corpus.block? ref = some block)
    (mem : ref ∈ closed) :
    checkType corpus.marked registry closed path type value marked =
      checkType corpus registry closed path type value strict := by
  have target' := (corpus.target?_marked registry type).trans target
  rw [checkType_of_mem target found mem,
    checkType_of_mem target' (Corpus.block?_marked_of_some found) mem]

theorem checkDemands_congr {other : Corpus} {demands : List Demand}
    (same : ∀ demand ∈ demands,
      checkDemand corpus registry path demand = checkDemand other registry path demand) :
    checkDemands corpus registry path demands = checkDemands other registry path demands := by
  induction demands with
  | nil => rfl
  | cons demand rest ih =>
    rw [checkDemands, checkDemands, same demand (by simp)]
    refine bind_congr fun outcome => ?_
    cases outcome with
    | some failure => rfl
    | none => exact ih fun later hl => same later (by simp [hl])

theorem checkShape_congr {other : Corpus} {shape : Shape}
    (same : ∀ demand ∈ shape.demands,
      checkDemand corpus registry path demand = checkDemand other registry path demand) :
    checkShape corpus registry path shape = checkShape other registry path shape := by
  cases shape with
  | mismatch => rfl
  | members demands extra =>
    have members : checkDemands corpus registry path demands =
        checkDemands other registry path demands := checkDemands_congr same
    rw [checkShape, checkShape, members]

/-- Keys are checked alike where the members are. -/
theorem checkKeys_marked {tags : List Tag}
    (unspared : ¬corpus.Spares registry strict marked (.keys tags))
    (each : ∀ demand ∈ (Tag.shape tags value marked).demands,
      ¬corpus.Spares registry false false (.types demand.types) →
      checkDemand corpus registry path demand = checkDemand corpus.marked registry path demand) :
    checkShape corpus registry path (Tag.shape tags value strict) =
      checkShape corpus.marked registry path (Tag.shape tags value marked) := by
  rw [Tag.shape_of_not_spares unspared]
  refine checkShape_congr fun demand hd => each demand hd fun spares => ?_
  obtain ⟨tag, mem, types⟩ := Tag.exists_of_mem_demands hd
  exact unspared (.member mem (types ▸ spares))

/-- Where nothing is spared, a check gives what it gives with every block marked. -/
theorem Query.verdict_marked (query : Query)
    (unspared : ¬corpus.Spares registry strict marked query.subject) :
    (query.withStrict strict).verdict corpus registry closed path value =
      (query.withStrict marked).verdict corpus.marked registry closed path value := by
  induction registry, closed, path, value, query using Query.induction
    generalizing strict marked with
  | types registry closed path value types filters _ ih =>
    refine map_ofFailure_inj.2 (check_congr fun type mem => ?_)
    exact ih type mem (not_spares_alternative unspared mem)
  | type registry closed path value type _ ihMember ihBlock =>
    simp only [withStrict, verdict]
    rcases target : corpus.target? registry type with _ | ref
    · have target' := (corpus.target?_marked registry type).trans target
      rw [checkType_of_form target, checkType_of_form target',
        TypeExpr.shape_of_not_spares unspared]
      -- Below the value both checks start without strictness.
      refine checkShape_congr fun demand hd => map_ofFailure_inj.1 ?_
      refine ihMember demand (TypeExpr.demands_shape type _ _ ▸ hd) fun spares => ?_
      cases spares with
      | alternative mem inside =>
        exact unspared (.part (TypeExpr.mem_inner_of_mem_demands hd mem) inside)
    · obtain ⟨-, block, -, -, found, -⟩ := Corpus.exists_block_of_target target
      by_cases mem : ref ∈ closed
      · exact (checkType_marked_of_mem target found mem).symm
      · rw [checkType_of_not_mem target found mem, checkType_marked_of_not_mem target found mem]
        exact ihBlock ref block target found mem fun spares =>
          unspared (.name target found spares)
  | block registry closed path value block _ ihMember ihTypes =>
    rcases block.stands with function | ⟨other, described⟩ | ⟨other, bare, nameless⟩ |
      ⟨other, bare, tag, named⟩
    · simp only [withStrict, verdict, checkBlock_of_callback function]
    · have keys : ¬corpus.Spares registry strict marked (.keys block.elements.property) :=
        fun spares => unspared (.described other described spares)
      simp only [withStrict, verdict, checkBlock_of_property other described]
      refine checkKeys_marked keys fun demand hd spares => map_ofFailure_inj.1 ?_
      exact ihMember demand (Tag.demands_shape _ _ _ ▸ hd) spares
    · simp only [withStrict, verdict, checkBlock_of_nameless other bare nameless]
    · simp only [withStrict, verdict_block_of_synonym other bare named]
      exact ihTypes tag named fun spares => unspared (.synonym other bare named spares)

end

/-! ## Uses -/

namespace Schema

variable {schema : Schema} {value : Value}

/-- The same use with every block marked, and not forced. -/
def marked (schema : Schema) : Schema where
  corpus := schema.corpus.marked
  source := schema.source
  block := schema.block.marked
  forceStrict := false

theorem strict_marked (schema : Schema) : schema.marked.strict = true := rfl

theorem single?_marked (kind : TagKind) :
    schema.marked.elements.single? kind = schema.elements.single? kind := by
  cases kind <;> rfl

theorem excess?_marked (args : List Value) :
    schema.forced.excess? args = schema.marked.excess? args := by
  unfold excess?
  rw [strict_forced, strict_marked]
  rfl

variable [AddressTest]

theorem check_marked {types : List TypeExpr} {filters : List Filter} {path : List Value}
    {strict marked : Bool}
    (unspared : ¬schema.corpus.Spares schema.registry strict marked (.types types)) :
    check schema.forced.corpus schema.forced.registry [] path types value filters strict =
      check schema.marked.corpus schema.marked.registry [] path types value filters marked :=
  map_ofFailure_inj.1 (Query.verdict_marked (.types types filters strict) unspared)

theorem checkArguments_marked {args : List Value} {tags : List Tag}
    (unspared : ¬schema.corpus.Spares schema.registry true true (.keys tags)) :
    schema.forced.checkArguments args tags = schema.marked.checkArguments args tags := by
  have params : ∀ tag ∈ tags, ¬schema.corpus.Spares schema.registry false false (.types tag.types) :=
    fun tag mem spares => unspared (.member mem spares)
  clear unspared
  induction tags with
  | nil => rfl
  | cons tag rest ih =>
    have later := ih fun other ho => params other (by simp [ho])
    rw [checkArguments, checkArguments, later]
    rcases argumentOf args tag with ⟨arg, path⟩
    dsimp only
    rw [check_marked (params tag (by simp))]

theorem reportArguments_marked {args : List Value}
    (unspared : ¬schema.corpus.Spares schema.registry true true (.keys schema.elements.param)) :
    schema.forced.reportArguments args = schema.marked.reportArguments args := by
  rw [reportArguments, reportArguments, excess?_marked]
  exact congrArg (· >>= _) (checkArguments_marked unspared)

theorem reportKeys_marked {name : String}
    (unspared : ∀ spoken, schema.keyTags? name = some spoken →
      ¬schema.corpus.Spares schema.registry true true (.keys spoken.2)) :
    schema.forced.reportKeys name value = schema.marked.reportKeys name value := by
  rw [reportKeys, reportKeys, show schema.forced.keyTags? name = schema.keyTags? name from rfl,
    show schema.marked.keyTags? name = schema.keyTags? name from rfl]
  cases known : schema.keyTags? name with
  | none => rfl
  | some spoken =>
    have same : schema.forced.checkKeys spoken.2 value = schema.marked.checkKeys spoken.2 value := by
      rw [checkKeys_eq, checkKeys_eq, strict_forced, strict_marked]
      exact checkKeys_marked (unspared spoken known) fun demand _ spares => check_marked spares
    dsimp only
    rw [same]

theorem reportSingle_marked {kind : TagKind}
    (unspared : ∀ tag, schema.elements.single? kind = some tag →
      ¬schema.corpus.Spares schema.registry true true (.types tag.types)) :
    schema.forced.reportSingle kind value = schema.marked.reportSingle kind value := by
  rw [reportSingle, reportSingle, single?_marked,
    show schema.forced.elements.single? kind = schema.elements.single? kind from rfl]
  cases found : schema.elements.single? kind with
  | none => rfl
  | some tag =>
    dsimp only
    rw [strict_forced, strict_marked, check_marked (unspared tag found)]

theorem reportTypedef_marked
    (unspared : schema.block.typedefTag?.isSome = true →
      ¬schema.corpus.Spares schema.registry true true (.block schema.block)) :
    schema.forced.reportTypedef value = schema.marked.reportTypedef value := by
  rw [reportTypedef, reportTypedef,
    show schema.forced.block.typedefTag? = schema.block.typedefTag? from rfl,
    show schema.marked.block.typedefTag? = schema.block.typedefTag? from rfl]
  cases named : schema.block.typedefTag? with
  | none => rfl
  | some tag =>
    have same : checkBlock schema.forced.corpus schema.forced.registry [] [] schema.forced.block
        value true = checkBlock schema.marked.corpus schema.marked.registry [] []
        schema.marked.block value true :=
      (Query.verdict_marked (.block schema.block true) (unspared (by simp [named]))).trans
        (checkBlock_marked schema.block).symm
    dsimp only
    rw [strict_forced, strict_marked, same]
    rfl

/-- Where nothing is spared, a forced use gives the report that it gives with every block marked. -/
theorem reportOf_marked {use : Use}
    (unspared : ∀ subject, schema.subjectOf use = some subject →
      ¬schema.corpus.Spares schema.registry true true subject) :
    schema.forced.reportOf use = schema.marked.reportOf use := by
  induction use using Use.induction schema.elements with
  | arguments args => exact reportArguments_marked (unspared _ rfl)
  | keys name value =>
    exact reportKeys_marked fun spoken known => unspared _ (by rw [subjectOf, known]; rfl)
  | tag name value =>
    rw [reportOf, reportOf, reportTag, reportTag]
    cases meant : TagKind.singles.find? (·.name = name) with
    | none => rfl
    | some kind =>
      exact reportSingle_marked fun tag found => unspared _ (by simp [subjectOf, meant, found])
  | typedef value =>
    refine reportTypedef_marked fun named => unspared _ ?_
    obtain ⟨tag, ht⟩ := Option.isSome_iff_exists.1 named
    rw [subjectOf, ht]
    rfl
  | whole value ih =>
    rw [reportOf, reportOf, report_eq, report_eq,
      show schema.forced.elements.use? value = schema.elements.use? value from rfl,
      show schema.marked.elements.use? value = schema.elements.use? value from rfl]
    cases found : schema.elements.use? value with
    | none => rfl
    | some use =>
      refine ih use found fun subject h => unspared subject ?_
      rw [subjectOf, subject?_eq schema value, found]
      exact h

/-- Where every block has its mark already, forcing strictness adds nothing. -/
theorem reportOf_of_marked (all : ∀ ref block, schema.corpus.block? ref = some block →
      block.strict = true) (use : Use) :
    schema.forced.reportOf use = schema.marked.reportOf use := by
  refine reportOf_marked fun subject _ spares => ?_
  obtain ⟨ref, block, found, unmarked⟩ := spares.exists_unmarked rfl
  cases unmarked.symm.trans (all ref block found)

end Schema

end Docblock
