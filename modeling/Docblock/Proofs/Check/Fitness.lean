import Docblock.Proofs.Check.Result
import Docblock.Proofs.Check.Returns

/-!
# Filters that were read can be checked

All filters in a block that was read are allowed for the types they stand beside: those of a tag,
and those of a field at any depth inside its types (`Block.Holds`). What may be written is what can
be checked (`Category.checker?_eq_rule?`), so a check never comes to a filter that it has no checker
for. Then a use of a block breaks off only where the block is not fit for the use, or with one of
the faults of checks (`filters_of_ofSource`): a number is too large for a filter or too long to be
written, or the test for web addresses breaks off. Just when that happens is the matter of `Breaks`,
and is not asked here.

Of the test for web addresses nothing is assumed, since a fault of it is one of checks. And blocks
need not be of one source. It is enough that all of those that names can lead to were read
(`Corpus.Read`), in whatever files they stand.
-/

namespace Docblock

/-! ## Where filters stand -/

/-- A field stands in a type, at any depth. -/
inductive TypeExpr.Contains : TypeExpr → Field TypeExpr → Prop
  | own {type : TypeExpr} {field : Field TypeExpr} (mem : field ∈ type.fields) :
      Contains type field
  | inside {type part : TypeExpr} {field : Field TypeExpr} (mem : part ∈ type.inner)
      (deeper : Contains part field) : Contains type field

/-- Filters that stand beside types somewhere in a block: those of a tag, or of a field in the
types of one. -/
inductive Block.Holds (block : Block) : List TypeExpr → List Filter → Prop
  | tag {tag : Tag} (mem : tag ∈ block.elements.tags) : Holds block tag.types tag.filters
  | field {tag : Tag} {type : TypeExpr} {field : Field TypeExpr}
      (mem : tag ∈ block.elements.tags) (among : type ∈ tag.types)
      (inside : type.Contains field) : Holds block field.types field.filters

theorem TypeExpr.Filtered.allowed_of_contains {type : TypeExpr} {field : Field TypeExpr}
    (filtered : type.Filtered) (inside : type.Contains field) :
    Allowed field.types field.filters := by
  induction inside with
  | own mem => exact filtered.fields mem
  | inside mem _ ih => exact ih (filtered.inner mem)

theorem Block.Filtered.allowed_of_holds {block : Block} {types : List TypeExpr}
    {filters : List Filter} (filtered : block.Filtered) (h : block.Holds types filters) :
    Allowed types filters := by
  cases h with
  | tag mem => exact (filtered _ mem).allowed
  | field mem among inside => exact ((filtered _ mem).types _ among).allowed_of_contains inside

/-! ## Filters are checked -/

theorem mem_alternatives {types : List TypeExpr} {type : TypeExpr} (h : type ∈ types) :
    type ∈ alternatives types := by
  unfold alternatives
  split
  · rename_i none
    rw [List.isEmpty_iff.1 none] at h
    cases h
  · exact h

/-- Filters that are allowed have checkers. -/
theorem Allowed.ofCheck [AddressTest] {types : List TypeExpr} {filters : List Filter}
    {type : TypeExpr} {category : Category} {value : Value} {fault : Fault}
    (allowed : Allowed types filters) (mem : type ∈ types) (hc : type.category? = some category)
    (h : Filter.firstFault? category value filters = .error fault) : fault.OfCheck := by
  have known := allowed.known (mem_alternatives mem) hc
  obtain ⟨_, _, _, -, -, rule, -, breaks⟩ := (Filter.firstFault?_eq_error_iff known).1 h
  exact breaks.ofCheck

/-! ## Uses break off -/

theorem Elements.mem_tags_of_single {elements : Elements} {kind : TagKind} {tag : Tag}
    (h : elements.single? kind = some tag) : tag ∈ elements.tags := by
  cases kind <;> simp only [single?] at h <;> simp_all [tags]

/-- A fault that says what a block cannot be used for. -/
inductive Fault.OfUse : Fault → Prop
  | keys (name : String) : OfUse (.schema (.notProperties name) none)
  | tag : OfUse (.schema .notSingle none)
  | typedef : OfUse (.schema .notTypedef none)
  | whole (location : Location) : OfUse (.schema .noSchemaTag (some location))

/-- The fault of a failure that cannot be told is one of checks. -/
theorem Report.ofCheck_of_explained {kind : TagKind} {what : String} {depth : Nat}
    {outcome : Option Failure} {fault : Fault}
    (h : explained kind what depth outcome = .error fault) : fault.OfCheck := by
  obtain ⟨rfl, -⟩ := explained_eq_error_iff.1 h
  exact .number .tooLong

/-- All blocks of a corpus were read from the texts of its sources. -/
def Corpus.Read (corpus : Corpus) : Prop :=
  ∀ source ∈ corpus.sources, ∃ code, Block.ofSource source.file code = .ok source.blocks

theorem Corpus.Read.filtered {corpus : Corpus} (read : corpus.Read) (ref : BlockRef)
    (block : Block) (h : corpus.block? ref = some block) : block.Filtered := by
  obtain ⟨source, hs, hb⟩ := Option.bind_eq_some_iff.1 h
  obtain ⟨code, parsed⟩ := read source (List.mem_of_getElem? hs)
  exact Block.filtered_of_ofSource parsed (List.mem_of_getElem? hb)

theorem Schema.filtered_of_keyTags {schema : Schema} {name : String} {kind : TagKind} {tags : List Tag}
    (filtered : schema.block.Filtered) (found : schema.keyTags? name = some (kind, tags)) :
    ∀ tag ∈ tags, tag.Filtered := by
  unfold keyTags? at found
  split at found
  · cases found
    exact filtered.param
  · split at found
    · cases found
      exact filtered.property
    · cases found

section

variable [AddressTest]

namespace Schema

variable {schema : Schema} {value : Value} {fault : Fault}

theorem ofCheck_of_check {types : List TypeExpr} {filters : List Filter}
    {path : List Value} {strict : Bool}
    (blocks : ∀ ref block, schema.corpus.block? ref = some block → block.Filtered)
    (filtered : Query.Filtered (.types types filters strict))
    (h : check schema.corpus schema.registry [] path types value filters strict = .error fault) :
    fault.OfCheck :=
  ((faults_iff_breaks blocks (.types types filters strict) filtered trivial).1 h).ofCheck

theorem ofCheck_of_checkArguments {args : List Value} {tags : List Tag}
    (blocks : ∀ ref block, schema.corpus.block? ref = some block → block.Filtered)
    (filtered : ∀ tag ∈ tags, tag.Filtered)
    (h : schema.checkArguments args tags = .error fault) : fault.OfCheck := by
  induction tags with
  | nil => cases h
  | cons tag rest ih =>
    have later := ih fun other ho => filtered other (by simp [ho])
    rw [checkArguments] at h
    rcases argumentOf args tag with ⟨arg, steps⟩
    dsimp only at h
    split at h
    · exact later h
    · rcases bind_eq_error.1 h with faulty | ⟨outcome, -, more⟩
      · have one := filtered tag (by simp)
        exact ofCheck_of_check blocks ⟨one.allowed, one.types⟩ faulty
      · cases outcome with
        | none => exact later more
        | some failure => exact absurd more pure_ne_error

theorem ofCheck_of_reportKeys {name : String} {kind : TagKind} {tags : List Tag}
    (blocks : ∀ ref block, schema.corpus.block? ref = some block → block.Filtered)
    (filtered : ∀ tag ∈ tags, tag.Filtered) (found : schema.keyTags? name = some (kind, tags))
    (h : schema.reportKeys name value = .error fault) : fault.OfCheck := by
  rcases (reportKeys_eq_error_iff found).1 h with (⟨demand, turn, inside⟩ | ⟨rfl, -⟩) | ⟨rfl, -⟩
  · have one := Tag.filtered_of_mem_demands filtered turn.mem
    exact ofCheck_of_check blocks ⟨one.allowed, one.types⟩ inside
  · exact .number .tooLong
  · exact .number .tooLong

theorem ofCheck_of_reportSingle {kind : TagKind}
    (blocks : ∀ ref block, schema.corpus.block? ref = some block → block.Filtered)
    (filtered : schema.block.Filtered) (h : schema.reportSingle kind value = .error fault) :
    fault.OfCheck := by
  unfold reportSingle at h
  cases found : schema.elements.single? kind with
  | none =>
    rw [found] at h
    exact Report.ofCheck_of_explained h
  | some tag =>
    rw [found] at h
    have mem : tag ∈ schema.block.elements.tags := Elements.mem_tags_of_single found
    rcases bind_eq_error.1 h with faulty | ⟨outcome, -, more⟩
    · exact ofCheck_of_check blocks ⟨(filtered tag mem).allowed, (filtered tag mem).types⟩ faulty
    · exact Report.ofCheck_of_explained more

theorem ofCheck_of_checkBlock {block : Block} {strict : Bool}
    (blocks : ∀ ref block, schema.corpus.block? ref = some block → block.Filtered)
    (filtered : block.Filtered) (named : block.typedefTag?.isSome = true)
    (h : checkBlock schema.corpus schema.registry [] [] block value strict = .error fault) :
    fault.OfCheck :=
  ((faults_iff_breaks blocks (.block block strict) filtered named).1 h).ofCheck

theorem ofUse_of_reportKeys {name : String}
    (blocks : ∀ ref block, schema.corpus.block? ref = some block → block.Filtered)
    (filtered : schema.block.Filtered) (h : schema.reportKeys name value = .error fault) :
    fault.OfUse ∨ fault.OfCheck := by
  cases found : schema.keyTags? name with
  | none =>
    rw [reportKeys, found] at h
    cases h
    exact .inl (.keys name)
  | some spoken =>
    have of_block := filtered_of_keyTags filtered found
    exact .inr (ofCheck_of_reportKeys blocks of_block found h)

theorem ofUse_of_reportTypedef
    (blocks : ∀ ref block, schema.corpus.block? ref = some block → block.Filtered)
    (filtered : schema.block.Filtered) (h : schema.reportTypedef value = .error fault) :
    fault.OfUse ∨ fault.OfCheck := by
  unfold reportTypedef at h
  cases found : schema.block.typedefTag? with
  | none =>
    rw [found] at h
    cases h
    exact .inl .typedef
  | some tag =>
    rw [found] at h
    have named : schema.block.typedefTag?.isSome = true := by
      rw [found]
      rfl
    rcases bind_eq_error.1 h with faulty | ⟨verdict, -, more⟩
    · exact .inr (ofCheck_of_checkBlock blocks filtered named faulty)
    · exact .inr (Report.ofCheck_of_explained more)

/-- A use breaks off where the block is not fit for it, or where a check does. -/
theorem ofUse_of_reportOf {use : Use}
    (blocks : ∀ ref block, schema.corpus.block? ref = some block → block.Filtered)
    (filtered : schema.block.Filtered) (h : schema.reportOf use = .error fault) :
    fault.OfUse ∨ fault.OfCheck := by
  cases use with
  | arguments args =>
    rcases bind_eq_error.1 h with faulty | ⟨failure, -, more⟩
    · exact .inr (ofCheck_of_checkArguments blocks filtered.param faulty)
    · exact .inr (Report.ofCheck_of_explained more)
  | keys name value => exact ofUse_of_reportKeys blocks filtered h
  | tag name value =>
    unfold reportOf reportTag at h
    dsimp only at h
    split at h
    · cases h
      exact .inl .tag
    · exact .inr (ofCheck_of_reportSingle blocks filtered h)
  | typedef value => exact ofUse_of_reportTypedef blocks filtered h
  | whole value =>
    unfold reportOf Schema.report at h
    dsimp only at h
    split at h
    · exact .inr (ofCheck_of_reportSingle blocks filtered h)
    split at h
    · exact .inr (ofCheck_of_reportSingle blocks filtered h)
    split at h
    · exact ofUse_of_reportTypedef blocks filtered h
    split at h
    · exact ofUse_of_reportKeys blocks filtered h
    · cases h
      exact .inl (.whole _)

end Schema

/-! ## Blocks that were read -/

/-- Every block that was read has allowed filters beside its types, and beside the types of every
field inside them. So each of them has a checker, and a use of the block with any value breaks off
only where the block is not fit for the use, or with one of the faults of checks. -/
theorem filters_of_ofSource {file code : String} {blocks : List Block}
    (parsed : Block.ofSource file code = .ok blocks) {block : Block} (mem : block ∈ blocks) :
    (∀ types filters, block.Holds types filters → Allowed types filters ∧
      ∀ type ∈ types, ∀ category, type.category? = some category → ∀ value fault,
        Filter.firstFault? category value filters = .error fault → fault.OfCheck) ∧
    ∀ corpus : Corpus, corpus.Read → ∀ source forceStrict use fault,
      Schema.reportOf ⟨corpus, source, block, forceStrict⟩ use = .error fault →
        fault.OfUse ∨ fault.OfCheck := by
  have filtered := Block.filtered_of_ofSource parsed mem
  constructor
  · intro types filters holds
    have allowed := filtered.allowed_of_holds holds
    exact ⟨allowed, fun type ht category hc value fault => allowed.ofCheck ht hc⟩
  · intro corpus read source forceStrict use fault
    exact Schema.ofUse_of_reportOf read.filtered filtered

end

open scoped Net

/-- The filter of a type with a name is allowed, and a number that is not too large is checked. -/
theorem filters_of_ofSource_finite :
    Allowed Finite.tag.types Finite.tag.filters ∧
      ∀ fault, Schema.reportOf ⟨.ofBlocks "" [Finite.block], 0, Finite.block, true⟩
        (.arguments [.int 3]) = .error fault → fault.OfUse ∨ fault.OfCheck := by
  have read : (Corpus.ofBlocks "" [Finite.block]).Read := by
    intro source hs
    cases List.mem_singleton.1 hs
    exact ⟨Finite.code, Finite.ofSource_code⟩
  have both := filters_of_ofSource Finite.ofSource_code (List.mem_singleton.2 rfl)
  refine ⟨(both.1 _ _ (.tag ?_)).1, fun fault => both.2 _ read 0 true _ fault⟩
  simp [Finite.block, Elements.tags]

end Docblock
