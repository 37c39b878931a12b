import Docblock.Proofs.Check.Agreement
import Mathlib.Logic.Relation

/-!
# Where names are resolved

A name in a block is resolved in the registry that the check has come to, which lists the sources on
the way, the first one first. So what a block means can depend on the way. A block is uncaptured by
a registry when it leads to no name that this registry has for another block (`Uncaptured`): then a
check that came through the registry gives what it gives without it (`checkBlock_eq_of_uncaptured`).

Where a block leads is a question about names only, so it is asked without a value, and more names
are followed than any one check would follow. Names that a type only mentions inside count for
members, and names that a block stands for count for the value itself. The second are asked for
where cycles are (`Block.Equates`), and here the first include them.

A name that the outer registry does not have, or has for the same block, cannot be captured. Nothing
is asked of the order in which sources were read.
-/

namespace Docblock

variable {corpus : Corpus} {registry own outer : Registry} {closed : List BlockRef}
variable {path : List Value} {value : Value}

/-! ## What a block speaks of -/

/-- A type has a name in it, at any depth. -/
inductive TypeExpr.Mentions (name : String) : TypeExpr → Prop
  | here {type : TypeExpr} (self : type.name? = some name) : Mentions name type
  | inside {type part : TypeExpr} (mem : part ∈ type.inner) (there : Mentions name part) :
      Mentions name type

/-- What a block stands for has a name in it. -/
inductive Block.Mentions (block : Block) (name : String) : Prop
  | key {tag : Tag} {type : TypeExpr} (other : block.elements.callback = none)
      (mem : tag ∈ block.elements.property) (among : type ∈ tag.types)
      (there : type.Mentions name) : Mentions block name
  | synonym {tag : Tag} {type : TypeExpr} (other : block.elements.callback = none)
      (bare : block.elements.property = []) (named : block.elements.typedef = some tag)
      (among : type ∈ (block.elements.aliasTag tag).types) (there : type.Mentions name) :
      Mentions block name

/-- A block stands for alternatives, and a name is one of them: it is asked about the same
value. -/
def Block.Equates (block : Block) (name : String) : Prop :=
  block.elements.callback = none ∧ block.elements.property = [] ∧
    ∃ tag, block.elements.typedef = some tag ∧
      ∃ type ∈ (block.elements.aliasTag tag).types, type.name? = some name

theorem Block.Equates.mentions {block : Block} {name : String} (h : block.Equates name) :
    block.Mentions name := by
  obtain ⟨other, bare, tag, named, type, among, self⟩ := h
  exact .synonym other bare named among (.here self)

/-! ## Where names lead -/

/-- A block, and the registry that a check has come to it with. -/
structure Visit where
  registry : Registry
  ref : BlockRef

/-- The visit of a block by itself. -/
def Visit.alone (ref : BlockRef) : Visit := ⟨[ref.source], ref⟩

namespace Corpus

/-- A check goes on from a block to one that a name in it means. -/
def Goes (corpus : Corpus) (speaks : Block → String → Prop) (visit next : Visit) : Prop :=
  ∃ block name, corpus.block? visit.ref = some block ∧ speaks block name ∧
    corpus.resolve visit.registry name = some next.ref ∧
    next.registry = visit.registry.chain next.ref.source

/-- No name that a check comes to from a visit means another block in a registry. -/
def Uncaptured (corpus : Corpus) (outer : Registry) (visit : Visit) : Prop :=
  ∀ next, Relation.ReflTransGen (corpus.Goes Block.Mentions) visit next →
    ∀ block, corpus.block? next.ref = some block → ∀ name, block.Mentions name →
      corpus.resolve outer name = none ∨
        corpus.resolve outer name = corpus.resolve next.registry name

/-- A name in a visit is not captured, nor is any that it leads to. -/
def Clear (corpus : Corpus) (outer own : Registry) (name : String) : Prop :=
  (corpus.resolve outer name = none ∨ corpus.resolve outer name = corpus.resolve own name) ∧
    ∀ ref, corpus.resolve own name = some ref →
      corpus.Uncaptured outer ⟨own.chain ref.source, ref⟩

theorem Uncaptured.clear {ref : BlockRef} {block : Block} {name : String}
    (h : corpus.Uncaptured outer ⟨own, ref⟩) (found : corpus.block? ref = some block)
    (mentions : block.Mentions name) : corpus.Clear outer own name := by
  refine ⟨h _ .refl block found name mentions, fun next resolved last hl => h last ?_⟩
  exact .head ⟨block, name, found, mentions, resolved, rfl⟩ hl

/-- A registry with one more source has its names after its own. -/
theorem resolve_chain (registry : Registry) (source : Nat) (name : String) :
    corpus.resolve (registry.chain source) name =
      (corpus.resolve registry name).or (corpus.resolve [source] name) := by
  unfold Registry.chain
  split
  · rename_i there
    have mem : source ∈ registry := by simpa using there
    cases found : corpus.resolve registry name with
    | some ref => rfl
    | none =>
      have none_seen := List.find?_eq_none.1 found
      refine (List.find?_eq_none.2 fun ref hr => none_seen ref ?_).symm
      rw [List.flatMap_singleton] at hr
      exact List.mem_flatMap.2 ⟨source, mem, hr⟩
  · simp [resolve, List.find?_append]

/-- A registry is another one behind an outer one. -/
def Behind (corpus : Corpus) (outer registry own : Registry) : Prop :=
  ∀ name, corpus.resolve registry name =
    (corpus.resolve outer name).or (corpus.resolve own name)

theorem Behind.chain (h : corpus.Behind outer registry own) (source : Nat) :
    corpus.Behind outer (registry.chain source) (own.chain source) := by
  intro name
  rw [resolve_chain, resolve_chain, h name, Option.or_assoc]

/-- A clear name means behind an outer registry what it means without it. -/
theorem Clear.resolve_eq {name : String} (h : corpus.Clear outer own name)
    (behind : corpus.Behind outer registry own) :
    corpus.resolve registry name = corpus.resolve own name := by
  rw [behind name]
  rcases h.1 with none | same
  · rw [none, Option.none_or]
  · rw [same, Option.or_self]

end Corpus

/-! ## Checks that ask the same -/

/-- The types of a demand are right inside the type that makes it. -/
theorem TypeExpr.mem_inner_of_mem_demands {type part : TypeExpr} {strict : Bool} {demand : Demand}
    (hd : demand ∈ (type.shape value strict).demands) (hp : part ∈ demand.types) :
    part ∈ type.inner := by
  cases type <;> simp only [shape, Shape.demands_ofBool, List.not_mem_nil] at hd
  case array text types =>
    split at hd
    · obtain ⟨_, _, rfl⟩ := List.mem_map.1 hd
      exact hp
    · cases hd
  case tuple text fields =>
    split at hd
    · obtain ⟨⟨field, place⟩, hm, rfl⟩ := List.mem_map.1 hd
      have hf := List.mem_of_getElem? (List.mem_zipIdx_iff_getElem?.1 hm)
      exact List.mem_flatMap.2 ⟨field, hf, hp⟩
    · cases hd
  case map text keys values =>
    split at hd
    · obtain ⟨entry, _, _, _, rfl | rfl⟩ := Demand.exists_of_mem_ofEntries hd
      · exact List.mem_append_left _ hp
      · exact List.mem_append_right _ hp
    · cases hd
  case object text fields =>
    split at hd
    · obtain ⟨field, hm, rfl⟩ := List.mem_map.1 hd
      exact List.mem_flatMap.2 ⟨field, hm, hp⟩
    · cases hd

theorem Tag.exists_of_mem_demands {tags : List Tag} {strict : Bool} {demand : Demand}
    (hd : demand ∈ (Tag.shape tags value strict).demands) :
    ∃ tag ∈ tags, demand.types = tag.types := by
  unfold shape at hd
  split at hd
  · obtain ⟨tag, hm, ht⟩ := List.mem_filterMap.1 hd
    unfold Demand.ofTag? at ht
    dsimp only at ht
    split at ht
    · cases ht
    · cases ht
      exact ⟨tag, hm, rfl⟩
  · cases hd

/-- An alternative that speaks of a name is one of those that are listed. -/
theorem TypeExpr.mem_of_mentions {types : List TypeExpr} {type : TypeExpr} {name : String}
    (mem : type ∈ alternatives types) (there : type.Mentions name) : type ∈ types := by
  unfold alternatives at mem
  split at mem
  · cases List.mem_singleton.1 mem
    cases there with
    | here self => cases self
    | inside part => cases part
  · exact mem

theorem target?_eq_of_clear (behind : corpus.Behind outer registry own) {type : TypeExpr}
    (clear : ∀ name, type.Mentions name → corpus.Clear outer own name) :
    corpus.target? registry type = corpus.target? own type := by
  unfold Corpus.target?
  cases hn : type.name? with
  | none => rfl
  | some name => exact (clear name (.here hn)).resolve_eq behind

variable [AddressTest]

theorem checkAll_congr {bound : Nat} {demands : List Demand}
    {below : ∀ demand ∈ demands, demand.value.rank < bound}
    (same : ∀ demand ∈ demands,
      checkDemand corpus registry path demand = checkDemand corpus own path demand) :
    checkAll corpus registry path bound demands below =
      checkAll corpus own path bound demands below := by
  induction demands with
  | nil => rw [checkAll, checkAll]
  | cons demand rest ih =>
    have first := same demand (by simp)
    unfold checkDemand at first
    rw [checkAll, checkAll, first]
    refine bind_congr fun outcome => ?_
    cases outcome with
    | some failure => rfl
    | none => exact ih fun other ho => same other (by simp [ho])

theorem checkType_congr {type : TypeExpr} {strict : Bool}
    (target : corpus.target? registry type = corpus.target? own type)
    (form : ∀ demand ∈ (type.shape value strict).demands,
      checkDemand corpus registry path demand = checkDemand corpus own path demand)
    (entered : ∀ ref block, corpus.target? own type = some ref → corpus.block? ref = some block →
      ref ∉ closed →
      checkBlock corpus (registry.chain ref.source) (ref :: closed) path block value
          (strict || block.strict) =
        checkBlock corpus (own.chain ref.source) (ref :: closed) path block value
          (strict || block.strict)) :
    checkType corpus registry closed path type value strict =
      checkType corpus own closed path type value strict := by
  rcases here : corpus.target? own type with _ | ref
  · rw [here] at target
    cases shape : type.shape value strict with
    | mismatch => rw [checkType_of_mismatch target shape, checkType_of_mismatch here shape]
    | members demands extra =>
      have below : ∀ demand ∈ demands, demand.value.rank < value.rank := fun demand hd =>
        TypeExpr.rank_lt_of_mem_demands (by rw [shape]; exact hd)
      rw [checkType_of_members target shape below, checkType_of_members here shape below,
        checkAll_congr fun demand hd => form demand (by rw [shape]; exact hd)]
  · rw [here] at target
    obtain ⟨-, block, -, -, found, -⟩ := Corpus.exists_block_of_target here
    by_cases mem : ref ∈ closed
    · rw [checkType_of_mem target found mem, checkType_of_mem here found mem]
    · rw [checkType_of_not_mem target found mem, checkType_of_not_mem here found mem,
        entered ref block here found mem]

theorem checkAny_congr {other : Corpus} {types : List TypeExpr} {filters : List Filter}
    {strict strict' : Bool} {first : Option Failure}
    (same : ∀ type ∈ types, checkType corpus registry closed path type value strict =
      checkType other own closed path type value strict') :
    checkAny corpus registry closed path types value filters strict first =
      checkAny other own closed path types value filters strict' first := by
  induction types generalizing first with
  | nil => rw [checkAny, checkAny]
  | cons type rest ih =>
    rw [checkAny, checkAny, same type (by simp)]
    refine bind_congr fun verdict => ?_
    split
    · rfl
    · exact ih fun other ho => same other (by simp [ho])

theorem check_congr {other : Corpus} {types : List TypeExpr} {filters : List Filter}
    {strict strict' : Bool}
    (same : ∀ type ∈ alternatives types, checkType corpus registry closed path type value strict =
      checkType other own closed path type value strict') :
    check corpus registry closed path types value filters strict =
      check other own closed path types value filters strict' := by
  rw [check, check, checkAny_congr same]

theorem checkBlock_congr {block : Block} {strict : Bool}
    (keys : block.elements.callback = none →
      ∀ demand ∈ (Tag.shape block.elements.property value strict).demands,
        checkDemand corpus registry path demand = checkDemand corpus own path demand)
    (synonym : block.elements.callback = none → block.elements.property = [] →
      ∀ tag, block.elements.typedef = some tag →
        check corpus registry closed path (block.elements.aliasTag tag).types value
            (block.elements.aliasTag tag).filters strict =
          check corpus own closed path (block.elements.aliasTag tag).types value
            (block.elements.aliasTag tag).filters strict) :
    checkBlock corpus registry closed path block value strict =
      checkBlock corpus own closed path block value strict := by
  rw [checkBlock, checkBlock]
  split
  · rfl
  · rename_i function
    have other : block.elements.callback = none := by simpa using function
    split
    · split
      · rfl
      · rename_i demands extra shape
        have spoken : (Tag.shape block.elements.property value strict).demands = demands := by
          rw [shape, Shape.demands]
        rw [checkAll_congr fun demand hd => keys other demand (by rw [spoken]; exact hd)]
    · rename_i described
      have bare : block.elements.property = [] := by simpa using described
      split
      · rfl
      · rename_i tag found
        dsimp only
        rw [synonym other bare tag found]

/-! ## Checks behind an outer registry -/

/-- A query speaks of a name. -/
def Query.Mentions (name : String) : Query → Prop
  | .types alts _ _ => ∃ alt ∈ alts, alt.Mentions name
  | .type alt _ => alt.Mentions name
  | .block named _ => named.Mentions name

/-- A check gives the same in two registries. -/
def Same (corpus : Corpus) (registry own : Registry) (closed : List BlockRef) (path : List Value)
    (value : Value) : Query → Prop
  | .types alts filters strict =>
    check corpus registry closed path alts value filters strict =
      check corpus own closed path alts value filters strict
  | .type alt strict => checkType corpus registry closed path alt value strict =
      checkType corpus own closed path alt value strict
  | .block named strict => checkBlock corpus registry closed path named value strict =
      checkBlock corpus own closed path named value strict

/-- A check of what no outer registry captures gives the same behind it. -/
theorem same_of_clear (behind : corpus.Behind outer registry own) (query : Query)
    (clear : ∀ name, query.Mentions name → corpus.Clear outer own name) :
    Same corpus registry own closed path value query := by
  induction registry, closed, path, value, query using Query.induction generalizing own with
  | types registry closed path value types filters strict ih =>
    refine check_congr fun type ht => ih type ht behind fun name there => ?_
    exact clear name ⟨type, TypeExpr.mem_of_mentions ht there, there⟩
  | type registry closed path value type strict ihMember ihBlock =>
    have target := target?_eq_of_clear behind clear
    refine checkType_congr target (fun demand hd => ?_) fun ref block here found fresh => ?_
    · refine ihMember demand hd behind ?_
      rintro name ⟨part, hp, there⟩
      exact clear name (.inside (TypeExpr.mem_inner_of_mem_demands hd hp) there)
    · obtain ⟨name, -, hname, resolved, -⟩ := Corpus.exists_block_of_target here
      have uncaptured := (clear name (.here hname)).2 ref resolved
      refine ihBlock ref block (target.trans here) found fresh (behind.chain ref.source) ?_
      intro inner there
      exact uncaptured.clear found there
  | block registry closed path value block strict ihMember ihTypes =>
    refine checkBlock_congr (fun other demand hd => ?_) fun other bare tag found => ?_
    · obtain ⟨tag, ht, htypes⟩ := Tag.exists_of_mem_demands hd
      refine ihMember demand hd behind ?_
      rintro name ⟨type, hm, there⟩
      exact clear name (.key other ht (htypes ▸ hm) there)
    · refine ihTypes tag found behind ?_
      rintro name ⟨type, ht, there⟩
      exact clear name (.synonym other bare found ht there)

/-- A check of a block that an outer registry does not capture gives the same behind it. -/
theorem checkBlock_eq_of_uncaptured (behind : corpus.Behind outer registry own) {ref : BlockRef}
    {block : Block} (found : corpus.block? ref = some block)
    (uncaptured : corpus.Uncaptured outer ⟨own, ref⟩) (strict : Bool) :
    checkBlock corpus registry closed path block value strict =
      checkBlock corpus own closed path block value strict :=
  same_of_clear behind (.block block strict) fun _ there => uncaptured.clear found there

end Docblock
