import Docblock.Proofs.Check.Scope

/-!
# What the guard against cycles lets through

A block that is being checked for a value is closed and refused when it is met again. `Grants` says
what the checker lets through with some blocks closed: it follows one alternative after the other,
from block to block, never into a closed one. Closing fewer blocks lets more through
(`Grants.mono`), but one block alone makes no difference to itself (`Grants.close`): a way that
comes back to a block could have been begun there, as long as its names still mean the same.

The rules are those of the meaning, with the closed blocks and the registry carried along, because
here names may mean different things on different ways. Members are not unfolded: a demand is met
when the checker says so, and with an empty list of closed blocks at that.

A way that comes back is cut out where it does. What is left is shorter and begins in the registry
of the first visit, and that is the point at which a captured name would change its meaning
(`Grants.of_clear`).
-/

namespace Docblock

variable {corpus : Corpus} {registry own outer : Registry} {closed : List BlockRef}
variable {path : List Value} {value : Value}

/-! ## Where the names of a query lead -/

/-- A query is asked about the same value through a name. -/
def Query.Equates (name : String) : Query → Prop
  | .types alts _ _ => ∃ alt ∈ alts, alt.name? = some name
  | .type alt _ => alt.name? = some name
  | .block named _ => named.Equates name

/-- The names that a query is asked through lead to a visit. -/
def Query.Reaches (corpus : Corpus) (registry : Registry) (query : Query) (visit : Visit) : Prop :=
  ∃ name ref, query.Equates name ∧ corpus.resolve registry name = some ref ∧
    Relation.ReflTransGen (corpus.Goes Block.Equates) ⟨registry.chain ref.source, ref⟩ visit

theorem Query.Reaches.of_equates {query inner : Query} {visit : Visit}
    (h : inner.Reaches corpus registry visit)
    (through : ∀ name, inner.Equates name → query.Equates name) :
    query.Reaches corpus registry visit := by
  obtain ⟨name, ref, equates, resolved, way⟩ := h
  exact ⟨name, ref, through name equates, resolved, way⟩

/-- A block that is met through a name is the next visit, and goes on from there. -/
theorem Query.Reaches.of_block {type : TypeExpr} {ref : BlockRef} {block : Block} {strict more : Bool}
    {visit : Visit} (target : corpus.target? registry type = some ref)
    (found : corpus.block? ref = some block)
    (h : (Query.block block more).Reaches corpus (registry.chain ref.source) visit) :
    (Query.type type strict).Reaches corpus registry visit := by
  obtain ⟨name, -, hname, resolved, -⟩ := Corpus.exists_block_of_target target
  obtain ⟨inner, next, equates, resolved', way⟩ := h
  exact ⟨name, ref, hname, resolved, .head ⟨block, inner, found, equates, resolved', rfl⟩ way⟩

/-- On the way registries only grow. -/
theorem Corpus.Goes.resolve_eq_none {speaks : Block → String → Prop} {visit last : Visit}
    (h : Relation.ReflTransGen (corpus.Goes speaks) visit last) {name : String}
    (unresolved : corpus.resolve last.registry name = none) :
    corpus.resolve visit.registry name = none := by
  induction h with
  | refl => exact unresolved
  | tail _ goes ih =>
    obtain ⟨-, -, -, -, -, grown⟩ := goes
    rw [grown, resolve_chain] at unresolved
    exact ih (Option.or_eq_none_iff.1 unresolved).1

/-! ## What is let through -/

variable [AddressTest]

/-- A demand of a value at a path is met. -/
def Demand.Met (corpus : Corpus) (registry : Registry) (path : List Value) (demand : Demand) :
    Prop :=
  checkDemand corpus registry path demand = .ok none

/-- The checker finds its way to a yes, with some blocks closed. -/
inductive Grants (corpus : Corpus) (path : List Value) (value : Value) :
    List BlockRef → Registry → Query → Prop
  | form {closed : List BlockRef} {registry : Registry} {type : TypeExpr} {strict : Bool}
      (fits : Fits corpus registry (Demand.Met corpus registry path) value type strict) :
      Grants corpus path value closed registry (.type type strict)
  | name {closed : List BlockRef} {registry : Registry} {type : TypeExpr} {strict : Bool}
      {ref : BlockRef} {block : Block} (target : corpus.target? registry type = some ref)
      (found : corpus.block? ref = some block) (fresh : ref ∉ closed)
      (inside : Grants corpus path value (ref :: closed) (registry.chain ref.source)
        (.block block (strict || block.strict))) :
      Grants corpus path value closed registry (.type type strict)
  | callback {closed : List BlockRef} {registry : Registry} {block : Block} {strict : Bool}
      (function : block.elements.callback.isSome = true) (callable : value.isCallable = true) :
      Grants corpus path value closed registry (.block block strict)
  | keys {closed : List BlockRef} {registry : Registry} {block : Block} {strict : Bool}
      (other : block.elements.callback = none) (described : block.elements.property ≠ [])
      (met : (Tag.shape block.elements.property value strict).Met
        (Demand.Met corpus registry path)) :
      Grants corpus path value closed registry (.block block strict)
  | synonym {closed : List BlockRef} {registry : Registry} {block : Block} {strict : Bool}
      {tag : Tag} (other : block.elements.callback = none) (bare : block.elements.property = [])
      (named : block.elements.typedef = some tag)
      (inside : Grants corpus path value closed registry
        (.types (block.elements.aliasTag tag).types (block.elements.aliasTag tag).filters
          strict)) :
      Grants corpus path value closed registry (.block block strict)
  | alternative {closed : List BlockRef} {registry : Registry} {types : List TypeExpr}
      {strict : Bool} {type : TypeExpr} (mem : type ∈ alternatives types)
      (inside : Grants corpus path value closed registry (.type type strict)) :
      Grants corpus path value closed registry (.types types [] strict)
  | first {closed : List BlockRef} {registry : Registry} {types before after : List TypeExpr}
      {filters : List Filter} {strict : Bool} {type : TypeExpr} (some : filters ≠ [])
      (split : alternatives types = before ++ type :: after)
      (others : ∀ other ∈ before,
        ¬Fits corpus registry (Demand.Met corpus registry path) value other strict)
      (inside : Grants corpus path value closed registry (.type type strict))
      (passes : type.Passes filters value) :
      Grants corpus path value closed registry (.types types filters strict)

/-! ## What is accepted was granted, and what is granted is not refused

Between the two lies what breaks off: a query that is granted may still break off at a number
before it has its answer. So grants are stated against refusals, and not against acceptance. -/

theorem MemberVerdict.eq_yes_iff_met {shape : Shape} {verdict : Verdict}
    (h : MemberVerdict corpus registry path shape verdict) :
    verdict = .yes ↔ shape.Met (Demand.Met corpus registry path) := by
  cases h with
  | mismatch => simp [Shape.Met]
  | met all => exact ⟨fun _ => ⟨all, rfl⟩, fun _ => rfl⟩
  | excess all more =>
    constructor
    · intro yes
      cases yes
    · intro hmet
      exact absurd (Except.ok.inj hmet.2) more
  | failed mem one =>
    constructor
    · intro yes
      cases yes
    · intro hmet
      cases one.symm.trans (hmet.1 _ mem)

theorem TypeVerdict.eq_yes_iff_fits_met {type : TypeExpr} {strict : Bool} {verdict : Verdict}
    (h : TypeVerdict corpus registry closed path type value strict verdict)
    (target : corpus.target? registry type = none) :
    verdict = .yes ↔ Fits corpus registry (Demand.Met corpus registry path) value type strict := by
  cases h with
  | form _ members =>
    rw [members.eq_yes_iff_met]
    exact ⟨fun hmet => ⟨target, hmet⟩, fun hfits => hfits.2⟩
  | again other => exact nomatch target.symm.trans other
  | entered other => exact nomatch target.symm.trans other

theorem grants_of_accepted (blocks : ∀ ref block, corpus.block? ref = some block → block.Filtered)
    (query : Query) (filtered : query.Filtered)
    (h : Accepted corpus registry closed path value query) :
    Grants corpus path value closed registry query := by
  induction registry, closed, path, value, query using Query.induction with
  | types registry closed path value types filters strict ih =>
    cases check_cases h with
    | @first before after type _ split others matched passed =>
      have mem : type ∈ alternatives types := by rw [split]; simp
      have inside := ih type mem (filtered_alternatives filtered.2 type mem) matched
      by_cases some : filters = []
      · subst some
        exact .alternative mem inside
      · refine .first some split (fun other ho hfits => ?_) inside
          (filterFailure?_eq_none.1 passed)
        obtain ⟨verdict, checked, hne⟩ := others other ho
        exact hne (((checkType_cases checked).eq_yes_iff_fits_met hfits.1).2 hfits)
  | type registry closed path value type strict _ ihBlock =>
    rcases htarget : corpus.target? registry type with _ | ref
    · exact .form (((checkType_cases h).eq_yes_iff_fits_met htarget).1 rfl)
    · cases checkType_cases h with
      | form target => exact nomatch target.symm.trans htarget
      | @entered ref block _ target found fresh inside =>
        exact .name target found fresh
          (ihBlock ref block target found fresh (blocks ref block found) inside)
  | block registry closed path value block strict _ ihTypes =>
    obtain ⟨verdict, hv, checked⟩ : ∃ verdict, Verdict.yes = verdict ∧
        checkBlock corpus registry closed path block value strict = .ok verdict := ⟨_, rfl, h⟩
    cases checkBlock_cases checked with
    | callback function =>
      split at hv
      · exact .callback function (by assumption)
      · cases hv
    | keys other described members =>
      exact .keys other described (members.eq_yes_iff_met.1 hv.symm)
    | @synonym tag outcome other bare named inside =>
      have hf := Block.Filtered.aliasTag filtered named
      cases outcome with
      | some failure => cases hv
      | none => exact .synonym other bare named (ihTypes tag named ⟨hf.allowed, hf.types⟩ inside)

theorem Grants.not_refused (blocks : ∀ ref block, corpus.block? ref = some block → block.Filtered)
    {query : Query} (h : Grants corpus path value closed registry query)
    (filtered : query.Filtered) : ¬Refused corpus registry closed path value query := by
  induction h with
  | form fits =>
    rintro ⟨verdict, checked, refused⟩
    exact refused (((checkType_cases checked).eq_yes_iff_fits_met fits.1).2 fits)
  | @name closed registry type strict ref block target found fresh inside ih =>
    rintro ⟨verdict, checked, refused⟩
    cases checkType_cases checked with
    | form other => exact nomatch other.symm.trans target
    | again target' found' mem =>
      cases target.symm.trans target'
      exact fresh mem
    | entered target' found' _ entered =>
      cases target.symm.trans target'
      cases found.symm.trans found'
      exact ih (blocks ref block found) ⟨verdict, entered, refused⟩
  | callback function callable =>
    rintro ⟨verdict, checked, refused⟩
    cases checkBlock_cases checked with
    | callback => exact refused (if_pos callable)
    | keys other => exact nomatch other ▸ function
    | synonym other => exact nomatch other ▸ function
  | keys other described met =>
    rintro ⟨verdict, checked, refused⟩
    cases checkBlock_cases checked with
    | callback function => exact nomatch other ▸ function
    | keys _ _ members => exact refused (members.eq_yes_iff_met.2 met)
    | synonym _ bare => exact described bare
  | @synonym closed registry block strict tag other bare named inside ih =>
    rintro ⟨verdict, checked, refused⟩
    cases checkBlock_cases checked with
    | callback function => exact nomatch other ▸ function
    | keys _ described => exact described bare
    | @synonym tag' outcome _ _ named' checked =>
      cases named.symm.trans named'
      have haf := Block.Filtered.aliasTag filtered named
      cases outcome with
      | none => exact refused rfl
      | some failure => exact ih ⟨haf.allowed, haf.types⟩ ⟨failure, checked⟩
  -- Without filters the alternative that lets the value through need not be the first one.
  | @alternative closed registry types strict type mem inside ih =>
    rintro ⟨failure, checked⟩
    have accepted := ih (filtered_alternatives filtered.2 type mem)
    cases check_cases checked with
    | first _ _ _ failed =>
      rw [filterFailure?_eq_none.2 (TypeExpr.passes_nil _)] at failed
      cases failed
    | none _ others => exact accepted (others type mem)
  | @first closed registry types before after filters strict type some split others inside passes ih =>
    rintro ⟨failure, checked⟩
    have mem : type ∈ alternatives types := by rw [split]; simp
    have accepted := ih (filtered_alternatives filtered.2 type mem)
    cases check_cases checked with
    | none _ refused => exact accepted (refused type mem)
    | @first before' after' type' _ split' refused matched failed =>
      -- The checker stopped at some alternative: at this one, at an earlier one or at a later one.
      rcases cut_cases (split.symm.trans split') with ⟨-, rfl⟩ | earlier | later
      · rw [filterFailure?_eq_none.2 passes] at failed
        cases failed
      · have mem' : type' ∈ alternatives types := by rw [split]; simp [earlier]
        exact others type' earlier (((checkType_cases matched).eq_yes_iff_fits_met
          (filtered.1.target?_eq_none some mem')).1 rfl)
      · exact accepted (refused type later)

/-! ## Fewer blocks closed, less strictness, an outer registry -/

/-- Closing fewer blocks lets more through. -/
theorem Grants.mono {query : Query} (h : Grants corpus path value closed registry query)
    {fewer : List BlockRef} (sub : ∀ ref ∈ fewer, ref ∈ closed) :
    Grants corpus path value fewer registry query := by
  induction h generalizing fewer with
  | form fits => exact .form fits
  | @name closed registry type strict ref block target found fresh inside ih =>
    refine .name target found (fun mem => fresh (sub ref mem)) (ih fun other ho => ?_)
    rcases List.mem_cons.1 ho with rfl | ho
    · exact List.mem_cons_self
    · exact List.mem_cons_of_mem _ (sub other ho)
  | callback function callable => exact .callback function callable
  | keys other described met => exact .keys other described met
  | synonym other bare named inside ih => exact .synonym other bare named (ih sub)
  | alternative mem inside ih => exact .alternative mem (ih sub)
  | first some split others inside passes ih => exact .first some split others (ih sub) passes

/-- What is let through where undeclared keys are refused is let through where they are not. -/
theorem Grants.of_strict (blocks : ∀ ref block, corpus.block? ref = some block → block.Filtered)
    {query : Query} (h : Grants corpus path value closed registry query)
    (filtered : query.Filtered) (refuses : query.strict = true) (strict : Bool) :
    Grants corpus path value closed registry (query.withStrict strict) := by
  induction h generalizing strict with
  | form fits =>
    cases refuses
    exact .form ⟨fits.1, TypeExpr.met_of_strict fits.2 strict⟩
  | @name closed registry type more ref block target found fresh inside ih =>
    cases refuses
    exact .name target found fresh (ih (blocks ref block found) rfl (strict || block.strict))
  | callback function callable => exact .callback function callable
  | keys other described met =>
    cases refuses
    exact .keys other described (Tag.met_of_strict met strict)
  | synonym other bare named inside ih =>
    have hf := Block.Filtered.aliasTag filtered named
    exact .synonym other bare named (ih ⟨hf.allowed, hf.types⟩ refuses strict)
  | @alternative closed registry types more type mem inside ih =>
    exact .alternative mem (ih (filtered_alternatives filtered.2 type mem) refuses strict)
  | @first closed registry types before after filters more type some split others inside passes ih =>
    have mem : type ∈ alternatives types := by rw [split]; simp
    refine .first some split (fun other ho hfits => others other ho ⟨hfits.1, ?_⟩)
      (ih (filtered_alternatives filtered.2 type mem) refuses strict) passes
    rw [filtered.1.shape_eq some (by rw [split]; simp [ho]) more strict]
    exact hfits.2

theorem Demand.met_iff_of_clear (behind : corpus.Behind outer registry own) {demand : Demand}
    (clear : ∀ type ∈ demand.types, ∀ name, type.Mentions name → corpus.Clear outer own name) :
    demand.Met corpus registry path ↔ demand.Met corpus own path := by
  have same : Same corpus registry own [] (path ++ demand.steps) demand.value
      (.types demand.types demand.filters false) :=
    same_of_clear behind _ fun name ⟨type, ht, there⟩ => clear type ht name there
  unfold Demand.Met checkDemand
  rw [show check corpus registry [] (path ++ demand.steps) demand.types demand.value
    demand.filters false = _ from same]

theorem fits_iff_of_clear (behind : corpus.Behind outer registry own) {type : TypeExpr}
    {strict : Bool} (clear : ∀ name, type.Mentions name → corpus.Clear outer own name) :
    Fits corpus registry (Demand.Met corpus registry path) value type strict ↔
      Fits corpus own (Demand.Met corpus own path) value type strict := by
  have demands : ∀ demand ∈ (type.shape value strict).demands,
      (demand.Met corpus registry path ↔ demand.Met corpus own path) := fun demand hd =>
    Demand.met_iff_of_clear behind fun part hp name there =>
      clear name (.inside (TypeExpr.mem_inner_of_mem_demands hd hp) there)
  unfold Fits
  rw [target?_eq_of_clear behind clear]
  exact and_congr_right fun _ => ⟨fun h => h.congr fun demand hd => (demands demand hd).1,
    fun h => h.congr fun demand hd => (demands demand hd).2⟩

/-- What is let through behind an outer registry that captures nothing is let through without
it. -/
theorem Grants.of_clear {query : Query} (h : Grants corpus path value closed registry query)
    (behind : corpus.Behind outer registry own)
    (clear : ∀ name, query.Mentions name → corpus.Clear outer own name) :
    Grants corpus path value closed own query := by
  induction h generalizing own with
  | form fits => exact .form ((fits_iff_of_clear behind clear).1 fits)
  | @name closed registry type strict ref block target found fresh inside ih =>
    rw [target?_eq_of_clear behind clear] at target
    obtain ⟨name, -, hname, resolved, -⟩ := Corpus.exists_block_of_target target
    have uncaptured := (clear name (.here hname)).2 ref resolved
    exact .name target found fresh
      (ih (behind.chain ref.source) fun inner there => uncaptured.clear found there)
  | callback function callable => exact .callback function callable
  | @keys closed registry block strict other described met =>
    refine .keys other described (met.congr fun demand hd => ?_)
    obtain ⟨tag, ht, htypes⟩ := Tag.exists_of_mem_demands hd
    exact (Demand.met_iff_of_clear behind fun type hm name there =>
      clear name (.key other ht (htypes ▸ hm) there)).1
  | synonym other bare named inside ih =>
    refine .synonym other bare named (ih behind ?_)
    rintro name ⟨type, ht, there⟩
    exact clear name (.synonym other bare named ht there)
  | @alternative closed registry types strict type mem inside ih =>
    exact .alternative mem (ih behind fun name there =>
      clear name ⟨type, TypeExpr.mem_of_mentions mem there, there⟩)
  | @first closed registry types before after filters strict type some split others inside passes ih =>
    have clear_type : ∀ other ∈ alternatives types, ∀ name, other.Mentions name →
        corpus.Clear outer own name := fun other mem name there =>
      clear name ⟨other, TypeExpr.mem_of_mentions mem there, there⟩
    refine .first some split (fun other ho hfits => others other ho ?_)
      (ih behind (clear_type type (by rw [split]; simp))) passes
    exact (fits_iff_of_clear behind (clear_type other (by rw [split]; simp [ho]))).2 hfits

/-! ## Closing one block -/

/-- When one more block is closed, what was let through still is, unless it was let through by way of
that block. -/
theorem Grants.cut {query : Query} (h : Grants corpus path value closed registry query)
    {ref : BlockRef} {block : Block} (found : corpus.block? ref = some block)
    {more : List BlockRef} (sub : ∀ other ∈ more, other ∈ closed ∨ other = ref) :
    Grants corpus path value more registry query ∨
      ∃ shut again strict, ref ∈ shut ∧ (query.strict = true → strict = true) ∧
        query.Reaches corpus registry ⟨again, ref⟩ ∧
        Grants corpus path value shut again (.block block strict) := by
  induction h generalizing more with
  | form fits => exact .inl (.form fits)
  | @name closed registry type strict met inner target found' fresh inside ih =>
    by_cases same : met = ref
    · -- The block itself is met, and the way goes on from there.
      subst same
      cases found.symm.trans found'
      obtain ⟨name, -, hname, resolved, -⟩ := Corpus.exists_block_of_target target
      refine .inr ⟨_, _, _, List.mem_cons_self, fun hs => ?_, ⟨name, met, hname, resolved, .refl⟩, inside⟩
      rw [show strict = true from hs, Bool.true_or]
    · have sub' : ∀ other ∈ met :: more, other ∈ met :: closed ∨ other = ref := by
        intro other ho
        rcases List.mem_cons.1 ho with rfl | ho
        · exact .inl List.mem_cons_self
        · exact (sub other ho).imp_left (List.mem_cons_of_mem _)
      rcases ih sub' with granted | ⟨shut, again, most, mem, le, reaches, inside'⟩
      · exact .inl (.name target found' (fun ho => (sub met ho).elim fresh same) granted)
      · refine .inr ⟨shut, again, most, mem, fun hs => le ?_, reaches.of_block target found', inside'⟩
        rw [show strict = true from hs, Bool.true_or]
        rfl
  | callback function callable => exact .inl (.callback function callable)
  | keys other described met => exact .inl (.keys other described met)
  | synonym other bare named inside ih =>
    rcases ih sub with granted | ⟨shut, again, most, mem, le, reaches, inside'⟩
    · exact .inl (.synonym other bare named granted)
    · exact .inr ⟨shut, again, most, mem, le,
        reaches.of_equates fun name equates => ⟨other, bare, _, named, equates⟩, inside'⟩
  | @alternative closed registry types strict type mem inside ih =>
    rcases ih sub with granted | ⟨shut, again, most, mem', le, reaches, inside'⟩
    · exact .inl (.alternative mem granted)
    · refine .inr ⟨shut, again, most, mem', le, reaches.of_equates fun name equates => ?_, inside'⟩
      exact ⟨type, TypeExpr.mem_of_mentions mem (.here equates), equates⟩
  | @first closed registry types before after filters strict type some split others inside passes ih =>
    rcases ih sub with granted | ⟨shut, again, most, mem', le, reaches, inside'⟩
    · exact .inl (.first some split others granted passes)
    · refine .inr ⟨shut, again, most, mem', le, reaches.of_equates fun name equates => ?_, inside'⟩
      have mem : type ∈ alternatives types := by rw [split]; simp
      exact ⟨type, TypeExpr.mem_of_mentions mem (.here equates), equates⟩

/-- Closing a block makes no difference to a check of it, when the names that it leads to are
captured by no registry with which it is met again for the same value. -/
theorem Grants.close (blocks : ∀ ref block, corpus.block? ref = some block → block.Filtered)
    {ref : BlockRef} {block : Block} {strict : Bool} (found : corpus.block? ref = some block)
    (uncaptured : ∀ again,
      Relation.TransGen (corpus.Goes Block.Equates) (.alone ref) ⟨again, ref⟩ →
      corpus.Uncaptured again (.alone ref))
    (h : Grants corpus path value [] [ref.source] (.block block strict)) :
    Grants corpus path value [ref] [ref.source] (.block block strict) := by
  have sub : ∀ other ∈ [ref], other ∈ [] ∨ other = ref :=
    fun other ho => .inr (List.mem_singleton.1 ho)
  rcases h.cut found sub with
    granted | ⟨shut, again, most, mem, le, ⟨name, next, equates, resolved, way⟩, inside⟩
  · exact granted
  · -- The rest of the way could have been taken at once.
    have goes : corpus.Goes Block.Equates (.alone ref) ⟨Registry.chain [ref.source] next.source, next⟩ :=
      ⟨block, name, found, equates, resolved, rfl⟩
    have clear := uncaptured again (.head' goes way)
    have behind : corpus.Behind again again [ref.source] := by
      intro name
      cases there : corpus.resolve again name with
      | some _ => rfl
      | none => exact (Corpus.Goes.resolve_eq_none (.head goes way) there).symm
    have rest := (inside.of_clear behind fun name there => clear.clear found there).mono
      fun other ho => (List.mem_singleton.1 ho) ▸ mem
    by_cases same : most = strict
    · exact same ▸ rest
    · have refuses : most = true := by
        cases strict with
        | true => exact le rfl
        | false => simpa using same
      exact rest.of_strict blocks (blocks ref block found) refuses strict

end Docblock
