import Docblock.Proofs.Block.Filtered
import Docblock.Proofs.Check.Meaning
import Mathlib.Data.Nat.Find

/-!
# The checker answers as the meaning says

A check that gives a result gives the one that `Accepts` demands (`answer_iff`), where the names of
a registry are resolved in it wherever they stand and all filters are allowed. The proof goes by the
rank of the value, so that members are done with, and then in two halves. What the checker accepts
holds, rule by rule (`admits_of_accepted`). What holds is not refused (`not_refused_of_stage`): the
guard refuses a block only where it was entered before for the same value, and the shortest
derivation of a block never comes back to it. It could come back with undeclared keys refused where
they were not before, but refusing keys only takes values away (`Stage.of_strict`).

The second half is not an induction along the checker. The checker with a block closed is another
function than the one without, and the rules know nothing of closed blocks. The induction is on the
number of rules that a query follows by, and what is closed is only asked not to follow by fewer
(`Guarded`).

A check that breaks off gives no result, and nothing is said of it here. Where it does is told
apart.
-/

namespace Docblock

variable {corpus : Corpus} {registry : Registry} {closed : List BlockRef} {path : List Value}
variable {value : Value}

/-! ## Queries with allowed filters -/

/-- A demand with allowed filters. -/
structure Demand.Filtered (demand : Demand) : Prop where
  allowed : Allowed demand.types demand.filters
  types : ∀ type ∈ demand.types, type.Filtered

/-- A query in which all filters are allowed. -/
def Query.Filtered : Query → Prop
  | .types alts filters _ => Allowed alts filters ∧ ∀ alt ∈ alts, alt.Filtered
  | .type alt _ => alt.Filtered
  | .block named _ => named.Filtered

/-- A registry in which the names of every block that it leads to are resolved, and a corpus whose
blocks have allowed filters. -/
structure Settled (corpus : Corpus) (registry : Registry) : Prop where
  chain : ∀ name ref, corpus.resolve registry name = some ref →
    registry.chain ref.source = registry
  filtered : ∀ ref block, corpus.block? ref = some block → block.Filtered

theorem TypeExpr.filtered_of_mem_demands {type : TypeExpr} {strict : Bool} {demand : Demand}
    (h : type.Filtered) (hd : demand ∈ (type.shape value strict).demands) : demand.Filtered := by
  cases type <;> simp only [shape, Shape.demands_ofBool, List.not_mem_nil] at hd
  case array text types =>
    split at hd
    · obtain ⟨_, _, rfl⟩ := List.mem_map.1 hd
      exact ⟨.inl rfl, fun part hp => h.inner hp⟩
    · cases hd
  case tuple text fields =>
    split at hd
    · obtain ⟨⟨field, place⟩, hm, rfl⟩ := List.mem_map.1 hd
      have hf := h.field (List.mem_of_getElem? (List.mem_zipIdx_iff_getElem?.1 hm))
      exact ⟨hf.allowed, hf.types⟩
    · cases hd
  case map text keys values =>
    split at hd
    · obtain ⟨entry, _, _, _, rfl | rfl⟩ := Demand.exists_of_mem_ofEntries hd
      · exact ⟨.inl rfl, fun part hp => h.inner (List.mem_append.2 (.inl hp))⟩
      · exact ⟨.inl rfl, fun part hp => h.inner (List.mem_append.2 (.inr hp))⟩
    · cases hd
  case object text fields =>
    split at hd
    · obtain ⟨field, hm, rfl⟩ := List.mem_map.1 hd
      have hf := h.field hm
      exact ⟨hf.allowed, hf.types⟩
    · cases hd

theorem Tag.filtered_of_mem_demands {tags : List Tag} {strict : Bool} {demand : Demand}
    (h : ∀ tag ∈ tags, tag.Filtered) (hd : demand ∈ (Tag.shape tags value strict).demands) :
    demand.Filtered := by
  unfold shape at hd
  split at hd
  · obtain ⟨tag, hm, ht⟩ := List.mem_filterMap.1 hd
    unfold Demand.ofTag? at ht
    dsimp only at ht
    split at ht
    · cases ht
    · cases ht
      exact ⟨(h tag hm).allowed, (h tag hm).types⟩
  · cases hd

theorem filtered_alternatives {types : List TypeExpr} (h : ∀ type ∈ types, type.Filtered) :
    ∀ type ∈ alternatives types, type.Filtered := by
  unfold alternatives
  split
  · exact TypeExpr.filtered_singleton (TypeExpr.filtered_of_inner_eq_nil rfl rfl)
  · exact h

theorem Block.Filtered.property {block : Block} (h : block.Filtered) :
    ∀ tag ∈ block.elements.property, tag.Filtered := by
  intro tag ht
  exact h tag (by simp [Elements.tags, ht])

theorem Block.Filtered.aliasTag {block : Block} {tag : Tag} (h : block.Filtered)
    (ht : block.elements.typedef = some tag) : (block.elements.aliasTag tag).Filtered := by
  have typedef : tag.Filtered := h tag (by simp [Elements.tags, ht])
  unfold Elements.aliasTag
  split
  · cases hty : block.elements.type with
    | none => exact typedef
    | some other => exact h other (by simp [Elements.tags, hty])
  · exact typedef

/-! ## Strictness beside filters, and in general -/

/-- Beside filters no alternative is the name of a block. -/
theorem Allowed.target?_eq_none {types : List TypeExpr} {filters : List Filter}
    (h : Allowed types filters) (hf : filters ≠ []) {type : TypeExpr}
    (ht : type ∈ alternatives types) : corpus.target? registry type = none := by
  have hname : type.name? = none := by
    unfold alternatives at ht
    split at ht
    · cases List.mem_singleton.1 ht
      rfl
    · exact h.name?_eq_none hf ht
  rw [Corpus.target?, hname]
  rfl

/-- Beside filters no alternative asks for undeclared keys. -/
theorem Allowed.shape_eq {types : List TypeExpr} {filters : List Filter}
    (h : Allowed types filters) (hf : filters ≠ []) {type : TypeExpr}
    (ht : type ∈ alternatives types) (strict strict' : Bool) :
    type.shape value strict = type.shape value strict' := by
  unfold alternatives at ht
  split at ht
  · cases List.mem_singleton.1 ht
    rfl
  · rcases h.resolve_left hf type ht with hn | ⟨category, hc, -⟩
    · cases type <;> first | rfl | exact absurd hn (by simp [TypeExpr.isNullish])
    · cases type <;> first | rfl | exact absurd hc (by simp [TypeExpr.category?])

theorem TypeExpr.met_of_strict {type : TypeExpr} {meets : Demand → Prop}
    (h : (type.shape value true).Met meets) (strict : Bool) :
    (type.shape value strict).Met meets := by
  cases type <;> try exact h
  case object text fields =>
    rw [shape] at h ⊢
    split at h
    · rename_i ho
      rw [if_pos ho]
      cases strict
      · exact ⟨h.1, rfl⟩
      · exact h
    · exact h.elim

theorem Tag.met_of_strict {tags : List Tag} {meets : Demand → Prop}
    (h : (Tag.shape tags value true).Met meets) (strict : Bool) :
    (Tag.shape tags value strict).Met meets := by
  rw [Tag.shape] at h ⊢
  split at h
  · rename_i ho
    rw [if_pos ho]
    cases strict
    · exact ⟨h.1, rfl⟩
    · exact h
  · exact h.elim

/-- Two ways to cut a list at an item: at one place, or the one before the other. -/
theorem cut_cases {α : Type} {as bs cs ds : List α} {a b : α}
    (h : as ++ a :: bs = cs ++ b :: ds) : (as = cs ∧ a = b) ∨ b ∈ as ∨ a ∈ cs := by
  rcases List.append_eq_append_iff.1 h with ⟨es, rfl, he⟩ | ⟨es, rfl, he⟩
  · cases es with
    | nil =>
      cases he
      exact .inl ⟨(List.append_nil as).symm, rfl⟩
    | cons e es =>
      cases he
      exact .inr (.inr (by simp))
  · cases es with
    | nil =>
      cases he
      exact .inl ⟨List.append_nil cs, rfl⟩
    | cons e es =>
      cases he
      exact .inr (.inl (by simp))

variable [AddressTest]

/-- The same query with another strictness. -/
def Query.withStrict (strict : Bool) : Query → Query
  | .types alts filters _ => .types alts filters strict
  | .type alt _ => .type alt strict
  | .block named _ => .block named strict

/-- Refusing undeclared keys only takes values away, and needs no shorter derivations. -/
theorem Stage.of_strict (settled : Settled corpus registry) {meets : Demand → Prop} :
    ∀ (n : Nat) (query : Query), query.Filtered →
      Stage corpus registry meets value n (query.withStrict true) → ∀ strict,
      Stage corpus registry meets value n (query.withStrict strict) := by
  intro n
  induction n with
  | zero => exact fun _ _ h => h.elim
  | succ n ih =>
    intro query hq h strict
    cases query with
    | type type _ =>
      cases h with
      | form fits => exact .form ⟨fits.1, TypeExpr.met_of_strict fits.2 strict⟩
      | @name _ _ ref block target found inside =>
        rw [Bool.true_or] at inside
        exact .name target found
          (ih (.block block true) (settled.filtered ref block found) inside _)
    | block block _ =>
      cases h with
      | callback function callable => exact .callback function callable
      | keys other described met => exact .keys other described (Tag.met_of_strict met strict)
      | synonym other bare named inside =>
        have hf := Block.Filtered.aliasTag hq named
        exact .synonym other bare named
          (ih (.types _ _ true) ⟨hf.allowed, hf.types⟩ inside strict)
    | types types filters _ =>
      cases h with
      | @alternative _ _ type mem inside =>
        exact .alternative mem
          (ih (.type type true) (filtered_alternatives hq.2 type mem) inside strict)
      | @first _ before after _ _ type some split others inside passes =>
        have mem : type ∈ alternatives types := by rw [split]; simp
        refine .first some split (fun other ho hfits => others other ho ⟨hfits.1, ?_⟩)
          (ih (.type type true) (filtered_alternatives hq.2 type mem) inside strict) passes
        -- No alternative beside filters declares keys, so strictness does not change its shape.
        rw [hq.1.shape_eq some (by rw [split]; simp [ho]) true strict]
        exact hfits.2

/-! ## Members and filters -/

theorem filterFailure?_eq_none {type : TypeExpr} {filters : List Filter} :
    filterFailure? type filters value path = .ok none ↔ type.Passes filters value := by
  unfold filterFailure? TypeExpr.Passes
  cases hc : type.category? with
  | none => simp
  | some category =>
    constructor
    · intro h other ho
      cases ho
      obtain ⟨fault, hf, h⟩ := bind_eq_ok.1 h
      rw [pure_eq_ok] at h
      rw [hf, Option.map_eq_none_iff.1 h]
    · intro h
      exact bind_eq_ok.2 ⟨none, h category rfl, rfl⟩

theorem TypeExpr.passes_nil (type : TypeExpr) : type.Passes [] value := fun _ _ => rfl

/-- The checker answers demands on members as their meaning says. -/
def Agrees (corpus : Corpus) (registry : Registry) (value : Value) : Prop :=
  ∀ demand : Demand, demand.value.rank < value.rank → demand.Filtered → ∀ path outcome,
    checkDemand corpus registry path demand = .ok outcome →
      (outcome = none ↔ Meets corpus registry demand)

theorem MemberVerdict.eq_yes_iff {shape : Shape} {verdict : Verdict}
    (h : MemberVerdict corpus registry path shape verdict) (agrees : Agrees corpus registry value)
    (below : ∀ demand ∈ shape.demands, demand.value.rank < value.rank)
    (filtered : ∀ demand ∈ shape.demands, demand.Filtered) :
    verdict = .yes ↔ shape.Met (Meets corpus registry) := by
  have settled : ∀ demand ∈ shape.demands, ∀ outcome,
      checkDemand corpus registry path demand = .ok outcome →
        (outcome = none ↔ Meets corpus registry demand) :=
    fun demand hd => agrees demand (below demand hd) (filtered demand hd) path
  cases h with
  | mismatch => simp [Shape.Met]
  | met all =>
    exact ⟨fun _ => ⟨fun demand hd => (settled demand hd _ (all demand hd)).1 rfl, rfl⟩,
      fun _ => rfl⟩
  | excess all more =>
    constructor
    · intro same
      cases same
    · intro hmet
      exact absurd (Except.ok.inj hmet.2) more
  | failed mem one =>
    constructor
    · intro same
      cases same
    · intro hmet
      cases (settled _ mem _ one).2 (hmet.1 _ mem)

theorem TypeVerdict.eq_yes_iff_fits {type : TypeExpr} {strict : Bool} {verdict : Verdict}
    (h : TypeVerdict corpus registry closed path type value strict verdict)
    (target : corpus.target? registry type = none) (agrees : Agrees corpus registry value)
    (filtered : type.Filtered) :
    verdict = .yes ↔ Fits corpus registry (Meets corpus registry) value type strict := by
  cases h with
  | form _ members =>
    rw [members.eq_yes_iff agrees (fun _ hd => TypeExpr.rank_lt_of_mem_demands hd)
      (fun _ hd => TypeExpr.filtered_of_mem_demands filtered hd)]
    exact ⟨fun hmet => ⟨target, hmet⟩, fun hfits => hfits.2⟩
  | again other => exact nomatch target.symm.trans other
  | entered other => exact nomatch target.symm.trans other

/-! ## Answers -/

/-- What the checker answers to a query. -/
def Query.verdict (corpus : Corpus) (registry : Registry) (closed : List BlockRef)
    (path : List Value) (value : Value) : Query → Except Fault Verdict
  | .types alts filters strict =>
    (check corpus registry closed path alts value filters strict).map .ofFailure
  | .type alt strict => checkType corpus registry closed path alt value strict
  | .block named strict => checkBlock corpus registry closed path named value strict

theorem Query.verdict_types_eq_failed {types : List TypeExpr} {filters : List Filter}
    {strict : Bool} {failure : Failure} :
    (Query.types types filters strict).verdict corpus registry closed path value =
        .ok (.failed failure) ↔
      check corpus registry closed path types value filters strict = .ok (some failure) := by
  rw [verdict]
  rcases check corpus registry closed path types value filters strict with fault | _ | told
  · constructor <;> intro h <;> cases h
  · constructor <;> intro h <;> cases h
  · constructor <;> intro h <;> cases h <;> rfl

/-! ## What is accepted holds -/

/-- The checker says yes. -/
def Accepted (corpus : Corpus) (registry : Registry) (closed : List BlockRef) (path : List Value)
    (value : Value) : Query → Prop
  | .types alts filters strict =>
    check corpus registry closed path alts value filters strict = .ok none
  | .type alt strict => checkType corpus registry closed path alt value strict = .ok .yes
  | .block named strict => checkBlock corpus registry closed path named value strict = .ok .yes

/-- The checker says no. -/
def Refused (corpus : Corpus) (registry : Registry) (closed : List BlockRef) (path : List Value)
    (value : Value) : Query → Prop
  | .types alts filters strict => ∃ failure,
    check corpus registry closed path alts value filters strict = .ok (some failure)
  | .type alt strict => ∃ verdict,
    checkType corpus registry closed path alt value strict = .ok verdict ∧ verdict ≠ .yes
  | .block named strict => ∃ verdict,
    checkBlock corpus registry closed path named value strict = .ok verdict ∧ verdict ≠ .yes

/-- An alternative that is refused beside filters does not fit. -/
theorem not_fits_of_refused {types : List TypeExpr} {filters : List Filter} {type : TypeExpr}
    {strict : Bool} (agrees : Agrees corpus registry value) (allowed : Allowed types filters)
    (filtered : ∀ type ∈ types, type.Filtered) (some : filters ≠ [])
    (mem : type ∈ alternatives types)
    (refused : Refused corpus registry closed path value (.type type strict)) :
    ¬Fits corpus registry (Meets corpus registry) value type strict := by
  obtain ⟨verdict, checked, hne⟩ := refused
  have target : corpus.target? registry type = none := allowed.target?_eq_none some mem
  rwa [← (checkType_cases checked).eq_yes_iff_fits target agrees
    (filtered_alternatives filtered type mem)]

/-- What the checker accepts holds, where it agrees with the rules about all members. A name keeps
the registry, since names are settled in it. -/
theorem admits_of_accepted (settled : Settled corpus registry)
    (agrees : Agrees corpus registry value) (query : Query) (filtered : query.Filtered)
    (h : Accepted corpus registry closed path value query) :
    Admits corpus registry (Meets corpus registry) value query := by
  induction registry, closed, path, value, query using Query.induction with
  | types registry closed path value types filters strict ih =>
    cases check_cases h with
    | @first before after type _ split others matched passed =>
      have mem : type ∈ alternatives types := by rw [split]; simp
      have inside := ih type mem settled agrees (filtered_alternatives filtered.2 type mem) matched
      by_cases some : filters = []
      · subst some
        exact .of_justified (.alternative mem inside)
      · refine .of_justified (.first some split (fun other ho => ?_) inside
          (filterFailure?_eq_none.1 passed))
        exact not_fits_of_refused agrees filtered.1 filtered.2 some (by rw [split]; simp [ho])
          (others other ho)
  | type registry closed path value type strict _ ihBlock =>
    rcases htarget : corpus.target? registry type with _ | ref
    · exact .of_justified
        (.form (((checkType_cases h).eq_yes_iff_fits htarget agrees filtered).1 rfl))
    · cases checkType_cases h with
      | form target => exact nomatch target.symm.trans htarget
      | @entered ref block _ target found fresh inside =>
        obtain ⟨name, -, -, resolved, -⟩ := Corpus.exists_block_of_target target
        have kept : registry.chain ref.source = registry := settled.chain name ref resolved
        have within := ihBlock ref block target found fresh
        rw [kept] at within inside
        exact .of_justified (.name target found
          (within settled agrees (settled.filtered ref block found) inside))
  | block registry closed path value block strict _ ihTypes =>
    obtain ⟨verdict, hv, checked⟩ : ∃ verdict, Verdict.yes = verdict ∧
        checkBlock corpus registry closed path block value strict = .ok verdict := ⟨_, rfl, h⟩
    cases checkBlock_cases checked with
    | callback function =>
      split at hv
      · exact .of_justified (.callback function (by assumption))
      · cases hv
    | keys other described members =>
      exact .of_justified (.keys other described ((members.eq_yes_iff agrees
        (fun _ hd => Tag.rank_lt_of_mem_demands hd)
        (fun _ hd => Tag.filtered_of_mem_demands filtered.property hd)).1 hv.symm))
    | @synonym tag outcome other bare named inside =>
      have haf := filtered.aliasTag named
      cases outcome with
      | some failure => cases hv
      | none =>
        exact .of_justified (.synonym other bare named
          (ihTypes tag named settled agrees ⟨haf.allowed, haf.types⟩ inside))

/-! ## What holds is not refused -/

/-- The strictness of a query. -/
def Query.strict : Query → Bool
  | .types _ _ strict => strict
  | .type _ strict => strict
  | .block _ strict => strict

/-- No block that is closed follows by fewer rules. -/
def Guarded (corpus : Corpus) (registry : Registry) (value : Value) (closed : List BlockRef)
    (n : Nat) (strict : Bool) : Prop :=
  ∀ ref ∈ closed, ∀ block, corpus.block? ref = some block → ∀ m < n,
    ¬Stage corpus registry (Meets corpus registry) value m (.block block strict)

theorem Stage.of_or (settled : Settled corpus registry) {meets : Demand → Prop} {n : Nat}
    {block : Block} {strict more : Bool} (filtered : block.Filtered)
    (h : Stage corpus registry meets value n (.block block (strict || more))) :
    Stage corpus registry meets value n (.block block strict) := by
  cases strict
  · cases more
    · exact h
    · exact Stage.of_strict settled n (.block block true) filtered h false
  · exact h

theorem Guarded.or (settled : Settled corpus registry) {n m : Nat} {strict : Bool} (more : Bool)
    (h : Guarded corpus registry value closed n strict) (hm : m ≤ n) :
    Guarded corpus registry value closed m (strict || more) :=
  fun ref hr block hb k hk hs =>
    h ref hr block hb k (by omega) (hs.of_or settled (settled.filtered ref block hb))

/-- What follows by some number of rules follows by a least one. -/
theorem exists_least_stage {meets : Demand → Prop} {n : Nat} {query : Query}
    (h : Stage corpus registry meets value n query) :
    ∃ m ≤ n, Stage corpus registry meets value m query ∧
      ∀ k < m, ¬Stage corpus registry meets value k query := by
  classical
  have some : ∃ m, Stage corpus registry meets value m query := ⟨n, h⟩
  exact ⟨Nat.find some, Nat.find_min' some h, Nat.find_spec some, fun k => Nat.find_min some⟩

/-- What follows by fewer than so many rules is not refused, as long as nothing is closed that it
could come back to. -/
def Unrefused (corpus : Corpus) (registry : Registry) (path : List Value) (value : Value) (n : Nat) :
    Prop :=
  ∀ m < n, ∀ (closed : List BlockRef) (query : Query), query.Filtered →
    Stage corpus registry (Meets corpus registry) value m query →
    Guarded corpus registry value closed m query.strict →
    ¬Refused corpus registry closed path value query

/-- A name is not refused where its block is not. A shortest derivation of the block never comes
back to the block, so it can be closed. -/
theorem not_refused_of_name (settled : Settled corpus registry) {n : Nat} {type : TypeExpr}
    {strict : Bool} {ref : BlockRef} {block : Block}
    (fewer : Unrefused corpus registry path value (n + 1))
    (target : corpus.target? registry type = some ref) (found : corpus.block? ref = some block)
    (inside : Stage corpus registry (Meets corpus registry) value n
      (.block block (strict || block.strict)))
    (guarded : Guarded corpus registry value closed (n + 1) strict) :
    ¬Refused corpus registry closed path value (.type type strict) := by
  rintro ⟨verdict, h, refused⟩
  have hf := settled.filtered ref block found
  cases checkType_cases h with
  | form other => exact nomatch other.symm.trans target
  | again target' found' mem =>
    cases target.symm.trans target'
    cases found.symm.trans found'
    exact guarded ref mem block found n (by omega) (inside.of_or settled hf)
  | entered target' found' fresh entered =>
    cases target.symm.trans target'
    cases found.symm.trans found'
    obtain ⟨name, -, -, hresolve, -⟩ := Corpus.exists_block_of_target target
    rw [settled.chain name ref hresolve] at entered
    obtain ⟨m, hm, least, minimal⟩ := exists_least_stage inside
    refine fewer m (by omega) (ref :: closed) (.block block (strict || block.strict)) hf least
      (fun other ho b hb k hk hs => ?_) ⟨verdict, entered, refused⟩
    rcases List.mem_cons.1 ho with rfl | ho
    · cases found.symm.trans hb
      exact minimal k hk hs
    · exact guarded.or settled block.strict (by omega) other ho b hb k hk hs

theorem not_refused_of_keys {block : Block} {strict : Bool}
    (agrees : Agrees corpus registry value) (filtered : block.Filtered)
    (other : block.elements.callback = none) (described : block.elements.property ≠ [])
    (met : (Tag.shape block.elements.property value strict).Met (Meets corpus registry)) :
    ¬Refused corpus registry closed path value (.block block strict) := by
  rintro ⟨verdict, h, refused⟩
  cases checkBlock_cases h with
  | callback function => exact nomatch other ▸ function
  | keys _ _ members =>
    exact refused ((members.eq_yes_iff agrees
      (fun _ hd => Tag.rank_lt_of_mem_demands hd)
      (fun _ hd => Tag.filtered_of_mem_demands filtered.property hd)).2 met)
  | synonym _ bare => exact described bare

theorem not_refused_of_synonym {block : Block} {strict : Bool} {tag : Tag}
    (other : block.elements.callback = none) (bare : block.elements.property = [])
    (named : block.elements.typedef = some tag)
    (inside : ¬Refused corpus registry closed path value (.types (block.elements.aliasTag tag).types
      (block.elements.aliasTag tag).filters strict)) :
    ¬Refused corpus registry closed path value (.block block strict) := by
  rintro ⟨verdict, h, refused⟩
  cases checkBlock_cases h with
  | callback function => exact nomatch other ▸ function
  | keys _ described => exact described bare
  | @synonym tag' outcome _ _ named' checked =>
    cases named.symm.trans named'
    cases outcome with
    | none => exact refused rfl
    | some failure => exact inside ⟨failure, checked⟩

/-- Without filters one alternative that is not refused is enough. -/
theorem not_refused_of_alternative {types : List TypeExpr} {strict : Bool} {type : TypeExpr}
    (mem : type ∈ alternatives types)
    (inside : ¬Refused corpus registry closed path value (.type type strict)) :
    ¬Refused corpus registry closed path value (.types types [] strict) := by
  rintro ⟨failure, h⟩
  cases check_cases h with
  | first _ _ _ failed =>
    rw [filterFailure?_eq_none.2 (TypeExpr.passes_nil _)] at failed
    cases failed
  | none _ others => exact inside (others type mem)

/-- Beside filters it has to be the first alternative that fits. -/
theorem not_refused_of_first {types before after : List TypeExpr} {filters : List Filter}
    {strict : Bool} {type : TypeExpr} (agrees : Agrees corpus registry value)
    (filtered : Query.Filtered (.types types filters strict)) (some : filters ≠ [])
    (split : alternatives types = before ++ type :: after)
    (others : ∀ other ∈ before,
      ¬Fits corpus registry (Meets corpus registry) value other strict)
    (inside : ¬Refused corpus registry closed path value (.type type strict))
    (passes : type.Passes filters value) :
    ¬Refused corpus registry closed path value (.types types filters strict) := by
  rintro ⟨failure, h⟩
  cases check_cases h with
  | none _ refused => exact inside (refused type (by rw [split]; simp))
  | @first before' after' type' _ split' refused matched failed =>
    rcases cut_cases (split.symm.trans split') with ⟨-, rfl⟩ | earlier | later
    · rw [filterFailure?_eq_none.2 passes] at failed
      cases failed
    · have mem : type' ∈ alternatives types := by rw [split]; simp [earlier]
      exact others type' earlier (((checkType_cases matched).eq_yes_iff_fits
        (filtered.1.target?_eq_none some mem) agrees
        (filtered_alternatives filtered.2 type' mem)).1 rfl)
    · exact inside (refused type later)

theorem not_refused_of_stage (settled : Settled corpus registry)
    (agrees : Agrees corpus registry value) {n : Nat} (query : Query) (filtered : query.Filtered)
    (holds : Stage corpus registry (Meets corpus registry) value n query)
    (guarded : Guarded corpus registry value closed n query.strict) :
    ¬Refused corpus registry closed path value query := by
  induction n using Nat.strongRecOn generalizing closed query with
  | _ n ih =>
    cases n with
    | zero => exact holds.elim
    | succ n =>
      have fewer : Unrefused corpus registry path value (n + 1) :=
        fun m hm closed query filtered holds guarded => ih m hm query filtered holds guarded
      have guard : Guarded corpus registry value closed n query.strict :=
        fun ref hr block hb m hm => guarded ref hr block hb m (by omega)
      cases holds with
      | form fits =>
        rintro ⟨verdict, h, refused⟩
        exact refused (((checkType_cases h).eq_yes_iff_fits fits.1 agrees filtered).2 fits)
      | name target found inside => exact not_refused_of_name settled fewer target found inside guarded
      | callback function callable =>
        rintro ⟨verdict, h, refused⟩
        cases checkBlock_cases h with
        | callback => exact refused (if_pos callable)
        | keys other => exact nomatch other ▸ function
        | synonym other => exact nomatch other ▸ function
      | keys other described met => exact not_refused_of_keys agrees filtered other described met
      | synonym other bare named inside =>
        have haf := filtered.aliasTag named
        exact not_refused_of_synonym other bare named
          (fewer n (by omega) closed _ ⟨haf.allowed, haf.types⟩ inside guard)
      | @alternative types strict type mem inside =>
        have hf := filtered_alternatives filtered.2 type mem
        exact not_refused_of_alternative mem (fewer n (by omega) closed _ hf inside guard)
      | @first types before after filters strict type some split others inside passes =>
        have hf := filtered_alternatives filtered.2 type (by rw [split]; simp)
        exact not_refused_of_first agrees filtered some split others
          (fewer n (by omega) closed _ hf inside guard) passes

/-! ## The answers -/

/-- A check that gives a result gives the one that its meaning demands. -/
theorem answer_iff (settled : Settled corpus registry) (query : Query) (filtered : query.Filtered) :
    (Accepted corpus registry [] path value query → Accepts corpus registry value query) ∧
      (Refused corpus registry [] path value query → ¬Accepts corpus registry value query) := by
  induction hn : value.rank using Nat.strongRecOn generalizing value path query with
  | _ n ih =>
    subst hn
    have agrees : Agrees corpus registry value := by
      intro demand hd hf path outcome h
      have answer := @ih _ hd (path ++ demand.steps) demand.value
        (.types demand.types demand.filters false) ⟨hf.allowed, hf.types⟩ rfl
      cases outcome with
      | none => exact ⟨fun _ => answer.1 h, fun _ => rfl⟩
      | some failure => exact ⟨nofun, fun hmeets => absurd hmeets (answer.2 ⟨failure, h⟩)⟩
    rw [accepts_iff]
    refine ⟨admits_of_accepted settled agrees query filtered, fun refused holds => ?_⟩
    obtain ⟨n, hn⟩ := exists_stage_of_admits holds
    have guarded : Guarded corpus registry value [] n query.strict := by
      intro ref hr
      cases hr
    exact not_refused_of_stage settled agrees query filtered hn guarded refused

end Docblock
