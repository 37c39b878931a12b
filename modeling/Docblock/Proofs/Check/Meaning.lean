import Docblock.Proofs.Check.Step

/-!
# What it means that a value is of a type

`Accepts` says of a value, without any search and without a guard against cycles, when it is of
alternatives with filters, of one type, or of what a block with a name stands for. `Justified` lists
the rules. For one value, what holds is the least relation that is closed under them (`Admits`):
names may mean each other in any cycles, and what only a cycle could support does not hold. What is
asked of members concerns values of smaller rank, and is settled before (`accepts_iff`).

A value that is of an earlier alternative has to meet the filters there, so the rule for filters
also asks that no earlier alternative fits. Beside filters stand no names, and this negative
condition is therefore on the form of the alternatives alone: it speaks of members, which are
settled, and the rules only ever need more of what holds to give more.

The form of a type and the filters are those that the checker uses (`TypeExpr.shape`,
`Filter.firstFault?`). What they say is not given a second time. What is different here is how they
are put together, and that is all that the checker could get wrong with cycles and alternatives.
-/

namespace Docblock

/-- What can be asked about a value. -/
inductive Query where
  | types (types : List TypeExpr) (filters : List Filter) (strict : Bool)
  | type (type : TypeExpr) (strict : Bool)
  | block (block : Block) (strict : Bool)

/-- What a check of a query comes to, one case for each kind of query: alternatives lead to types,
types to demands on members or to the block that a name means, blocks to demands on members or to
alternatives. -/
@[elab_as_elim]
theorem Query.induction {corpus : Corpus}
    {motive : Registry → List BlockRef → List Value → Value → Query → Prop}
    (types : ∀ registry closed path value types filters strict,
      (∀ type ∈ alternatives types, motive registry closed path value (.type type strict)) →
      motive registry closed path value (.types types filters strict))
    (type : ∀ registry closed path value (type : TypeExpr) strict,
      (∀ demand ∈ (type.shape value strict).demands,
        motive registry [] (path ++ demand.steps) demand.value
          (.types demand.types demand.filters false)) →
      (∀ ref block, corpus.target? registry type = some ref → corpus.block? ref = some block →
        ref ∉ closed → motive (registry.chain ref.source) (ref :: closed) path value
          (.block block (strict || block.strict))) →
      motive registry closed path value (.type type strict))
    (block : ∀ registry closed path value (block : Block) strict,
      (∀ demand ∈ (Tag.shape block.elements.property value strict).demands,
        motive registry [] (path ++ demand.steps) demand.value
          (.types demand.types demand.filters false)) →
      (∀ tag, block.elements.typedef = some tag → motive registry closed path value
        (.types (block.elements.aliasTag tag).types (block.elements.aliasTag tag).filters strict)) →
      motive registry closed path value (.block block strict))
    (registry : Registry) (closed : List BlockRef) (path : List Value) (value : Value)
    (query : Query) : motive registry closed path value query := by
  -- Members have a smaller rank, and entering a block leaves fewer blocks open.
  induction hn : value.rank using Nat.strongRecOn
    generalizing registry closed path value query with
  | _ n ihRank =>
  induction hk : corpus.countOpen closed using Nat.strongRecOn
    generalizing registry closed query with
  | _ k ihOpen =>
    subst hn hk
    have ofType : ∀ one strict, motive registry closed path value (.type one strict) := by
      intro one strict
      refine type _ _ _ _ one strict (fun demand hd => ?_) fun ref block _ found fresh => ?_
      · exact ihRank _ (TypeExpr.rank_lt_of_mem_demands hd) _ _ _ _ _ rfl
      · exact ihOpen _ (Corpus.countOpen_cons_lt found fresh) _ _ _ rfl
    have ofTypes : ∀ many filters strict,
        motive registry closed path value (.types many filters strict) := by
      intro many filters strict
      exact types _ _ _ _ many filters strict fun one _ => ofType one strict
    cases query with
    | type one strict => exact ofType one strict
    | types many filters strict => exact ofTypes many filters strict
    | block named strict =>
      refine block _ _ _ _ named strict (fun demand hd => ?_) fun tag _ => ofTypes _ _ strict
      exact ihRank _ (Tag.rank_lt_of_mem_demands hd) _ _ _ _ _ rfl

/-- Nothing that is there is too much or has no text, and every demand is met. -/
def Shape.Met (meets : Demand → Prop) : Shape → Prop
  | mismatch => False
  | members demands extra => (∀ demand ∈ demands, meets demand) ∧ extra = .ok []

/-- A value is of a type by the type's own form: it is no name that a block has. -/
def Fits (corpus : Corpus) (registry : Registry) (meets : Demand → Prop) (value : Value)
    (type : TypeExpr) (strict : Bool) : Prop :=
  corpus.target? registry type = none ∧ (type.shape value strict).Met meets

section

variable {corpus : Corpus} {registry : Registry} {meets meets' : Demand → Prop} {value : Value}

theorem Shape.Met.congr {shape : Shape} (h : shape.Met meets)
    (hd : ∀ demand ∈ shape.demands, meets demand → meets' demand) : shape.Met meets' := by
  cases shape with
  | mismatch => exact h
  | members demands extra => exact ⟨fun demand hm => hd demand hm (h.1 demand hm), h.2⟩

theorem Fits.congr {type : TypeExpr} {strict : Bool}
    (h : Fits corpus registry meets value type strict)
    (hm : ∀ demand : Demand, demand.value.rank < value.rank → meets demand → meets' demand) :
    Fits corpus registry meets' value type strict :=
  ⟨h.1, h.2.congr fun demand hd => hm demand (TypeExpr.rank_lt_of_mem_demands hd)⟩

end

variable [AddressTest]

/-- The filters of a type's category let a value through; without a category there are none. -/
def TypeExpr.Passes (type : TypeExpr) (filters : List Filter) (value : Value) : Prop :=
  ∀ category, type.category? = some category →
    Filter.firstFault? category value filters = .ok none

section

variable (corpus : Corpus) (registry : Registry) (meets : Demand → Prop) (value : Value)

/-- The rules, one step of each: what holds of a value when `holds` does, where members are judged
by `meets`. -/
inductive Justified (holds : Query → Prop) : Query → Prop
  | form {type : TypeExpr} {strict : Bool} (fits : Fits corpus registry meets value type strict) :
      Justified holds (.type type strict)
  | name {type : TypeExpr} {strict : Bool} {ref : BlockRef} {block : Block}
      (target : corpus.target? registry type = some ref) (found : corpus.block? ref = some block)
      (inside : holds (.block block (strict || block.strict))) :
      Justified holds (.type type strict)
  | callback {block : Block} {strict : Bool} (function : block.elements.callback.isSome = true)
      (callable : value.isCallable = true) : Justified holds (.block block strict)
  | keys {block : Block} {strict : Bool} (other : block.elements.callback = none)
      (described : block.elements.property ≠ [])
      (met : (Tag.shape block.elements.property value strict).Met meets) :
      Justified holds (.block block strict)
  | synonym {block : Block} {strict : Bool} {tag : Tag} (other : block.elements.callback = none)
      (bare : block.elements.property = []) (named : block.elements.typedef = some tag)
      (inside : holds (.types (block.elements.aliasTag tag).types
        (block.elements.aliasTag tag).filters strict)) :
      Justified holds (.block block strict)
  | alternative {types : List TypeExpr} {strict : Bool} {type : TypeExpr}
      (mem : type ∈ alternatives types) (inside : holds (.type type strict)) :
      Justified holds (.types types [] strict)
  | first {types before after : List TypeExpr} {filters : List Filter} {strict : Bool}
      {type : TypeExpr} (some : filters ≠ []) (split : alternatives types = before ++ type :: after)
      (others : ∀ other ∈ before, ¬Fits corpus registry meets value other strict)
      (inside : holds (.type type strict)) (passes : type.Passes filters value) :
      Justified holds (.types types filters strict)

/-- The least relation that is closed under the rules. -/
def Admits (query : Query) : Prop :=
  ∀ holds : Query → Prop,
    (∀ other, Justified corpus registry meets value holds other → holds other) → holds query

/-- What follows by so many rules, one on the other. -/
def Stage : Nat → Query → Prop
  | 0 => fun _ => False
  | n + 1 => Justified corpus registry meets value (Stage n)

end

/-- Whether the answer to a query about a value is yes. -/
def Accepts (corpus : Corpus) (registry : Registry) (value : Value) (query : Query) : Prop :=
  Admits corpus registry
    (fun demand => ∃ _ : demand.value.rank < value.rank,
      Accepts corpus registry demand.value (.types demand.types demand.filters false))
    value query
termination_by value.rank

/-- A demand is met: the value that it speaks of is of one of its types. -/
def Meets (corpus : Corpus) (registry : Registry) (demand : Demand) : Prop :=
  Accepts corpus registry demand.value (.types demand.types demand.filters false)

/-! ## The least relation in stages -/

variable {corpus : Corpus} {registry : Registry} {meets meets' : Demand → Prop} {value : Value}

theorem Justified.mono {holds holds' : Query → Prop} {query : Query}
    (h : Justified corpus registry meets value holds query)
    (hle : ∀ other, holds other → holds' other) :
    Justified corpus registry meets value holds' query := by
  cases h with
  | form fits => exact .form fits
  | name target found inside => exact .name target found (hle _ inside)
  | callback function callable => exact .callback function callable
  | keys other described met => exact .keys other described met
  | synonym other bare named inside => exact .synonym other bare named (hle _ inside)
  | alternative mem inside => exact .alternative mem (hle _ inside)
  | first some split others inside passes =>
    exact .first some split others (hle _ inside) passes

/-- The relation is closed under its rules. -/
theorem Admits.of_justified {query : Query}
    (h : Justified corpus registry meets value (Admits corpus registry meets value) query) :
    Admits corpus registry meets value query := by
  intro holds hclosed
  exact hclosed query (h.mono fun other ho => ho holds hclosed)

/-- What holds follows by one of the rules from what holds. -/
theorem Admits.justified {query : Query} (h : Admits corpus registry meets value query) :
    Justified corpus registry meets value (Admits corpus registry meets value) query := by
  refine h (Justified corpus registry meets value (Admits corpus registry meets value)) ?_
  intro other ho
  exact ho.mono fun _ inner => .of_justified inner

/-- Every rule has at most one premise on the same value, so what holds follows by finitely many
rules. -/
theorem exists_stage_of_admits {query : Query} (h : Admits corpus registry meets value query) :
    ∃ n, Stage corpus registry meets value n query := by
  refine h (fun query => ∃ n, Stage corpus registry meets value n query) fun query hq => ?_
  cases hq with
  | form fits => exact ⟨1, .form fits⟩
  | name target found inside =>
    obtain ⟨n, hn⟩ := inside
    exact ⟨n + 1, .name target found hn⟩
  | callback function callable => exact ⟨1, .callback function callable⟩
  | keys other described met => exact ⟨1, .keys other described met⟩
  | synonym other bare named inside =>
    obtain ⟨n, hn⟩ := inside
    exact ⟨n + 1, .synonym other bare named hn⟩
  | alternative mem inside =>
    obtain ⟨n, hn⟩ := inside
    exact ⟨n + 1, .alternative mem hn⟩
  | first some split others inside passes =>
    obtain ⟨n, hn⟩ := inside
    exact ⟨n + 1, .first some split others hn passes⟩

/-! ## Members are settled before -/

/-- The rules look at members of the value only, which have a smaller rank. -/
theorem Justified.congr {holds : Query → Prop} {query : Query}
    (h : Justified corpus registry meets value holds query)
    (hm : ∀ demand : Demand, demand.value.rank < value.rank → (meets demand ↔ meets' demand)) :
    Justified corpus registry meets' value holds query := by
  cases h with
  | form fits => exact .form (fits.congr fun demand hd => (hm demand hd).1)
  | name target found inside => exact .name target found inside
  | callback function callable => exact .callback function callable
  | keys other described met =>
    exact .keys other described
      (met.congr fun demand hd => (hm demand (Tag.rank_lt_of_mem_demands hd)).1)
  | synonym other bare named inside => exact .synonym other bare named inside
  | alternative mem inside => exact .alternative mem inside
  | first some split others inside passes =>
    refine .first some split (fun other ho hfits => ?_) inside passes
    exact others other ho (hfits.congr fun demand hd => (hm demand hd).2)

theorem Admits.congr {query : Query} (h : Admits corpus registry meets value query)
    (hm : ∀ demand : Demand, demand.value.rank < value.rank → (meets demand ↔ meets' demand)) :
    Admits corpus registry meets' value query := by
  intro holds hclosed
  exact h holds fun other ho => hclosed other (ho.congr hm)

/-- The answers about a value are the least relation closed under the rules, given the answers
about its members. -/
theorem accepts_iff {query : Query} :
    Accepts corpus registry value query ↔
      Admits corpus registry (Meets corpus registry) value query := by
  rw [Accepts]
  constructor
  · intro h
    exact h.congr fun demand hd => ⟨fun ⟨_, ha⟩ => ha, fun ha => ⟨hd, ha⟩⟩
  · intro h
    exact h.congr fun demand hd => ⟨fun ha => ⟨hd, ha⟩, fun ⟨_, ha⟩ => ha⟩

end Docblock
