import Docblock.Proofs.Check.Agreement
import Docblock.Proofs.Filter.Break

/-!
# Checks that break off

A check of a value against what was read from a source breaks off where a filter does, where all
that is left to do is to tell about keys that are too much and the message cannot be written, and
where a map comes to a key that has no text. It breaks off in no other way (`faults_iff_breaks`).
`Breaks` says how it comes there: demands and alternatives have their turn one after the other, so
all members before were found well, and no alternative before was fulfilled.

The order matters, and it is the only thing here that does. A number that is too large for a filter
breaks nothing off when an earlier member fails, or when an earlier alternative is fulfilled. What
the check would have answered is not asked.

`Breaks` has a constructor for each place where the checker goes on, so both directions are an
induction with one case for each: along the checker in the one, along the derivation in the other.
No rank and no count of open blocks occurs in it. That the checker ends is what makes a derivation
out of a fault (`breaks_of_faults`); the other way no measure is needed.

Blocks without a name are not queries of this kind. A check against one is refused before it begins.
-/

namespace Docblock

variable {corpus : Corpus} {registry : Registry} {closed : List BlockRef} {path : List Value}
variable {value : Value} {fault : Fault}

/-! ## Filters and names that were read -/

/-- The filters beside an alternative are filters of its category. -/
theorem Allowed.fits {types : List TypeExpr} {filters : List Filter} {type : TypeExpr}
    {category : Category} (h : Allowed types filters) (mem : type ∈ alternatives types)
    (hc : type.category? = some category) : ∀ filter ∈ filters, filter.Fits category := by
  intro filter hf
  unfold alternatives at mem
  split at mem
  · cases List.mem_singleton.1 mem
    cases hc
  · rcases h.resolve_left (List.ne_nil_of_mem hf) type mem with nullish | ⟨other, hc', all⟩
    · cases type <;> simp [TypeExpr.isNullish] at nullish <;> cases hc
    · cases hc.symm.trans hc'
      exact all filter hf

/-- The filters beside an alternative are known to its category. -/
theorem Allowed.known {types : List TypeExpr} {filters : List Filter} {type : TypeExpr}
    {category : Category} (h : Allowed types filters) (mem : type ∈ alternatives types)
    (hc : type.category? = some category) :
    ∀ filter ∈ filters, (category.rule? filter.name).isSome = true := by
  intro filter hf
  obtain ⟨rule, hrule, -⟩ := h.fits mem hc filter hf
  rw [hrule]
  rfl

/-- A block that a type means has a name. -/
theorem Corpus.typedefTag?_of_target {type : TypeExpr} {ref : BlockRef} {block : Block}
    (target : corpus.target? registry type = some ref) (found : corpus.block? ref = some block) :
    block.typedefTag?.isSome = true := by
  obtain ⟨name, other, -, -, found', declares⟩ := Corpus.exists_block_of_target target
  cases found.symm.trans found'
  obtain ⟨tag, ht, -⟩ := (Option.any_eq_true _ _).1 declares
  rw [ht]
  rfl

/-! ## What cannot be written

A key of an undeclared member is written into the message, and so is the whole path, which may
lead over a key of a map. The keys of a map are written as well, whether they are too much or not:
a failure at one of them stands at its text. -/

/-- All keys of a map have to be written, and nothing but that is missing in what a type says. -/
theorem TypeExpr.extra_eq_error {type : TypeExpr} {strict : Bool} {demands : List Demand}
    (shape : type.shape value strict = .members demands (.error fault)) :
    fault = .integerTooLong none := by
  cases type with
  | map text keys values =>
    rw [TypeExpr.shape] at shape
    split at shape
    · rename_i entries _
      obtain ⟨-, extra⟩ := Shape.members.inj shape
      have texts : MissingIff (Value.keyTexts entries) (∃ entry ∈ entries, entry.1.Unwritable) :=
        .mapM fun entry _ => entry.1.missingIff_text
      exact ((texts.map fun _ => []) fault |>.1 extra).1
    · cases shape
  | any | literal | primitive | null | undefined | named =>
    simp only [TypeExpr.shape, Shape.ofBool] at shape
    split at shape <;> cases shape
  | array | tuple | object =>
    simp only [TypeExpr.shape] at shape
    split at shape <;> cases shape

theorem Tag.extra_ne_error {tags : List Tag} {strict : Bool} {demands : List Demand} :
    Tag.shape tags value strict ≠ .members demands (.error fault) := by
  intro shape
  unfold Tag.shape at shape
  split at shape <;> cases shape

/-- Once all demands are met, a check breaks off where what is left cannot be written. -/
theorem Verdict.ofMembers_eq_error_iff {extra : Except Fault (List Value)}
    (missing : ∀ fault, extra = .error fault → fault = .integerTooLong none) :
    ofMembers path extra none = .error fault ↔ fault = .integerTooLong none ∧
      match extra with
      | .error _ => True
      | .ok keys => keys ≠ [] ∧ ∃ key ∈ keys ++ path, key.Unwritable := by
  cases extra with
  | error other =>
    cases missing other rfl
    simp [ofMembers, bind, Except.bind, eq_comm]
  | ok keys =>
    cases keys with
    | nil => simp [ofMembers, bind, Except.bind, pure, Except.pure]
    | cons key rest =>
      have told : ofMembers path (.ok (key :: rest)) none =
          Failure.ofExtraKeys (key :: rest) path >>= fun failure => pure (failed failure) := rfl
      rw [told, (Failure.missingIff_ofExtraKeys (key :: rest) path).map failed]
      simp

/-- An item stands first, or after the first of a list. -/
theorem exists_split_cons {α : Type} {p : α → Prop} {first a : α} {rest : List α} :
    (∃ before after, first :: rest = before ++ a :: after ∧ ∀ b ∈ before, p b) ↔
      a = first ∨ p first ∧ ∃ before after, rest = before ++ a :: after ∧ ∀ b ∈ before, p b := by
  constructor
  · rintro ⟨before, after, split, all⟩
    cases before with
    | nil =>
      cases split
      exact .inl rfl
    | cons head before =>
      cases split
      exact .inr ⟨all _ (by simp), before, after, rfl, fun b hb => all b (by simp [hb])⟩
  · rintro (rfl | ⟨hfirst, before, after, rfl, all⟩)
    · exact ⟨[], rest, rfl, by simp⟩
    · refine ⟨first :: before, after, rfl, fun b hb => ?_⟩
      rcases List.mem_cons.1 hb with rfl | hb
      · exact hfirst
      · exact all b hb

variable [AddressTest]

/-! ## How a check comes to a fault

A list is cut at the item whose turn it is. Of the items before it, it is said what the checker
found, and nothing is said of those after it. -/

/-- A demand has its turn: those before it are met. -/
def Demand.Turn (corpus : Corpus) (registry : Registry) (path : List Value)
    (demands : List Demand) (demand : Demand) : Prop :=
  ∃ before after, demands = before ++ demand :: after ∧
    ∀ other ∈ before, checkDemand corpus registry path other = .ok none

/-- All demands of a shape are met, and what is there beside them cannot be written: a key of a map,
or one of the keys that are too much or of the path that the message about them shows. -/
structure Shape.Unwritten (corpus : Corpus) (registry : Registry) (path : List Value)
    (shape : Shape) : Prop where
  met : ∀ demand ∈ shape.demands, checkDemand corpus registry path demand = .ok none
  long : match shape with
    | .mismatch => False
    | .members _ (.error _) => True
    | .members _ (.ok extra) => extra ≠ [] ∧ ∃ key ∈ extra ++ path, key.Unwritable

/-- An alternative has its turn: the value is of none before it. -/
def TypeExpr.Turn (corpus : Corpus) (registry : Registry) (closed : List BlockRef)
    (path : List Value) (value : Value) (strict : Bool) (types : List TypeExpr) (type : TypeExpr) :
    Prop :=
  ∃ before after, types = before ++ type :: after ∧
    ∀ other ∈ before, Refused corpus registry closed path value (.type other strict)

/-- One of the filters beside a type breaks off, and the value meets those before it. -/
def TypeExpr.Breaks (type : TypeExpr) (filters : List Filter) (value : Value) (fault : Fault) :
    Prop :=
  ∃ category, type.category? = some category ∧ ∃ before filter after,
    filters = before ++ filter :: after ∧ Filter.firstFault? category value before = .ok none ∧
      filter.Breaks category value fault

/-- A check breaks off with a fault. -/
inductive Breaks (corpus : Corpus) :
    Registry → List BlockRef → List Value → Value → Query → Fault → Prop
  | member {registry : Registry} {closed : List BlockRef} {path : List Value} {value : Value}
      {type : TypeExpr} {strict : Bool} {demand : Demand} {fault : Fault}
      (target : corpus.target? registry type = none)
      (turn : demand.Turn corpus registry path (type.shape value strict).demands)
      (inside : Breaks corpus registry [] (path ++ demand.steps) demand.value
        (.types demand.types demand.filters false) fault) :
      Breaks corpus registry closed path value (.type type strict) fault
  | excess {registry : Registry} {closed : List BlockRef} {path : List Value} {value : Value}
      {type : TypeExpr} {strict : Bool} (target : corpus.target? registry type = none)
      (unwritten : (type.shape value strict).Unwritten corpus registry path) :
      Breaks corpus registry closed path value (.type type strict) (.integerTooLong none)
  | name {registry : Registry} {closed : List BlockRef} {path : List Value} {value : Value}
      {type : TypeExpr} {strict : Bool} {ref : BlockRef} {block : Block} {fault : Fault}
      (target : corpus.target? registry type = some ref) (found : corpus.block? ref = some block)
      (fresh : ref ∉ closed)
      (inside : Breaks corpus (registry.chain ref.source) (ref :: closed) path value
        (.block block (strict || block.strict)) fault) :
      Breaks corpus registry closed path value (.type type strict) fault
  | key {registry : Registry} {closed : List BlockRef} {path : List Value} {value : Value}
      {block : Block} {strict : Bool} {demand : Demand} {fault : Fault}
      (other : block.elements.callback = none)
      (turn : demand.Turn corpus registry path
        (Tag.shape block.elements.property value strict).demands)
      (inside : Breaks corpus registry [] (path ++ demand.steps) demand.value
        (.types demand.types demand.filters false) fault) :
      Breaks corpus registry closed path value (.block block strict) fault
  | surplus {registry : Registry} {closed : List BlockRef} {path : List Value} {value : Value}
      {block : Block} {strict : Bool} (other : block.elements.callback = none)
      (described : block.elements.property ≠ [])
      (unwritten : (Tag.shape block.elements.property value strict).Unwritten corpus registry
        path) :
      Breaks corpus registry closed path value (.block block strict) (.integerTooLong none)
  | synonym {registry : Registry} {closed : List BlockRef} {path : List Value} {value : Value}
      {block : Block} {strict : Bool} {tag : Tag} {fault : Fault}
      (other : block.elements.callback = none) (bare : block.elements.property = [])
      (named : block.elements.typedef = some tag)
      (inside : Breaks corpus registry closed path value (.types (block.elements.aliasTag tag).types
        (block.elements.aliasTag tag).filters strict) fault) :
      Breaks corpus registry closed path value (.block block strict) fault
  | alternative {registry : Registry} {closed : List BlockRef} {path : List Value}
      {value : Value} {types : List TypeExpr} {filters : List Filter} {strict : Bool}
      {type : TypeExpr} {fault : Fault}
      (turn : type.Turn corpus registry closed path value strict (alternatives types))
      (inside : Breaks corpus registry closed path value (.type type strict) fault) :
      Breaks corpus registry closed path value (.types types filters strict) fault
  | filters {registry : Registry} {closed : List BlockRef} {path : List Value}
      {value : Value} {types : List TypeExpr} {filters : List Filter} {strict : Bool}
      {type : TypeExpr} {fault : Fault}
      (turn : type.Turn corpus registry closed path value strict (alternatives types))
      (matched : Accepted corpus registry closed path value (.type type strict))
      (breaks : type.Breaks filters value fault) :
      Breaks corpus registry closed path value (.types types filters strict) fault

/-- The checker breaks off with a fault. -/
def Faults (corpus : Corpus) (registry : Registry) (closed : List BlockRef) (path : List Value)
    (value : Value) (fault : Fault) : Query → Prop
  | .types alts filters strict =>
    check corpus registry closed path alts value filters strict = .error fault
  | .type alt strict => checkType corpus registry closed path alt value strict = .error fault
  | .block named strict => checkBlock corpus registry closed path named value strict = .error fault

/-- The checker breaks off at the members that a shape speaks of, or at what is left. -/
def Shape.Faults (corpus : Corpus) (registry : Registry) (path : List Value) (shape : Shape)
    (fault : Fault) : Prop :=
  (∃ demand : Demand, demand.Turn corpus registry path shape.demands ∧
    checkDemand corpus registry path demand = .error fault) ∨
  fault = .integerTooLong none ∧ shape.Unwritten corpus registry path

/-! ## The faults of checks

Whatever the way, at its end stands a filter or a number that cannot be written. So what holds of
the faults of filters holds of those of checks, and the way is not looked at again. -/

/-- A check breaks off with a fault of a filter, or because a number is too long to be written. -/
theorem Breaks.induction_fault {P : Fault → Prop} {query : Query}
    (h : Breaks corpus registry closed path value query fault) (long : P (.integerTooLong none))
    (rules : ∀ (rule : Rule) (expected value : Value) (fault : Fault),
      rule.Breaks expected value fault → P fault) : P fault := by
  induction h with
  | member _ _ _ ih => exact ih
  | excess => exact long
  | name _ _ _ _ ih => exact ih
  | key _ _ _ ih => exact ih
  | surplus => exact long
  | synonym _ _ _ _ ih => exact ih
  | alternative _ _ ih => exact ih
  | filters _ _ breaks =>
    obtain ⟨_, -, _, _, _, -, -, rule, -, breaks⟩ := breaks
    exact rules rule _ _ _ breaks

theorem Breaks.ofCheck {query : Query}
    (h : Breaks corpus registry closed path value query fault) : fault.OfCheck :=
  h.induction_fault (.number .tooLong) fun _ _ _ _ breaks => breaks.ofCheck

/-- With a test for web addresses that never breaks off only the size of a number is left. -/
theorem Breaks.ofNumber (answers : AddressTest.Answers) {query : Query}
    (h : Breaks corpus registry closed path value query fault) : fault.OfNumber :=
  h.induction_fault .tooLong fun _ _ _ _ breaks => breaks.ofNumber answers

/-! ## Whose turn it is -/

theorem Demand.not_turn_nil {demand : Demand} : ¬demand.Turn corpus registry path [] := by
  rintro ⟨before, after, split, -⟩
  simp at split

theorem Demand.turn_cons {demand first : Demand} {rest : List Demand} :
    demand.Turn corpus registry path (first :: rest) ↔
      demand = first ∨ checkDemand corpus registry path first = .ok none ∧
        demand.Turn corpus registry path rest :=
  exists_split_cons

theorem Demand.Turn.mem {demands : List Demand} {demand : Demand}
    (h : demand.Turn corpus registry path demands) : demand ∈ demands := by
  obtain ⟨before, after, rfl, -⟩ := h
  simp

theorem TypeExpr.not_turn_nil {type : TypeExpr} {strict : Bool} :
    ¬type.Turn corpus registry closed path value strict [] := by
  rintro ⟨before, after, split, -⟩
  simp at split

theorem TypeExpr.turn_cons {type first : TypeExpr} {rest : List TypeExpr} {strict : Bool} :
    type.Turn corpus registry closed path value strict (first :: rest) ↔
      type = first ∨ Refused corpus registry closed path value (.type first strict) ∧
        type.Turn corpus registry closed path value strict rest :=
  exists_split_cons

theorem TypeExpr.Turn.mem {types : List TypeExpr} {type : TypeExpr} {strict : Bool}
    (h : type.Turn corpus registry closed path value strict types) : type ∈ types := by
  obtain ⟨before, after, rfl, -⟩ := h
  simp

/-! ## Where each step breaks off

One lemma for each function of the checker. Each says of one step what `Breaks` says of all, with
the checker itself in place of the premises. -/

theorem checkAll_eq_error_iff {bound : Nat} {demands : List Demand}
    {below : ∀ demand ∈ demands, demand.value.rank < bound} :
    checkAll corpus registry path bound demands below = .error fault ↔
      ∃ demand, demand.Turn corpus registry path demands ∧
        checkDemand corpus registry path demand = .error fault := by
  induction demands with
  | nil =>
    rw [checkAll]
    refine iff_of_false pure_ne_error ?_
    rintro ⟨demand, turn, -⟩
    exact Demand.not_turn_nil turn
  | cons demand rest ih =>
    rw [checkAll, bind_eq_error]
    constructor
    · rintro (one | ⟨outcome, one, more⟩)
      · exact ⟨demand, Demand.turn_cons.2 (.inl rfl), one⟩
      -- A failure ends the list, so a later demand has no turn.
      · cases outcome with
        | some failure => exact absurd more pure_ne_error
        | none =>
          obtain ⟨other, turn, faulty⟩ := ih.1 more
          exact ⟨other, Demand.turn_cons.2 (.inr ⟨one, turn⟩), faulty⟩
    · rintro ⟨other, turn, faulty⟩
      rcases Demand.turn_cons.1 turn with rfl | ⟨met, turn⟩
      · exact .inl faulty
      · exact .inr ⟨none, met, ih.2 ⟨other, turn, faulty⟩⟩

theorem members_eq_error_iff {bound : Nat} {demands : List Demand}
    {extra : Except Fault (List Value)} {below : ∀ demand ∈ demands, demand.value.rank < bound}
    (missing : ∀ fault, extra = .error fault → fault = .integerTooLong none) :
    (do
      let failure ← checkAll corpus registry path bound demands below
      Verdict.ofMembers path extra failure) = .error fault ↔
      (Shape.members demands extra).Faults corpus registry path fault := by
  rw [bind_eq_error, checkAll_eq_error_iff]
  refine or_congr Iff.rfl ⟨?_, ?_⟩
  -- With a failure at a member nothing is told about keys, so there is none.
  · rintro ⟨outcome, checked, faulty⟩
    rcases checkAll_eq_ok checked with ⟨rfl, met⟩ | ⟨_, _, _, rfl, _⟩
    · obtain ⟨hfault, long⟩ := (Verdict.ofMembers_eq_error_iff missing).1 faulty
      refine ⟨hfault, met, ?_⟩
      cases extra <;> exact long
    · cases faulty
  · rintro ⟨hfault, met, long⟩
    refine ⟨none, checkAll_eq_none met, (Verdict.ofMembers_eq_error_iff missing).2 ⟨hfault, ?_⟩⟩
    cases extra <;> exact long

theorem Shape.not_faults_mismatch : ¬mismatch.Faults corpus registry path fault := by
  rintro (⟨demand, turn, -⟩ | ⟨-, unwritten⟩)
  · exact Demand.not_turn_nil turn
  · exact unwritten.long

/-- Where no members are looked at nothing breaks off. -/
theorem Shape.no_eq_error_iff_faults :
    (pure .no : Except Fault Verdict) = .error fault ↔
      mismatch.Faults corpus registry path fault :=
  iff_of_false pure_ne_error not_faults_mismatch

theorem checkType_eq_error_iff {type : TypeExpr} {strict : Bool} :
    checkType corpus registry closed path type value strict = .error fault ↔
      (corpus.target? registry type = none ∧
        (type.shape value strict).Faults corpus registry path fault) ∨
      ∃ ref block, corpus.target? registry type = some ref ∧ corpus.block? ref = some block ∧
        ref ∉ closed ∧ checkBlock corpus (registry.chain ref.source) (ref :: closed) path block
          value (strict || block.strict) = .error fault := by
  rcases target : corpus.target? registry type with _ | ref
  · have form : checkType corpus registry closed path type value strict = .error fault ↔
        (type.shape value strict).Faults corpus registry path fault := by
      cases shape : type.shape value strict with
      | mismatch =>
        rw [checkType_of_mismatch target shape]
        exact Shape.no_eq_error_iff_faults
      | members demands extra =>
        rw [checkType_of_members target shape fun demand hd =>
          TypeExpr.rank_lt_of_mem_demands (by rw [shape]; exact hd)]
        refine members_eq_error_iff ?_
        rintro fault rfl
        exact TypeExpr.extra_eq_error shape
    simp [form]
  -- A block that is closed is refused with a message of its own, which shows no number.
  · obtain ⟨-, block, -, -, found, -⟩ := Corpus.exists_block_of_target target
    by_cases mem : ref ∈ closed
    · rw [checkType_of_mem target found mem]
      simp [mem]
    · rw [checkType_of_not_mem target found mem]
      simp [found, mem]

/-- A block with a name breaks off with its members, or with what it stands for. -/
theorem checkBlock_eq_error_iff {block : Block} {strict : Bool}
    (named : block.typedefTag?.isSome = true) :
    checkBlock corpus registry closed path block value strict = .error fault ↔
      block.elements.callback = none ∧
        ((block.elements.property ≠ [] ∧ (Tag.shape block.elements.property value strict).Faults
            corpus registry path fault) ∨
          block.elements.property = [] ∧ ∃ tag, block.elements.typedef = some tag ∧
            check corpus registry closed path (block.elements.aliasTag tag).types value
              (block.elements.aliasTag tag).filters strict = .error fault) := by
  rw [checkBlock]
  split
  · rename_i function
    constructor
    · intro h
      cases h
    · rintro ⟨other, -⟩
      simp [other] at function
  · rename_i function
    have other : block.elements.callback = none := by simpa using function
    simp only [other, true_and]
    split
    · rename_i described
      have not_bare : block.elements.property ≠ [] := by simpa using described
      simp only [not_bare, false_and, or_false, ne_eq, not_false_eq_true, true_and]
      split
      · rename_i shape
        rw [shape]
        exact Shape.no_eq_error_iff_faults
      · rename_i demands extra shape
        have missing : ∀ fault, extra = .error fault → fault = .integerTooLong none := by
          rintro fault rfl
          exact absurd shape Tag.extra_ne_error
        exact (members_eq_error_iff missing).trans (by rw [shape])
    · rename_i described
      have bare : block.elements.property = [] := by simpa using described
      simp only [bare, ne_eq, not_true_eq_false, false_and, false_or, true_and]
      split
      -- A block that stands for nothing has no name.
      · rename_i none
        simp [Block.typedefTag?, none, other] at named
      · rename_i tag found
        simp only [bind_eq_error, pure_ne_error, and_false, exists_false, or_false, found,
          Option.some.injEq, exists_eq_left']

theorem checkAny_eq_error_iff {types : List TypeExpr} {filters : List Filter} {strict : Bool}
    {first : Option Failure} :
    checkAny corpus registry closed path types value filters strict first = .error fault ↔
      ∃ type : TypeExpr, type.Turn corpus registry closed path value strict types ∧
        (checkType corpus registry closed path type value strict = .error fault ∨
          checkType corpus registry closed path type value strict = .ok .yes ∧
            filterFailure? type filters value path = .error fault) := by
  induction types generalizing first with
  | nil =>
    rw [checkAny]
    constructor
    · intro h
      cases h
    · rintro ⟨type, turn, -⟩
      exact absurd turn TypeExpr.not_turn_nil
  | cons type rest ih =>
    rw [checkAny, bind_eq_error]
    constructor
    · rintro (faulty | ⟨verdict, checked, more⟩)
      · exact ⟨type, TypeExpr.turn_cons.2 (.inl rfl), .inl faulty⟩
      · split at more
        · rename_i yes
          rw [Verdict.failure?_eq_none.1 yes] at checked
          exact ⟨type, TypeExpr.turn_cons.2 (.inl rfl), .inr ⟨checked, more⟩⟩
        -- The alternative that breaks off is among the others, and this one is refused in front of
        -- it.
        · rename_i failure no
          have refused : Refused corpus registry closed path value (.type type strict) := by
            refine ⟨verdict, checked, ?_⟩
            rintro rfl
            cases no
          obtain ⟨other, turn, faulty⟩ := ih.1 more
          exact ⟨other, TypeExpr.turn_cons.2 (.inr ⟨refused, turn⟩), faulty⟩
    · rintro ⟨other, turn, faulty⟩
      rcases TypeExpr.turn_cons.1 turn with rfl | ⟨⟨verdict, checked, ne⟩, turn⟩
      · rcases faulty with faulty | ⟨matched, faulty⟩
        · exact .inl faulty
        · exact .inr ⟨.yes, matched, faulty⟩
      · refine .inr ⟨verdict, checked, ?_⟩
        split
        · rename_i yes
          exact absurd (Verdict.failure?_eq_none.1 yes) ne
        · exact ih.2 ⟨other, turn, faulty⟩

theorem check_eq_error_iff {types : List TypeExpr} {filters : List Filter} {strict : Bool} :
    check corpus registry closed path types value filters strict = .error fault ↔
      ∃ type : TypeExpr, type.Turn corpus registry closed path value strict (alternatives types) ∧
        (checkType corpus registry closed path type value strict = .error fault ∨
          checkType corpus registry closed path type value strict = .ok .yes ∧
            filterFailure? type filters value path = .error fault) := by
  rw [check]
  exact checkAny_eq_error_iff

/-- The filters beside an alternative break off where one of them does. -/
theorem filterFailure?_eq_error_iff {types : List TypeExpr} {filters : List Filter}
    {type : TypeExpr} (allowed : Allowed types filters) (mem : type ∈ alternatives types) :
    filterFailure? type filters value path = .error fault ↔ type.Breaks filters value fault := by
  unfold filterFailure? TypeExpr.Breaks
  cases hc : type.category? with
  | none => simp
  | some category =>
    simp only [bind_eq_error, pure_ne_error, and_false, exists_false, or_false,
      Filter.firstFault?_eq_error_iff (allowed.known mem hc), Option.some.injEq, exists_eq_left']

/-! ## The whole recursion -/

/-- A query about alternatives, a type, or a block that has a name. -/
def Query.Named : Query → Prop
  | .types .. | .type .. => True
  | .block named _ => named.typedefTag?.isSome = true

theorem breaks_of_faults (blocks : ∀ ref block, corpus.block? ref = some block → block.Filtered)
    (query : Query) (filtered : query.Filtered) (named : query.Named)
    (h : Faults corpus registry closed path value fault query) :
    Breaks corpus registry closed path value query fault := by
  induction registry, closed, path, value, query using Query.induction with
  | types registry closed path value types filters strict ih =>
    obtain ⟨type, turn, faulty | ⟨matched, faulty⟩⟩ := check_eq_error_iff.1 h
    · have inside := ih type turn.mem (filtered_alternatives filtered.2 type turn.mem) trivial faulty
      exact .alternative turn inside
    · exact .filters turn matched ((filterFailure?_eq_error_iff filtered.1 turn.mem).1 faulty)
  | type registry closed path value type strict ihMember ihBlock =>
    rcases checkType_eq_error_iff.1 h with ⟨target, faulty⟩ | ⟨ref, block, target, found, fresh, faulty⟩
    · rcases faulty with ⟨demand, turn, faulty⟩ | ⟨hfault, unwritten⟩
      · have hf := TypeExpr.filtered_of_mem_demands filtered turn.mem
        exact .member target turn (ihMember demand turn.mem ⟨hf.allowed, hf.types⟩ trivial faulty)
      · exact hfault ▸ .excess target unwritten
    · exact .name target found fresh (ihBlock ref block target found fresh (blocks ref block found)
        (Corpus.typedefTag?_of_target target found) faulty)
  | block registry closed path value block strict ihMember ihTypes =>
    obtain ⟨other, ⟨described, faulty⟩ | ⟨bare, tag, found, faulty⟩⟩ :=
      (checkBlock_eq_error_iff named).1 h
    · rcases faulty with ⟨demand, turn, faulty⟩ | ⟨hfault, unwritten⟩
      · have hf := Tag.filtered_of_mem_demands (Block.Filtered.property filtered) turn.mem
        exact .key other turn (ihMember demand turn.mem ⟨hf.allowed, hf.types⟩ trivial faulty)
      · exact hfault ▸ .surplus other described unwritten
    · have hf := Block.Filtered.aliasTag filtered found
      exact .synonym other bare found (ihTypes tag found ⟨hf.allowed, hf.types⟩ trivial faulty)

/-- A block in which a member has its turn describes members. -/
theorem Demand.Turn.described {tags : List Tag} {strict : Bool} {demand : Demand}
    (turn : demand.Turn corpus registry path (Tag.shape tags value strict).demands) : tags ≠ [] := by
  rintro rfl
  have mem := turn.mem
  unfold Tag.shape at mem
  split at mem <;> cases mem

theorem faults_of_breaks (blocks : ∀ ref block, corpus.block? ref = some block → block.Filtered)
    {query : Query} (filtered : query.Filtered) (named : query.Named)
    (h : Breaks corpus registry closed path value query fault) :
    Faults corpus registry closed path value fault query := by
  induction h with
  | member target turn inside ih =>
    have hf := TypeExpr.filtered_of_mem_demands filtered turn.mem
    exact checkType_eq_error_iff.2
      (.inl ⟨target, .inl ⟨_, turn, ih ⟨hf.allowed, hf.types⟩ trivial⟩⟩)
  | excess target unwritten =>
    exact checkType_eq_error_iff.2 (.inl ⟨target, .inr ⟨rfl, unwritten⟩⟩)
  | name target found fresh inside ih =>
    have faulty := ih (blocks _ _ found) (Corpus.typedefTag?_of_target target found)
    exact checkType_eq_error_iff.2 (.inr ⟨_, _, target, found, fresh, faulty⟩)
  | key other turn inside ih =>
    have hf := Tag.filtered_of_mem_demands (Block.Filtered.property filtered) turn.mem
    exact (checkBlock_eq_error_iff named).2
      ⟨other, .inl ⟨turn.described, .inl ⟨_, turn, ih ⟨hf.allowed, hf.types⟩ trivial⟩⟩⟩
  | surplus other described unwritten =>
    exact (checkBlock_eq_error_iff named).2 ⟨other, .inl ⟨described, .inr ⟨rfl, unwritten⟩⟩⟩
  | synonym other bare found inside ih =>
    have hf := Block.Filtered.aliasTag filtered found
    exact (checkBlock_eq_error_iff named).2
      ⟨other, .inr ⟨bare, _, found, ih ⟨hf.allowed, hf.types⟩ trivial⟩⟩
  | alternative turn inside ih =>
    have faulty := ih (filtered_alternatives filtered.2 _ turn.mem) trivial
    exact check_eq_error_iff.2 ⟨_, turn, .inl faulty⟩
  | filters turn matched breaks =>
    exact check_eq_error_iff.2 ⟨_, turn, .inr
      ⟨matched, (filterFailure?_eq_error_iff filtered.1 turn.mem).2 breaks⟩⟩

/-- A check breaks off just as `Breaks` says. -/
theorem faults_iff_breaks (blocks : ∀ ref block, corpus.block? ref = some block → block.Filtered)
    (query : Query) (filtered : query.Filtered) (named : query.Named) :
    Faults corpus registry closed path value fault query ↔
      Breaks corpus registry closed path value query fault :=
  ⟨breaks_of_faults blocks query filtered named, faults_of_breaks blocks filtered named⟩

end Docblock
