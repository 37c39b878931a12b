import Docblock.Check.Checker
import Docblock.Proofs.Outcome

/-!
# What each step of a check gives

One lemma for each part of the checker says all that a verdict of it can mean: on the members that a
type speaks of (`MemberVerdict`), on a type (`TypeVerdict`), on a block with a name (`BlockVerdict`)
and on alternatives (`UnionOutcome`). What is proved of verdicts is proved from these. The other way
round there is a lemma for what the checker does in each case (`checkType_of_not_mem`,
`checkBlock_of_synonym`, `checkAny_of_yes` and their like).

The definition of the checker is opened here and hardly anywhere else. If a case were added to it,
one constructor and one lemma of this file would follow, and the proofs by cases on verdicts would
ask for it by name. Two kinds of statements are not made from verdicts and have their own equations:
when a check breaks off, and when two checks give the same.
-/

namespace Docblock

variable {corpus : Corpus} {registry : Registry} {closed : List BlockRef} {path : List Value}

/-- The block that a type means, when it is a name that a block has. -/
def Corpus.target? (corpus : Corpus) (registry : Registry) (type : TypeExpr) : Option BlockRef :=
  type.name?.bind (corpus.resolve registry)

/-- A name means a block that is there and has that name. -/
theorem Corpus.exists_block_of_resolve {name : String} {ref : BlockRef}
    (h : corpus.resolve registry name = some ref) :
    ∃ block, corpus.block? ref = some block ∧ block.declares name = true := by
  have hfound := List.find?_some h
  exact (Option.any_eq_true _ _).1 hfound

theorem Corpus.exists_block_of_target {type : TypeExpr} {ref : BlockRef}
    (h : corpus.target? registry type = some ref) :
    ∃ name block, type.name? = some name ∧ corpus.resolve registry name = some ref ∧
      corpus.block? ref = some block ∧ block.declares name = true := by
  obtain ⟨name, hn, hr⟩ := Option.bind_eq_some_iff.1 h
  obtain ⟨block, hb, hd⟩ := Corpus.exists_block_of_resolve hr
  exact ⟨name, block, hn, hr, hb, hd⟩

/-- Once all demands are met, what is left has to be written to give a verdict. -/
theorem Verdict.ofMembers_none_eq_ok {extra : Except Fault (List Value)} {verdict : Verdict} :
    ofMembers path extra none = .ok verdict ↔
      (extra = .ok [] ∧ verdict = .yes) ∨ ∃ keys failure, extra = .ok keys ∧ keys ≠ [] ∧
        Failure.ofExtraKeys keys path = .ok failure ∧ verdict = .failed failure := by
  rw [ofMembers, bind_eq_ok]
  cases extra with
  | error fault => simp
  | ok keys =>
    cases keys with
    | nil => simp [pure_eq_ok, @eq_comm _ verdict]
    | cons key rest => simp [map_eq_ok, @eq_comm _ verdict]

theorem Verdict.failure?_eq_none {expected : String} {value : Value} {verdict : Verdict} :
    verdict.failure? expected value path = none ↔ verdict = .yes := by
  cases verdict <;> simp [failure?]

theorem alternatives_ne_nil (types : List TypeExpr) : alternatives types ≠ [] := by
  unfold alternatives
  split
  · simp
  · rename_i h
    simpa using h

variable [AddressTest]

/-- The check of a demand that is made of a value at a path. -/
def checkDemand (corpus : Corpus) (registry : Registry) (path : List Value) (demand : Demand) :
    Except Fault (Option Failure) :=
  check corpus registry [] (path ++ demand.steps) demand.types demand.value demand.filters false

/-! ## Members -/

/-- What a check of the members that a shape speaks of can give. -/
inductive MemberVerdict (corpus : Corpus) (registry : Registry) (path : List Value) :
    Shape → Verdict → Prop
  | mismatch : MemberVerdict corpus registry path .mismatch .no
  | met {demands : List Demand}
      (all : ∀ demand ∈ demands, checkDemand corpus registry path demand = .ok none) :
      MemberVerdict corpus registry path (.members demands (.ok [])) .yes
  | excess {demands : List Demand} {extra : List Value} {failure : Failure}
      (all : ∀ demand ∈ demands, checkDemand corpus registry path demand = .ok none)
      (more : extra ≠ []) (told : Failure.ofExtraKeys extra path = .ok failure) :
      MemberVerdict corpus registry path (.members demands (.ok extra)) (.failed failure)
  | failed {demands : List Demand} {extra : Except Fault (List Value)} {demand : Demand}
      {failure : Failure} (mem : demand ∈ demands)
      (one : checkDemand corpus registry path demand = .ok (some failure)) :
      MemberVerdict corpus registry path (.members demands extra) (.failed failure)

theorem checkAll_eq_ok {bound : Nat} {demands : List Demand}
    {below : ∀ demand ∈ demands, demand.value.rank < bound} {outcome : Option Failure}
    (h : checkAll corpus registry path bound demands below = .ok outcome) :
    (outcome = none ∧ ∀ demand ∈ demands, checkDemand corpus registry path demand = .ok none) ∨
      ∃ demand ∈ demands, ∃ failure, outcome = some failure ∧
        checkDemand corpus registry path demand = .ok (some failure) := by
  induction demands generalizing outcome with
  | nil =>
    rw [checkAll] at h
    cases h
    exact .inl ⟨rfl, by simp⟩
  | cons demand rest ih =>
    rw [checkAll, bind_eq_ok] at h
    obtain ⟨first, hfirst, h⟩ := h
    cases first with
    | some failure =>
      rw [pure_eq_ok] at h
      subst h
      exact .inr ⟨demand, by simp, failure, rfl, hfirst⟩
    | none =>
      rcases ih h with ⟨rfl, hall⟩ | ⟨other, hm, failure, rfl, hf⟩
      · refine .inl ⟨rfl, fun d hd => ?_⟩
        rcases List.mem_cons.1 hd with rfl | hd
        · exact hfirst
        · exact hall d hd
      · exact .inr ⟨other, by simp [hm], failure, rfl, hf⟩

theorem checkAll_eq_none {bound : Nat} {demands : List Demand}
    {below : ∀ demand ∈ demands, demand.value.rank < bound}
    (met : ∀ demand ∈ demands, checkDemand corpus registry path demand = .ok none) :
    checkAll corpus registry path bound demands below = .ok none := by
  induction demands with
  | nil => rw [checkAll]
  | cons demand rest ih =>
    have first : check corpus registry [] (path ++ demand.steps) demand.types demand.value
        demand.filters false = .ok none := met demand (by simp)
    rw [checkAll, first]
    exact ih fun other ho => met other (by simp [ho])

theorem checkAll_of_none {bound : Nat} {demand : Demand} {rest : List Demand}
    {below : ∀ other ∈ demand :: rest, other.value.rank < bound}
    (h : checkDemand corpus registry path demand = .ok none) :
    checkAll corpus registry path bound (demand :: rest) below =
      checkAll corpus registry path bound rest
        fun other ho => below other (List.mem_cons_of_mem _ ho) := by
  rw [checkDemand] at h
  rw [checkAll, h]
  rfl

theorem checkAll_of_some {bound : Nat} {demand : Demand} {rest : List Demand} {failure : Failure}
    {below : ∀ other ∈ demand :: rest, other.value.rank < bound}
    (h : checkDemand corpus registry path demand = .ok (some failure)) :
    checkAll corpus registry path bound (demand :: rest) below = .ok (some failure) := by
  rw [checkDemand] at h
  rw [checkAll, h]
  rfl

theorem memberVerdict_of_checkAll {bound : Nat} {demands : List Demand}
    {extra : Except Fault (List Value)} {below : ∀ demand ∈ demands, demand.value.rank < bound}
    {verdict : Verdict}
    (h : (do
      let failure ← checkAll corpus registry path bound demands below
      Verdict.ofMembers path extra failure) = .ok verdict) :
    MemberVerdict corpus registry path (.members demands extra) verdict := by
  obtain ⟨outcome, ho, h⟩ := bind_eq_ok.1 h
  rcases checkAll_eq_ok ho with ⟨rfl, hall⟩ | ⟨demand, hm, failure, rfl, hf⟩
  · rcases Verdict.ofMembers_none_eq_ok.1 h with ⟨rfl, rfl⟩ | ⟨keys, failure, rfl, ne, told, rfl⟩
    · exact .met hall
    · exact .excess hall ne told
  · cases h
    exact .failed hm hf

/-! ## Types and blocks with names -/

/-- What a check of a type can give. -/
inductive TypeVerdict (corpus : Corpus) (registry : Registry) (closed : List BlockRef)
    (path : List Value) (type : TypeExpr) (value : Value) (strict : Bool) : Verdict → Prop
  | form {verdict : Verdict} (target : corpus.target? registry type = none)
      (members : MemberVerdict corpus registry path (type.shape value strict) verdict) :
      TypeVerdict corpus registry closed path type value strict verdict
  | again {ref : BlockRef} {block : Block} (target : corpus.target? registry type = some ref)
      (found : corpus.block? ref = some block) (mem : ref ∈ closed) :
      TypeVerdict corpus registry closed path type value strict
        (.failed (.ofType type.text value path (cycleMessage (type.name?.getD ""))))
  | entered {ref : BlockRef} {block : Block} {verdict : Verdict}
      (target : corpus.target? registry type = some ref) (found : corpus.block? ref = some block)
      (fresh : ref ∉ closed)
      (inside : checkBlock corpus (registry.chain ref.source) (ref :: closed) path block value
        (strict || block.strict) = .ok verdict) :
      TypeVerdict corpus registry closed path type value strict verdict

theorem checkType_cases {type : TypeExpr} {value : Value} {strict : Bool} {verdict : Verdict}
    (h : checkType corpus registry closed path type value strict = .ok verdict) :
    TypeVerdict corpus registry closed path type value strict verdict := by
  rw [checkType] at h
  split at h
  · rename_i ht
    split at h
    · rename_i hs
      cases h
      exact .form ht (hs ▸ .mismatch)
    · rename_i hs
      exact .form ht (hs ▸ memberVerdict_of_checkAll h)
  · rename_i ref ht
    split at h
    · rename_i hb
      obtain ⟨-, block, -, -, hb', -⟩ := Corpus.exists_block_of_target ht
      rw [hb] at hb'
      cases hb'
    · rename_i block hb
      split at h
      · rename_i hc
        cases h
        exact .again ht hb hc
      · rename_i hc
        exact .entered ht hb hc h

/-- A type that is no name and speaks of members. -/
theorem checkType_of_members {type : TypeExpr} {value : Value} {strict : Bool}
    {demands : List Demand} {extra : Except Fault (List Value)}
    (target : corpus.target? registry type = none)
    (shape : type.shape value strict = .members demands extra)
    (below : ∀ demand ∈ demands, demand.value.rank < value.rank) :
    checkType corpus registry closed path type value strict = (do
      let failure ← checkAll corpus registry path value.rank demands below
      Verdict.ofMembers path extra failure) := by
  unfold Corpus.target? at target
  rw [checkType]
  split
  · split
    · rename_i other
      cases other.symm.trans shape
    · rename_i other
      cases other.symm.trans shape
      rfl
  · rename_i other
    cases other.symm.trans target

/-- A type that is no name and asks nothing of members. -/
theorem checkType_of_plain {type : TypeExpr} {value : Value} {strict : Bool}
    (target : corpus.target? registry type = none)
    (plain : type.shape value strict = .members [] (.ok [])) :
    checkType corpus registry closed path type value strict = .ok .yes := by
  rw [checkType_of_members target plain (by simp), checkAll]
  rfl

/-- A type that is no name and that the value is not of. -/
theorem checkType_of_mismatch {type : TypeExpr} {value : Value} {strict : Bool}
    (target : corpus.target? registry type = none)
    (mismatch : type.shape value strict = .mismatch) :
    checkType corpus registry closed path type value strict = .ok .no := by
  unfold Corpus.target? at target
  rw [checkType]
  split
  · split
    · rfl
    · rename_i other
      cases other.symm.trans mismatch
  · rename_i other
    cases other.symm.trans target

/-- A block that is met again for the same value. -/
theorem checkType_of_mem {type : TypeExpr} {value : Value} {strict : Bool} {ref : BlockRef}
    {block : Block} (target : corpus.target? registry type = some ref)
    (found : corpus.block? ref = some block) (mem : ref ∈ closed) :
    checkType corpus registry closed path type value strict =
      .ok (.failed (.ofType type.text value path (cycleMessage (type.name?.getD "")))) := by
  unfold Corpus.target? at target
  rw [checkType]
  split
  · rename_i other
    cases other.symm.trans target
  · rename_i other
    cases other.symm.trans target
    split
    · rename_i missing
      cases missing.symm.trans found
    · exact dif_pos mem

/-- A block that is met for the first time. -/
theorem checkType_of_not_mem {type : TypeExpr} {value : Value} {strict : Bool} {ref : BlockRef}
    {block : Block} (target : corpus.target? registry type = some ref)
    (found : corpus.block? ref = some block) (fresh : ref ∉ closed) :
    checkType corpus registry closed path type value strict =
      checkBlock corpus (registry.chain ref.source) (ref :: closed) path block value
        (strict || block.strict) := by
  unfold Corpus.target? at target
  rw [checkType]
  split
  · rename_i other
    cases other.symm.trans target
  · rename_i other
    cases other.symm.trans target
    split
    · rename_i missing
      cases missing.symm.trans found
    · rename_i found'
      cases found'.symm.trans found
      exact dif_neg fresh

/-- What a check of a block with a name can give. -/
inductive BlockVerdict (corpus : Corpus) (registry : Registry) (closed : List BlockRef)
    (path : List Value) (block : Block) (value : Value) (strict : Bool) : Verdict → Prop
  | callback (function : block.elements.callback.isSome = true) :
      BlockVerdict corpus registry closed path block value strict
        (if value.isCallable then .yes else .no)
  | keys {verdict : Verdict} (other : block.elements.callback = none)
      (described : block.elements.property ≠ [])
      (members : MemberVerdict corpus registry path
        (Tag.shape block.elements.property value strict) verdict) :
      BlockVerdict corpus registry closed path block value strict verdict
  | synonym {tag : Tag} {outcome : Option Failure} (other : block.elements.callback = none)
      (bare : block.elements.property = []) (named : block.elements.typedef = some tag)
      (inside : check corpus registry closed path (block.elements.aliasTag tag).types value
        (block.elements.aliasTag tag).filters strict = .ok outcome) :
      BlockVerdict corpus registry closed path block value strict (.ofFailure outcome)

theorem checkBlock_cases {block : Block} {value : Value} {strict : Bool} {verdict : Verdict}
    (h : checkBlock corpus registry closed path block value strict = .ok verdict) :
    BlockVerdict corpus registry closed path block value strict verdict := by
  rw [checkBlock] at h
  split at h
  · rename_i hf
    cases h
    exact .callback hf
  · rename_i hf
    have other : block.elements.callback = none := by simpa using hf
    split at h
    · rename_i hp
      have described : block.elements.property ≠ [] := by simpa using hp
      split at h
      · rename_i hs
        cases h
        exact .keys other described (hs ▸ .mismatch)
      · rename_i hs
        exact .keys other described (hs ▸ memberVerdict_of_checkAll h)
    · rename_i hp
      have bare : block.elements.property = [] := by simpa using hp
      split at h
      · exact absurd h refuse_ne_ok
      · rename_i tag ht
        obtain ⟨outcome, ho, h⟩ := bind_eq_ok.1 h
        rw [pure_eq_ok] at h
        subst h
        exact .synonym other bare ht ho

/-- A block that stands for alternatives. -/
theorem checkBlock_of_synonym {block : Block} {value : Value} {strict : Bool} {tag : Tag}
    (other : block.elements.callback = none) (bare : block.elements.property = [])
    (named : block.elements.typedef = some tag) :
    checkBlock corpus registry closed path block value strict = (do
      let outcome ← check corpus registry closed path (block.elements.aliasTag tag).types value
        (block.elements.aliasTag tag).filters strict
      return .ofFailure outcome) := by
  rw [checkBlock, if_neg (by simp [other]), if_neg (by simp [bare])]
  split
  · rename_i unnamed
    cases named.symm.trans unnamed
  · rename_i tag' named'
    cases named.symm.trans named'
    rfl

/-! ## Alternatives

All alternatives before the one that decides were refused. The failure of the first is kept for
the case that all are, so an outcome tells that one and forgets the others. -/

/-- What a check of alternatives can give: the first that the value is of decides with its
filters, and when there is none, the failure of the very first alternative is told. -/
inductive UnionOutcome (corpus : Corpus) (registry : Registry) (closed : List BlockRef)
    (path : List Value) (types : List TypeExpr) (value : Value) (filters : List Filter)
    (strict : Bool) : Option Failure → Prop
  | first {before after : List TypeExpr} {type : TypeExpr} {outcome : Option Failure}
      (split : types = before ++ type :: after)
      (others : ∀ other ∈ before, ∃ verdict,
        checkType corpus registry closed path other value strict = .ok verdict ∧ verdict ≠ .yes)
      (matched : checkType corpus registry closed path type value strict = .ok .yes)
      (filtered : filterFailure? type filters value path = .ok outcome) :
      UnionOutcome corpus registry closed path types value filters strict outcome
  | none {type : TypeExpr} {rest : List TypeExpr} {verdict : Verdict} {failure : Failure}
      (split : types = type :: rest)
      (others : ∀ other ∈ types, ∃ verdict,
        checkType corpus registry closed path other value strict = .ok verdict ∧ verdict ≠ .yes)
      (failed : checkType corpus registry closed path type value strict = .ok verdict)
      (told : verdict.failure? type.text value path = some failure) :
      UnionOutcome corpus registry closed path types value filters strict (some failure)

/-- A failure of a filter stands where the value does, and tells the type of the filter. -/
theorem exists_ofFilter_of_filterFailure {type : TypeExpr} {filters : List Filter} {value : Value}
    {failure : Failure} (h : filterFailure? type filters value path = .ok (some failure)) :
    ∃ message filter, failure = .ofFilter type.text value path message filter := by
  unfold filterFailure? at h
  split at h
  · cases h
  · obtain ⟨failed, -, h⟩ := bind_eq_ok.1 h
    rw [pure_eq_ok] at h
    obtain ⟨⟨filter, message⟩, -, rfl⟩ := Option.map_eq_some_iff.1 h
    exact ⟨message, filter, rfl⟩

/-- The first alternative that a value is of decides with its filters. -/
theorem checkAny_of_yes {type : TypeExpr} {rest : List TypeExpr} {value : Value}
    {filters : List Filter} {strict : Bool} {first : Option Failure}
    (matched : checkType corpus registry closed path type value strict = .ok .yes) :
    checkAny corpus registry closed path (type :: rest) value filters strict first =
      filterFailure? type filters value path := by
  rw [checkAny, matched]
  rfl

/-- An alternative that a value is not of leaves the others, and the first failure is kept. -/
theorem checkAny_of_refused {type : TypeExpr} {rest : List TypeExpr} {value : Value}
    {filters : List Filter} {strict : Bool} {first : Option Failure} {verdict : Verdict}
    {failure : Failure}
    (failed : checkType corpus registry closed path type value strict = .ok verdict)
    (told : verdict.failure? type.text value path = some failure) :
    checkAny corpus registry closed path (type :: rest) value filters strict first =
      checkAny corpus registry closed path rest value filters strict (first <|> some failure) := by
  rw [checkAny, failed]
  simp only [bind, Except.bind, told]

/-- The alternatives from some place on, when an earlier one has failed already. -/
theorem checkAny_of_some {types : List TypeExpr} {value : Value} {filters : List Filter}
    {strict : Bool} {failure : Failure} {outcome : Option Failure}
    (h : checkAny corpus registry closed path types value filters strict (some failure) =
      .ok outcome) :
    (outcome = some failure ∧ ∀ other ∈ types, ∃ verdict,
        checkType corpus registry closed path other value strict = .ok verdict ∧
          verdict ≠ .yes) ∨
      ∃ before type after, types = before ++ type :: after ∧
        (∀ other ∈ before, ∃ verdict,
          checkType corpus registry closed path other value strict = .ok verdict ∧
            verdict ≠ .yes) ∧
        checkType corpus registry closed path type value strict = .ok .yes ∧
        filterFailure? type filters value path = .ok outcome := by
  induction types with
  | nil =>
    rw [checkAny] at h
    cases h
    exact .inl ⟨rfl, by simp⟩
  | cons type rest ih =>
    rw [checkAny, bind_eq_ok] at h
    obtain ⟨verdict, hv, h⟩ := h
    split at h
    · rename_i hyes
      rw [Verdict.failure?_eq_none.1 hyes] at hv
      exact .inr ⟨[], type, rest, rfl, by simp, hv, h⟩
    · rename_i hno
      have hne : verdict ≠ .yes := by
        rintro rfl
        cases hno
      -- The first was refused, so it stands in front of all that were refused after it.
      have others : ∀ {before : List TypeExpr}, (∀ other ∈ before, ∃ verdict,
          checkType corpus registry closed path other value strict = .ok verdict ∧
            verdict ≠ .yes) → ∀ other ∈ type :: before, ∃ verdict,
          checkType corpus registry closed path other value strict = .ok verdict ∧
            verdict ≠ .yes := by
        intro before hb other ho
        rcases List.mem_cons.1 ho with rfl | ho
        · exact ⟨verdict, hv, hne⟩
        · exact hb other ho
      rcases ih h with ⟨ho, hall⟩ | ⟨before, other, after, hsplit, hbefore, hm, hf⟩
      · exact .inl ⟨ho, others hall⟩
      · exact .inr ⟨type :: before, other, after, by rw [hsplit]; rfl, others hbefore, hm, hf⟩

theorem check_cases {types : List TypeExpr} {value : Value} {filters : List Filter}
    {strict : Bool} {outcome : Option Failure}
    (h : check corpus registry closed path types value filters strict = .ok outcome) :
    UnionOutcome corpus registry closed path (alternatives types) value filters strict
      outcome := by
  rw [check] at h
  cases ht : alternatives types with
  | nil => exact absurd ht (alternatives_ne_nil types)
  | cons type rest =>
    rw [ht, checkAny, bind_eq_ok] at h
    obtain ⟨verdict, hv, h⟩ := h
    split at h
    · rename_i hyes
      rw [Verdict.failure?_eq_none.1 hyes] at hv
      exact .first (show type :: rest = [] ++ type :: rest from rfl) (by simp) hv h
    · rename_i failure hno
      have hne : verdict ≠ .yes := by
        rintro rfl
        cases hno
      have first : ∃ verdict,
          checkType corpus registry closed path type value strict = .ok verdict ∧
            verdict ≠ .yes := ⟨verdict, hv, hne⟩
      rcases checkAny_of_some h with ⟨rfl, hall⟩ | ⟨before, other, after, rfl, hbefore, hm, hf⟩
      · refine .none rfl (fun other ho => ?_) hv hno
        rcases List.mem_cons.1 ho with rfl | ho
        · exact first
        · exact hall other ho
      · refine .first (List.cons_append).symm (fun other ho => ?_) hm hf
        rcases List.mem_cons.1 ho with rfl | ho
        · exact first
        · exact hbefore other ho

end Docblock
