import Docblock.Check.Demand
import Docblock.Check.Failure
import Docblock.Corpus

/-!
# Checking values against types

A value is checked against alternatives in order. The first that it is of decides, together with the
filters of its category; when it is of none, the failure of the first alternative is told. A name is
resolved in a registry, which then also lists the source of the block that is meant. A block that is
met again for the same value fails, so the check ends: it goes into members, or closes a block that
was open, or goes on to a part of what it has.

The functions are one recursion over three kinds of things that a value can be checked against. What
an alternative has found out is a value that is returned or dropped, and nothing is written on the
way. Neither is anything remembered from one member to the next, so a block can be entered anew for
each of them.
-/

namespace Docblock

variable [AddressTest]

/-- The registry in which the names of a block of a source are resolved. -/
def Registry.chain (registry : Registry) (source : Nat) : Registry :=
  if registry.contains source then registry else registry ++ [source]

/-- The failure of a value that is of a type but does not meet a filter. -/
def filterFailure? (type : TypeExpr) (filters : List Filter) (value : Value)
    (path : List Value) : Except Fault (Option Failure) :=
  match type.category? with
  | none => .ok none
  | some category => do
    let failed ← Filter.firstFault? category value filters
    return failed.map fun (filter, message) => .ofFilter type.text value path message filter

/-- The message about a block that is met again for the same value. -/
def cycleMessage (name : String) : String :=
  "Typedef " ++ name ++ " refers back to itself while validating the same value"

/-- The alternatives of a list of types; an empty list admits any value. -/
def alternatives (types : List TypeExpr) : List TypeExpr :=
  if types.isEmpty then [.any "*"] else types

/-- The tag whose types a block with a name stands for. A tag without a type leaves that to the
type tag beside it. -/
def Elements.aliasTag (elements : Elements) (tag : Tag) : Tag :=
  if tag.typeText = "" then elements.type.getD tag else tag

mutual

/-- The failure of a value at a path, if it is of none of the types or does not meet a filter.
`closed` holds the blocks that are being checked for this value. -/
def check (corpus : Corpus) (registry : Registry) (closed : List BlockRef) (path : List Value)
    (types : List TypeExpr) (value : Value) (filters : List Filter) (strict : Bool) :
    Except Fault (Option Failure) :=
  checkAny corpus registry closed path (alternatives types) value filters strict none
termination_by (2 * value.rank + 1, corpus.countOpen closed, 2, 0)
decreasing_by exact Prod.Lex.right _ (Prod.Lex.right _ (Prod.Lex.left _ _ (by omega)))

/-- The failure of a value that is of none of the types left; `first` is that of the first type,
once that has been tried. -/
def checkAny (corpus : Corpus) (registry : Registry) (closed : List BlockRef)
    (path : List Value) (types : List TypeExpr) (value : Value) (filters : List Filter)
    (strict : Bool) (first : Option Failure) : Except Fault (Option Failure) :=
  match types with
  | [] => .ok first
  | type :: rest => do
    let verdict ← checkType corpus registry closed path type value strict
    match verdict.failure? type.text value path with
    | none => filterFailure? type filters value path
    | some failure =>
      checkAny corpus registry closed path rest value filters strict (first <|> some failure)
termination_by (2 * value.rank + 1, corpus.countOpen closed, 1, types.length)
decreasing_by
  · exact Prod.Lex.right _ (Prod.Lex.right _ (Prod.Lex.left _ _ (by omega)))
  · exact Prod.Lex.right _ (Prod.Lex.right _ (Prod.Lex.right _ (by simp)))

/-- How a value at a path stands to a type. -/
def checkType (corpus : Corpus) (registry : Registry) (closed : List BlockRef)
    (path : List Value) (type : TypeExpr) (value : Value) (strict : Bool) :
    Except Fault Verdict :=
  match type.name?.bind (corpus.resolve registry) with
  | none =>
    -- No block has the name, or the type is no name: its own form decides.
    match _h : type.shape value strict with
    | .mismatch => .ok .no
    | .members demands extra => do
      let failure ← checkAll corpus registry path value.rank demands fun demand hd =>
        TypeExpr.rank_lt_of_mem_demands (by rw [_h]; exact hd)
      Verdict.ofMembers path extra failure
  | some ref =>
    match _h : corpus.block? ref with
    | none => .ok .no
    | some block =>
      if _hc : ref ∈ closed then
        -- The block is being checked for this value already.
        .ok (.failed (.ofType type.text value path (cycleMessage (type.name?.getD ""))))
      else
        checkBlock corpus (registry.chain ref.source) (ref :: closed) path block value
          (strict || block.strict)
termination_by (2 * value.rank + 1, corpus.countOpen closed, 0, 0)
decreasing_by
  · exact Prod.Lex.left _ _ (by omega)
  · exact Prod.Lex.right _ (Prod.Lex.left _ _ (Corpus.countOpen_cons_lt _h _hc))

/-- How a value at a path stands to a block that has a name. -/
def checkBlock (corpus : Corpus) (registry : Registry) (closed : List BlockRef)
    (path : List Value) (block : Block) (value : Value) (strict : Bool) :
    Except Fault Verdict :=
  -- A block of a function says nothing of what it takes or returns.
  if block.elements.callback.isSome then .ok (if value.isCallable then .yes else .no)
  else if !block.elements.property.isEmpty then
    match _h : Tag.shape block.elements.property value strict with
    | .mismatch => .ok .no
    | .members demands extra => do
      let failure ← checkAll corpus registry path value.rank demands fun demand hd =>
        Tag.rank_lt_of_mem_demands (by rw [_h]; exact hd)
      Verdict.ofMembers path extra failure
  else
    match block.elements.typedef with
    | none => refuse .notTypedef
    | some tag => do
      let tag := block.elements.aliasTag tag
      return .ofFailure
        (← check corpus registry closed path tag.types value tag.filters strict)
termination_by (2 * value.rank + 1, corpus.countOpen closed, 3, 0)
decreasing_by
  · exact Prod.Lex.left _ _ (by omega)
  · exact Prod.Lex.right _ (Prod.Lex.right _ (Prod.Lex.left _ _ (by omega)))

/-- The first failure among demands on members of a value at a path. The members have a rank below
a bound. -/
def checkAll (corpus : Corpus) (registry : Registry) (path : List Value) (bound : Nat)
    (demands : List Demand) (below : ∀ demand ∈ demands, demand.value.rank < bound) :
    Except Fault (Option Failure) :=
  match demands with
  | [] => .ok none
  | demand :: rest => do
    -- A member is another value, so every block is open for it again.
    let failure ← check corpus registry [] (path ++ demand.steps) demand.types demand.value
      demand.filters false
    match failure with
    | some failure => return some failure
    | none =>
      checkAll corpus registry path bound rest fun other ho =>
        below other (List.mem_cons_of_mem _ ho)
termination_by (2 * bound, 0, 0, demands.length)
decreasing_by
  · have := below demand (by simp)
    exact Prod.Lex.left _ _ (by omega)
  · exact Prod.Lex.right _ (Prod.Lex.right _ (Prod.Lex.right _ (by simp)))

end

end Docblock
