import Docblock.Check.Report
import Docblock.Proofs.Outcome

/-!
# A check as it is carried out

The checker writes what fails, and where, on one pad. It keeps the keys that lead to the value on
the pad too, and takes back what an alternative wrote that led nowhere. A block that is being
checked is marked together with the value it is checked for; the mark stays while members of the
value are checked, and is gone when the block is done.

Nothing here says that a check ends: a `Trial` need not (`Trial.outcome`), and the recursion has no
measure. Blocks come from a `Directory`, so they may mean each other in any way. What stands for a
value in a mark is a parameter, `identity`.

This is the checker once more, as a program with a state. The one that runs has no pad: it returns
failures, and cannot leave anything behind. What is claimed of states, that they are taken back and
that nothing is left, would be empty if it were said of that one. Here it can fail, and the two are
proved to give the same.
-/

namespace Docblock

/-! ## The pad -/

/-- What is written down during a check: the failure, once there is one, and the keys that lead
to the value. -/
structure Pad where
  kind : Option FailureKind
  expected : String
  value : Value
  path : List Value
  message : String
  filter : Option Filter

namespace Pad

/-- A pad on which no failure stands. -/
def clean (path : List Value) : Pad := ⟨none, "", .undefined, path, "", none⟩

/-- A pad on which a failure stands. -/
def ofFailure (failure : Failure) : Pad :=
  ⟨some failure.kind, failure.expected, failure.value, failure.path, failure.message,
    failure.filter⟩

/-- Write down a failure at the path that stands on the pad. -/
def note (kind : FailureKind) (expected : String) (value : Value) (message : String) (pad : Pad) :
    Pad :=
  { pad with kind := some kind, expected, value, message }

/-- Write down a failure of a filter. -/
def noteFilter (expected : String) (value : Value) (message : String) (filter : Filter)
    (pad : Pad) : Pad :=
  { pad.note .filter expected value message with filter := some filter }

/-- Go to a member. -/
def enter (steps : List Value) (pad : Pad) : Pad := { pad with path := pad.path ++ steps }

/-- Go back from a member over a number of keys. -/
def leave (count : Nat) (pad : Pad) : Pad :=
  { pad with path := pad.path.take (pad.path.length - count) }

@[simp] theorem path_clean (path : List Value) : (clean path).path = path := rfl

@[simp] theorem enter_clean (path steps : List Value) :
    (clean path).enter steps = clean (path ++ steps) := rfl

/-- The way back from a member is the way that led there. -/
@[simp] theorem leave_enter (steps : List Value) (pad : Pad) :
    (pad.enter steps).leave steps.length = pad := by
  simp [leave, enter]

@[simp] theorem leave_clean_append (path steps : List Value) :
    (clean (path ++ steps)).leave steps.length = clean path := leave_enter steps (clean path)

end Pad

/-! ## Trials -/

/-- Steps that write on a pad. They can break off with a fault, and need not end. -/
abbrev Trial := StateT Pad (ExceptT Fault Option)

namespace Trial

variable {α β : Type}

/-- What steps come to from a pad: nothing when they do not end. -/
def outcome (x : Trial α) (pad : Pad) : Option (Except Fault (α × Pad)) := (x.run pad).run

/-- A step that gives a result or breaks off, and leaves the pad as it is. -/
def lift (x : Except Fault α) : Trial α := fun pad => ExceptT.mk (some (x.map (·, pad)))

@[simp] theorem outcome_pure (a : α) (pad : Pad) :
    (pure a : Trial α).outcome pad = some (.ok (a, pad)) := rfl

@[simp] theorem outcome_get (pad : Pad) : (get : Trial Pad).outcome pad = some (.ok (pad, pad)) :=
  rfl

@[simp] theorem outcome_set (pad pad' : Pad) :
    (set pad' : Trial PUnit).outcome pad = some (.ok (⟨⟩, pad')) := rfl

@[simp] theorem outcome_modify (f : Pad → Pad) (pad : Pad) :
    (modify f : Trial PUnit).outcome pad = some (.ok (⟨⟩, f pad)) := rfl

@[simp] theorem outcome_lift (x : Except Fault α) (pad : Pad) :
    (lift x).outcome pad = some (x.map (·, pad)) := rfl

/-- Steps that break off leave nothing for the steps after them. -/
theorem outcome_bind (x : Trial α) (f : α → Trial β) (pad : Pad) :
    (x >>= f).outcome pad = (x.outcome pad).bind fun
      | .ok (a, pad') => (f a).outcome pad'
      | .error fault => some (.error fault) := by
  show (x pad >>= fun step => (f step.1).run step.2 : ExceptT Fault Option (β × Pad)).run = _
  rw [ExceptT.run_bind]
  show (x.outcome pad).bind _ = _
  cases x.outcome pad with
  | none => rfl
  | some result => cases result <;> rfl

theorem outcome_bind_of_ok {x : Trial α} {f : α → Trial β} {pad pad' : Pad} {a : α}
    (h : x.outcome pad = some (.ok (a, pad'))) :
    (x >>= f).outcome pad = (f a).outcome pad' := by
  rw [outcome_bind, h]
  rfl

theorem outcome_bind_of_error {x : Trial α} {f : α → Trial β} {pad : Pad} {fault : Fault}
    (h : x.outcome pad = some (.error fault)) :
    (x >>= f).outcome pad = some (.error fault) := by
  rw [outcome_bind, h]
  rfl

/-- Write down a failure: the value does not pass. -/
def fail (note : Pad → Pad) : Trial Bool := do
  modify note
  return false

@[simp] theorem outcome_fail (note : Pad → Pad) (pad : Pad) :
    (fail note).outcome pad = some (.ok (false, note pad)) := rfl

end Trial

/-! ## Directories -/

/-- Finitely many blocks, and what names mean among them. Names are looked up in a registry of any
kind, and another registry is used inside a block. -/
structure Directory (ρ : Type) where
  refs : List BlockRef
  resolve : ρ → String → Option (BlockRef × Block)
  mem_refs : ∀ {registry name ref block}, resolve registry name = some (ref, block) → ref ∈ refs
  chain : ρ → BlockRef → ρ

/-- The block that a type means, when it is a name that a block has. -/
def Directory.target? {ρ : Type} (names : Directory ρ) (registry : ρ) (type : TypeExpr) :
    Option (BlockRef × Block) :=
  type.name?.bind (names.resolve registry)

theorem Directory.mem_refs_of_target {ρ : Type} {names : Directory ρ} {registry : ρ}
    {type : TypeExpr} {ref : BlockRef} {block : Block}
    (h : names.target? registry type = some (ref, block)) : ref ∈ names.refs := by
  obtain ⟨name, -, hr⟩ := Option.bind_eq_some_iff.1 h
  exact names.mem_refs hr

/-- The blocks of the sources that have been read. -/
def Corpus.directory (corpus : Corpus) : Directory Registry where
  refs := corpus.refs
  resolve registry name :=
    (corpus.resolve registry name).bind fun ref => (corpus.block? ref).map (ref, ·)
  mem_refs := by
    intro registry name ref block h
    obtain ⟨ref', -, h⟩ := Option.bind_eq_some_iff.1 h
    obtain ⟨block', hb, h⟩ := Option.map_eq_some_iff.1 h
    cases h
    exact mem_refs hb
  chain registry ref := registry.chain ref.source

/-! ## The recursion -/

namespace Directory

open Trial

section

variable {ρ ι : Type} [DecidableEq ι] [AddressTest]

mutual

/-- Check a value against alternatives. What an alternative writes is taken back, but the failure
of the first is kept for the case that there is no other. -/
def check (names : Directory ρ) (identity : List Value → Value → ι) (registry : ρ)
    (resolving : List (BlockRef × ι)) (types : List TypeExpr) (value : Value)
    (filters : List Filter) (strict : Bool) : Trial Bool := do
  let start ← get
  names |>.checkAny identity registry resolving start none (alternatives types) value filters strict
partial_fixpoint

/-- Check a value against the alternatives left, from the pad at the start. `first` is the first
alternative, once that has been tried, and the pad after it. -/
def checkAny (names : Directory ρ) (identity : List Value → Value → ι) (registry : ρ)
    (resolving : List (BlockRef × ι)) (start : Pad) (first : Option (String × Pad))
    (types : List TypeExpr) (value : Value) (filters : List Filter) (strict : Bool) :
    Trial Bool :=
  match types with
  | [] =>
    match first with
    | none => return false
    | some (text, failed) => do
      set failed
      if failed.kind.isSome then return false else fail (.note .type text value "")
  | type :: rest => do
    if ← names |>.checkType identity registry resolving type value strict then
      set start
      match type.category? with
      | none => return true
      | some category =>
        match ← lift (Filter.firstFault? category value filters) with
        | none => return true
        | some (filter, message) => fail (.noteFilter type.text value message filter)
    else
      let failed ← get
      set start
      names |>.checkAny identity registry resolving start (first <|> some (type.text, failed)) rest
        value filters strict
partial_fixpoint

/-- Check a value against one type. -/
def checkType (names : Directory ρ) (identity : List Value → Value → ι) (registry : ρ)
    (resolving : List (BlockRef × ι)) (type : TypeExpr) (value : Value) (strict : Bool) :
    Trial Bool :=
  match names.target? registry type with
  | none => names |>.checkShape identity registry resolving (type.shape value strict)
  | some (ref, block) => do
    let mark := (ref, identity (← get).path value)
    if mark ∈ resolving then
      fail (.note .type type.text value (cycleMessage (type.name?.getD "")))
    else
      names |>.checkBlock identity (names.chain registry ref) (mark :: resolving) block value
        (strict || block.strict)
partial_fixpoint

/-- Check a value against a block that has a name. -/
def checkBlock (names : Directory ρ) (identity : List Value → Value → ι) (registry : ρ)
    (resolving : List (BlockRef × ι)) (block : Block) (value : Value) (strict : Bool) :
    Trial Bool :=
  if block.elements.callback.isSome then return value.isCallable
  else if !block.elements.property.isEmpty then
    names |>.checkShape identity registry resolving
      (Tag.shape block.elements.property value strict)
  else
    match block.elements.typedef with
    | none => lift (refuse .notTypedef)
    | some tag =>
      let tag := block.elements.aliasTag tag
      names |>.check identity registry resolving tag.types value tag.filters strict
partial_fixpoint

/-- Check what is said of the members of a value. -/
def checkShape (names : Directory ρ) (identity : List Value → Value → ι) (registry : ρ)
    (resolving : List (BlockRef × ι)) (shape : Shape) : Trial Bool :=
  match shape with
  | .mismatch => return false
  | .members demands extra => names |>.checkAll identity registry resolving demands extra
partial_fixpoint

/-- Check the members that demands speak of, and that no keys are left that are too much. -/
def checkAll (names : Directory ρ) (identity : List Value → Value → ι) (registry : ρ)
    (resolving : List (BlockRef × ι)) (demands : List Demand)
    (extra : Except Fault (List Value)) : Trial Bool :=
  match demands with
  | [] => do
    let keys ← lift extra
    if keys.isEmpty then return true
    else do
      let message ← lift (Failure.extraMessage keys (← get).path)
      fail (.note .strict "" .undefined message)
  | demand :: rest => do
    modify (.enter demand.steps)
    if ← names |>.check identity registry resolving demand.types demand.value demand.filters
        false then
      modify (.leave demand.steps.length)
      names |>.checkAll identity registry resolving rest extra
    else return false
partial_fixpoint

end

end

end Directory

end Docblock
