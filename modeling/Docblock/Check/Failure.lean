import Docblock.Filter.Check

/-!
# Failures

How a value fails a check: it is of no admitted type, a filter is not met, or keys are there that
are not declared. The path leads from the checked value to the one that fails.

Messages are written as late as can be. The one about a type is left empty until the failure is
told, since most failures are those of alternatives that are dropped again. The one about undeclared
keys is written at once, and a check can break off for it.
-/

namespace Docblock

/-- The kinds of failures. -/
inductive FailureKind where
  | type
  | filter
  | strict
  deriving DecidableEq, Repr

/-- The word for a kind of failure. -/
def FailureKind.name : FailureKind → String
  | type => "type"
  | filter => "filter"
  | strict => "strict"

/-- A failure of a value. An empty message stands for the one that follows from the rest. -/
structure Failure where
  kind : FailureKind
  expected : String
  value : Value
  path : List Value
  message : String
  filter : Option Filter
  deriving Repr

namespace Failure

/-- A value at a path is not of the expected type. -/
def ofType (expected : String) (value : Value) (path : List Value) (message : String) : Failure :=
  ⟨.type, expected, value, path, message, none⟩

/-- A value at a path does not meet a filter. -/
def ofFilter (expected : String) (value : Value) (path : List Value) (message : String)
    (filter : Filter) : Failure :=
  ⟨.filter, expected, value, path, message, some filter⟩

/-- What is at a path is too much, as the message tells. -/
def ofExcess (path : List Value) (message : String) : Failure :=
  ⟨.strict, "", .undefined, path, message, none⟩

/-- The end of a message: the path, when it is longer than `depth`. -/
def placeText (depth : Nat) (path : List Value) : Except Fault String :=
  if depth < path.length then do return " at " ++ (← Value.pathText path) else .ok ""

/-- The message about keys that are not declared. -/
def extraMessage (extra path : List Value) : Except Fault String := do
  let names ← extra.mapM Value.text
  let quoted := names.map fun name => "\"" ++ name ++ "\""
  return "Unexpected " ++ (if extra.length = 1 then "key " else "keys ") ++
    ", ".intercalate quoted ++ " in strict schema" ++ (← placeText 0 path)

/-- The value at a path has keys that are not declared. -/
def ofExtraKeys (extra path : List Value) : Except Fault Failure := do
  return ofExcess path (← extraMessage extra path)

/-- The message that follows from a failure: `what` names the checked value, and a path is shown
when it is longer than `depth`. -/
def defaultMessage (what : String) (depth : Nat) (failure : Failure) : Except Fault String := do
  return "Expected " ++ what ++ " to be of type " ++ failure.expected ++ ", but the actual " ++
    failure.value.describe ++ (← placeText depth failure.path)

/-- A failure with a message. -/
def explain (what : String) (depth : Nat) (failure : Failure) : Except Fault Failure :=
  if failure.message = "" then do
    return { failure with message := ← failure.defaultMessage what depth }
  else .ok failure

end Failure

/-- How a value stands to a type: it is of the type, it is not, or it is not for a reason that
lies in a member. -/
inductive Verdict where
  | yes
  | no
  | failed (failure : Failure)
  deriving Repr

namespace Verdict

/-- The verdict on a value of which nothing else is to be asked. -/
def ofFailure : Option Failure → Verdict
  | none => yes
  | some failure => failed failure

/-- The verdict on a value at a path after its members were checked. -/
def ofMembers (path : List Value) (extra : Except Fault (List Value)) :
    Option Failure → Except Fault Verdict
  | some failure => .ok (failed failure)
  | none => do
    let extra ← extra
    if extra.isEmpty then return yes else return failed (← Failure.ofExtraKeys extra path)

/-- The failure that a verdict means for a value at a path that should be of a type. -/
def failure? (expected : String) (value : Value) (path : List Value) : Verdict → Option Failure
  | yes => none
  | no => some (.ofType expected value path "")
  | failed failure => some failure

end Verdict

end Docblock
