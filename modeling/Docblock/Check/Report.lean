import Docblock.Check.Checker

/-!
# Checking values against blocks

A block of a source can be taken as a schema in several ways: its parameters describe arguments or
the keys of an object, its single tags describe a value, and a block with a name describes the
values of a type. Each way gives a report. Only a block that cannot be taken in a way at all is a
fault.

A report holds at most one failure, the first that the order of the tags comes to. Whether a failure
is told to the caller or raised makes no difference to what it says, and is left to whoever asks.
-/

namespace Docblock

/-- The outcome of a check: the tag that it was about, and the failure if there is one. -/
structure Report where
  tag : Option TagKind
  failure : Option Failure
  deriving Repr

variable [AddressTest]

namespace Report

/-- Whether the value passes. -/
def passed (report : Report) : Bool := report.failure.isNone

/-- A report whose failure has a message. -/
def explained (tag : TagKind) (what : String) (depth : Nat) :
    Option Failure → Except Fault Report
  | none => .ok ⟨some tag, none⟩
  | some failure => do return ⟨some tag, some (← failure.explain what depth)⟩

/-- A report of a value that passes; one of a failure is raised instead. -/
def orRaise (report : Report) : Except Report Report :=
  if report.passed then .ok report else .error report

end Report

/-- Check a value against types whose names are resolved in a registry. -/
def Corpus.checkTypes (corpus : Corpus) (registry : Registry) (types : List TypeExpr)
    (value : Value) (filters : List Filter) : Except Fault Report := do
  return ⟨none, ← check corpus registry [] [] types value filters false⟩

/-- A block of a source with all that it sees, and whether undeclared keys are refused even where
the block does not say so. -/
structure Schema where
  corpus : Corpus
  source : Nat
  block : Block
  forceStrict : Bool

namespace Schema

/-- Whether undeclared keys are refused. -/
def strict (schema : Schema) : Bool := schema.block.strict || schema.forceStrict

/-- What the block says. -/
def elements (schema : Schema) : Elements := schema.block.elements

/-- The sources whose names the block sees. -/
def registry (schema : Schema) : Registry := [schema.source]

/-! ## Arguments -/

/-- The argument, or the member of one, that a parameter speaks of, and the keys that lead from
the argument to it. -/
def argumentOf (args : List Value) (tag : Tag) : Value × List Value :=
  let arg := args[tag.place]?.getD .undefined
  match tag.member with
  | some (_, member) => (arg.member (.string member), [.string member])
  | none => (arg, [])

/-- The first failure of arguments. -/
def checkArguments (schema : Schema) (args : List Value) :
    List Tag → Except Fault (Option Failure)
  | [] => .ok none
  | tag :: rest => do
    let (arg, path) := argumentOf args tag
    if tag.optional && arg.isUndefined then checkArguments schema args rest
    else
      match ← check schema.corpus schema.registry [] path tag.types arg tag.filters false with
      | some failure => return some failure
      | none => checkArguments schema args rest

/-- The number of arguments that parameters declare. -/
def arity (tags : List Tag) : Nat := tags.foldl (fun n tag => max n (tag.place + 1)) 0

/-- The failure of too many arguments. -/
def excess? (schema : Schema) (args : List Value) : Option Failure :=
  let declared := arity schema.elements.param
  if schema.strict && declared < args.length then
    some (.ofExcess [] ("Expected at most " ++ toString declared ++ " arguments, but got " ++
      toString args.length))
  else none

/-- Check arguments by their places against the parameters. -/
def reportArguments (schema : Schema) (args : List Value) : Except Fault Report := do
  let failure ← schema.checkArguments args schema.elements.param
  Report.explained .param "argument" 0 (failure <|> schema.excess? args)

/-! ## Keys of an object -/

/-- The tags that describe the keys of an object, by their word. -/
def keyTags? (schema : Schema) (name : String) : Option (TagKind × List Tag) :=
  if name = TagKind.param.name then some (.param, schema.elements.param)
  else if name = TagKind.property.name then some (.property, schema.elements.property)
  else none

/-- How a value stands to tags that describe its keys. -/
def checkKeys (schema : Schema) (tags : List Tag) (value : Value) : Except Fault Verdict :=
  match h : Tag.shape tags value schema.strict with
  | .mismatch => .ok .no
  | .members demands extra => do
    let failure ← checkAll schema.corpus schema.registry [] value.rank demands fun demand hd =>
      Tag.rank_lt_of_mem_demands (by rw [h]; exact hd)
    Verdict.ofMembers [] extra failure

/-- How a message names the key that a failure begins with. -/
def keyText (failure : Failure) : Except Fault String :=
  match failure.path with
  | key :: _ => do return "\"" ++ (← key.text) ++ "\""
  | [] => .ok "value"

/-- Check an object against the tags with this word that describe its keys. -/
def reportKeys (schema : Schema) (name : String) (value : Value) : Except Fault Report :=
  match schema.keyTags? name with
  | none => refuse (.notProperties name)
  | some (kind, tags) => do
    match ← schema.checkKeys tags value with
    | .yes => return ⟨some kind, none⟩
    | .no => Report.explained kind "value" 0 (some (.ofType "Object" value [] ""))
    | .failed failure => Report.explained kind (← keyText failure) 1 (some failure)

/-! ## Single tags -/

/-- Check a value against the single tag of a kind. Without the tag only the absent value
passes. -/
def reportSingle (schema : Schema) (kind : TagKind) (value : Value) : Except Fault Report :=
  match schema.elements.single? kind with
  | none =>
    let failure := if value.isUndefined then none
      else some (Failure.ofType "undefined" value [] "")
    Report.explained kind "value" 0 failure
  | some tag => do
    let failure ← check schema.corpus schema.registry [] [] tag.types value tag.filters
      schema.strict
    Report.explained kind "value" 0 failure

/-- Check a value against the single tag with this word. -/
def reportTag (schema : Schema) (name : String) (value : Value) : Except Fault Report :=
  match TagKind.singles.find? (·.name = name) with
  | none => refuse .notSingle
  | some kind => schema.reportSingle kind value

/-! ## Blocks with a name -/

/-- What a block with a name is called in the failure of a value that it says nothing more of. -/
def typedefText (tag : Tag) : String := if tag.typeText = "" then "Object" else tag.typeText

/-- Check a value against a block that has a name. -/
def reportTypedef (schema : Schema) (value : Value) : Except Fault Report :=
  match schema.block.typedefTag? with
  | none => refuse .notTypedef
  | some tag => do
    let kind := if schema.elements.typedef.isSome then .typedef else .callback
    let verdict ← checkBlock schema.corpus schema.registry [] [] schema.block value schema.strict
    Report.explained kind "value" 0 (verdict.failure? (typedefText tag) value [])

/-! ## Whole blocks -/

/-- Check a value against the first that a block has of the enum tag, the type tag, its name and
its parameters. -/
def report (schema : Schema) (value : Value) : Except Fault Report :=
  if schema.elements.enum.isSome then schema.reportSingle .enum value
  else if schema.elements.type.isSome then schema.reportSingle .type value
  else if schema.elements.typedef.isSome then schema.reportTypedef value
  else if !schema.elements.param.isEmpty then schema.reportKeys TagKind.param.name value
  else .error (.schema .noSchemaTag (some schema.block.location))

/-- Whether a value passes. -/
def approves (schema : Schema) (value : Value) : Except Fault Bool := do
  return (← schema.report value).passed

end Schema

end Docblock
