import Docblock.Filter.Literal
import Docblock.Schema.Basic
import Docblock.Value.Member

/-!
# Descriptions and their filters

What follows a tag's name, or a field's remark, is a description, and a filter literal may stand in
it. The filters have to be allowed for every type of the tag or field; a type that only marks a
value as missing allows any.

The literal is what the first brace and the one that closes it enclose, as far as braces can be
counted. It is cut out before it is read, so that a brace in a string of it counts like any other.
-/

namespace Docblock.Filter

open Text

/-- The word for the kind of a value. -/
def kindName (value : Value) : String :=
  match [Kind.boolean, .number, .string, .regex].find? (·.admits value) with
  | some kind => kind.name
  | none => value.typeName

/-- Filters as they are shown when the text they were read from is not known. -/
def shown (filters : List Filter) : Except Fault String :=
  (Value.mapping (filters.map fun filter =>
    (.string filter.name, .tuple [filter.value, .string filter.message]))).text

/-- A filter has to be known to the category, with a value of its kind; a step is not zero. The
filters are only written where one is refused. -/
def checkOne (category : Category) (shown : Except Fault String) (filter : Filter) :
    Except Fault Unit :=
  match category.rule? filter.name with
  | none => refuse (.filterName filter.name category)
  | some rule =>
    if !rule.kind.admits filter.value then do
      refuse (.filterKind filter.name (kindName filter.value) rule.kind (← shown))
    else if rule = .step && filter.value.eqv (.int 0) then do refuse (.zeroStep (← shown))
    else .ok ()

/-- The filters have to be allowed for a type. `literal` is the text that they were read from,
which is empty when there is none. -/
def checkAllowed (literal : String) (filters : List Filter) (type : TypeExpr) :
    Except Fault Unit :=
  if filters.isEmpty || type.isNullish then .ok ()
  else
    match type.category? with
    | none => refuse (.filtersOnType type.text)
    | some category =>
      let shown := if literal = "" then shown filters else .ok literal
      filters.forM (checkOne category shown)

/-- A text on one line, without the dash that may begin it. -/
def flatten (cs : List Char) : List Char :=
  let start := trimStart cs
  let start := match start with
    | '-' :: rest => trimStart rest
    | _ => start
  (start.filter (· != '\r')).map fun c => if c = '\n' then ' ' else c

/-- The parts of a flat text before, in and after its first pair of braces. -/
def splitBraces? (cs : List Char) : Option (List Char × List Char × List Char) := do
  let before := cs.takeWhile (· != '{')
  let rest := cs.drop before.length
  let offset ← closingBracket? rest
  return (before, rest.take (offset + 1), rest.drop (offset + 1))

/-- The description and the filters of a text, which have to be allowed for all of the types. -/
def ofTail (cs : List Char) (types : List TypeExpr) : Except Fault (String × List Filter) := do
  let flat := flatten cs
  match splitBraces? flat with
  | none => return (String.ofList (trim flat), [])
  | some (before, literal, after) =>
    let parts := [trim before, trim after].filter fun part => !part.isEmpty
    let filters := (← readLiteral literal).map ofEntry
    types.forM (checkAllowed (String.ofList literal) filters)
    return (String.ofList (join [' '] parts), filters)

end Docblock.Filter
