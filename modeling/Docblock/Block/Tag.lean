import Docblock.Block.Line
import Docblock.Schema.Reader

/-!
# Tags

A tag has a type in braces, for some tags a name, a description, and filters. A name in square
brackets, or a type that ends in an equality sign, is optional. A dotted name belongs to a member of
the parameter that its first part names; such members stand for the parameter itself.

A parameter gives way to members that are written anywhere behind it (`Tag.dropOwners`), while
members only share a place where they stand in a row (`Tag.number`). The parts of a dotted name
after the second one are not kept, so a member of a member is one of the first owner.
-/

namespace Docblock

open Text

/-- The tags that schemas are made of. -/
inductive TagKind where
  | type
  | enum
  | typedef
  | callback
  | returns
  | yields
  | param
  | property
  | imports
  deriving DecidableEq, Repr

namespace TagKind

/-- The word for a tag. -/
def name : TagKind → String
  | type => "type"
  | enum => "enum"
  | typedef => "typedef"
  | callback => "callback"
  | returns => "returns"
  | yields => "yields"
  | param => "param"
  | property => "property"
  | imports => "import"

/-- Whether a name follows the type of a tag. -/
def isNamed : TagKind → Bool
  | param | property | imports | typedef | callback => true
  | _ => false

/-- The tags that a block has at most one of. -/
def singles : List TagKind := [type, enum, typedef, callback, returns, yields]

end TagKind

/-- A tag. `member` is the owner and the member of a dotted name, and `place` that of the argument
that the tag speaks of. -/
structure Tag where
  kind : TagKind
  typeText : String
  types : List TypeExpr
  name : String
  description : String
  filters : List Filter
  optional : Bool
  defaultValue : Option String
  member : Option (String × String)
  place : Nat
  deriving Repr

namespace Tag

/-- A text without the tag that it may begin with. -/
def dropTag (cs : List Char) : List Char :=
  match cs.dropWhile isIndent with
  | '@' :: rest =>
    let word := rest.takeWhile Char.isLower
    if word.isEmpty then cs else (rest.drop word.length).dropWhile isIndent
  | _ => cs

/-- The type in braces at the start of a text, and what follows it. -/
def takeType (cs : List Char) : List Char × List Char :=
  match if cs.head? = some '{' then closingBracket? cs else none with
  | some close => (trim ((cs.take close).drop 1), cs.drop (close + 1))
  | none => ([], cs)

/-- The name and the default of a name in square brackets. -/
def optionalName? (cs : List Char) : Option (List Char × Option (List Char)) := do
  let body ← Layer.between? '[' ']' cs
  let name := body.takeWhile (· != '=')
  if name.isEmpty || name.contains ']' then none
  else
    match body.drop name.length with
    | [] => some (name, none)
    | _ :: value => if value.isEmpty || value.contains '=' then none else some (name, some value)

/-- The type in front of an equality sign. -/
def optionalType? (cs : List Char) : Option (List Char) :=
  if 2 ≤ cs.length ∧ cs.getLast? = some '=' then some (trim cs.dropLast) else none

/-- The owner and the member of a dotted name. -/
def splitMember? (name : List Char) : Option (List Char × List Char) :=
  match splitOn '.' name with
  | owner :: member :: _ => some (owner, member)
  | _ => none

/-- The tag that an occurrence of it makes. The braces of an import hold names and no type. -/
def ofText (kind : TagKind) (cs : List Char) : Except Fault Tag := do
  let (type, rest) := takeType (dropTag cs)
  let (name, rest) := if kind.isNamed then splitWord (trim rest) else ([], rest)
  -- Brackets around the name or a sign after the type make the tag optional.
  let bracketed := optionalName? name
  let (name, defaultValue) := bracketed.getD (name, none)
  let marked := optionalType? type
  let type := marked.getD type
  let types ← if kind = .imports then .ok [] else TypeExpr.read type
  let (description, filters) ← Filter.ofTail rest types
  let member := (splitMember? name).map fun parts =>
    (String.ofList parts.1, String.ofList parts.2)
  return {
    kind, types, description, filters, member
    typeText := String.ofList type
    name := String.ofList name
    optional := bracketed.isSome || marked.isSome
    defaultValue := defaultValue.map String.ofList
    place := 0 }

/-- The last occurrence of a tag in lines. -/
def lastOf (kind : TagKind) (lines : List (List Char)) : Except Fault (Option Tag) :=
  match (tagOccurrences kind.name.toList lines).getLast? with
  | none => .ok none
  | some text => do return some (← ofText kind text)

/-- One tag more in front of those kept, with the owner that the members after it belong to. -/
def keep (tag : Tag) (state : Option String × List Tag) : Option String × List Tag :=
  match tag.member with
  | some (owner, _) => (some owner, tag :: state.2)
  | none => if state.1 = some tag.name then (none, state.2) else (state.1, tag :: state.2)

/-- Leave out the tags that tags of their members stand for. -/
def dropOwners (tags : List Tag) : List Tag := (tags.foldr keep (none, [])).2

/-- The owner of a tag of a member. -/
def owner (tag : Tag) : String := (tag.member.map (·.1)).getD ""

/-- Count the arguments that tags speak of: members of one owner in a row share a place. `next`
is the next free place, and `previous` the owner of the tag before. -/
def number (next : Nat) (previous : String) : List Tag → List Tag
  | [] => []
  | tag :: rest =>
    if tag.owner = "" ∨ tag.owner ≠ previous then
      { tag with place := next } :: number (next + 1) tag.owner rest
    else { tag with place := next - 1 } :: number next tag.owner rest

/-- All occurrences of a tag in lines that have names, with their places. -/
def allOf (kind : TagKind) (lines : List (List Char)) : Except Fault (List Tag) := do
  let tags ← (tagOccurrences kind.name.toList lines).mapM (ofText kind)
  return number 0 "" (dropOwners (tags.filter (·.name ≠ "")))

end Tag

end Docblock
