import Docblock.Block.Comment
import Docblock.Block.Tag

/-!
# Comment blocks as schemas

What the lines of a comment say: a description, who may use the thing described, and its tags. A
block is that together with its place. The faults of a block tell where it stands.

Tags are read one by one and are not compared with each other. A block may have a type and
parameters at once, and which of them counts is decided when it is used as a schema. All tags that
are looked for are read, so one that cannot be read is a fault of the block even where another would
have counted.
-/

namespace Docblock

open Text

/-- Who may use the thing that a block describes. -/
structure Scope where
  isPrivate : Bool
  isProtected : Bool
  deriving DecidableEq, Repr

namespace Scope

/-- Anyone may. -/
def isPublic (scope : Scope) : Bool := !(scope.isPrivate || scope.isProtected)

/-- The scope that lines tell. -/
def ofLines (lines : List (List Char)) : Scope where
  isPrivate := lines.any ("@private".toList.isPrefixOf ·)
  isProtected := lines.any ("@protected".toList.isPrefixOf ·)

end Scope

/-! ## Descriptions -/

/-- The text of a description so far, and whether plain lines belong to it. -/
structure DescriptionScan where
  text : List Char
  isOpen : Bool

namespace DescriptionScan

/-- The tag that goes on with the description. -/
def descriptionTag : List Char := "@description".toList

/-- The text with a character at its end that separates what follows, unless a line has just
ended. -/
def separated (text : List Char) (c : Char) : List Char :=
  if text.getLast? = some '\n' then text else text ++ [c]

/-- Read one more line. -/
def step (scan : DescriptionScan) (line : List Char) : DescriptionScan :=
  if descriptionTag.isPrefixOf line then
    ⟨separated scan.text '\n' ++ trim (line.drop descriptionTag.length), true⟩
  else if isTagLine line then { scan with isOpen := false }
  else if !scan.isOpen then scan
  else if line.isEmpty then { scan with text := scan.text ++ ['\n'] }
  else { scan with text := separated scan.text ' ' ++ line }

end DescriptionScan

/-- The description in lines: what stands before the first tag, and after description tags.
Lines go on after a space, and an empty line ends a line. -/
def descriptionOf (lines : List (List Char)) : List Char :=
  trim (lines.foldl DescriptionScan.step ⟨[], true⟩).text

/-! ## Elements -/

/-- What the lines of a block say. -/
structure Elements where
  description : String
  scope : Scope
  strict : Bool
  type : Option Tag
  enum : Option Tag
  typedef : Option Tag
  callback : Option Tag
  returns : Option Tag
  yields : Option Tag
  param : List Tag
  property : List Tag
  imports : List Tag
  deriving Repr

namespace Elements

/-- The tag of a kind that a block has at most one of. -/
def single? (elements : Elements) : TagKind → Option Tag
  | .type => elements.type
  | .enum => elements.enum
  | .typedef => elements.typedef
  | .callback => elements.callback
  | .returns => elements.returns
  | .yields => elements.yields
  | .param | .property | .imports => none

/-- The elements that trimmed lines make. -/
def ofLines (lines : List (List Char)) : Except Fault Elements := do
  -- Only a tag that stands alone, or before a space, counts as used.
  let used := lines.filterMap usedTag?
  let isUsed (name : String) : Bool := used.contains name.toList
  let single (kind : TagKind) : Except Fault (Option Tag) :=
    if isUsed kind.name then Tag.lastOf kind lines else .ok none
  let several (kind : TagKind) : Except Fault (List Tag) :=
    if isUsed kind.name then Tag.allOf kind lines else .ok []
  return {
    description := String.ofList (descriptionOf lines)
    scope := Scope.ofLines lines
    strict := isUsed "strict"
    type := ← single .type
    enum := ← single .enum
    typedef := ← single .typedef
    callback := ← single .callback
    returns := ← single .returns
    yields := ← single .yields
    param := ← several .param
    property := ← several .property
    imports := ← several .imports }

/-- The elements of a comment. -/
def ofComment (comment : Comment) : Except Fault Elements :=
  ofLines (linesOf (removeMarks (renameTags 0 comment.text.toList)))

end Elements

/-! ## Blocks -/

/-- A comment block that has been read. -/
structure Block where
  elements : Elements
  file : String
  startLine : Nat
  endLine : Nat
  follower : String
  deriving Repr

namespace Block

/-- Where a block stands. -/
def location (block : Block) : Location := ⟨block.file, block.startLine, block.endLine⟩

/-- Whether a block takes no keys but those it declares. -/
def strict (block : Block) : Bool := block.elements.strict

/-- The tag that gives a block a name as a type. -/
def typedefTag? (block : Block) : Option Tag := block.elements.typedef <|> block.elements.callback

/-- The block of a comment in a file. -/
def ofComment (file : String) (comment : Comment) : Except Fault Block :=
  match Elements.ofComment comment with
  | .ok elements =>
    .ok ⟨elements, file, comment.startLine, comment.endLine, comment.follower⟩
  | .error fault => .error (fault.locate ⟨file, comment.startLine, comment.endLine⟩)

/-- The blocks of a source. The first block with a fault breaks off the reading. -/
def ofSource (file : String) (code : String) : Except Fault (List Block) :=
  (Comment.ofSource code.toList).mapM (ofComment file)

/-- Whether a block speaks of the code on a line: it ends on the line above, or it has a type and
begins on that line. -/
def coversLine (block : Block) (line : Int) : Bool :=
  line == block.endLine + 1 || (line == block.startLine && block.elements.type.isSome)

/-- The last block that speaks of the code on a line, and its place among blocks. The search
stops at a block that ends below the line. -/
def findLine (line : Int) (place : Nat) (found : Option Nat) : List Block → Option Nat
  | [] => found
  | block :: rest =>
    if line < block.endLine then found
    else findLine line (place + 1) (if block.coversLine line then some place else found) rest

/-- The place of the block that speaks of the code on a line. -/
def indexForLine? (blocks : List Block) (line : Int) : Option Nat := findLine line 0 none blocks

end Block

end Docblock
