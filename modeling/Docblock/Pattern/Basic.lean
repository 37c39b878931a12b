/-!
# Patterns

A pattern is a regular expression with its flags, read into a tree. Characters in the tree are code
points, so that an escape can name any of them.

The tree has what a search needs. What groups have taken is followed for the sake of references to
them, and is not given back.
-/

namespace Docblock.Pattern

/-- The ways in which a pattern can be told to match. The classes of characters are those of
ASCII or those of all scripts, and a pattern can ask for either; unless it asks for ASCII it gets
all scripts. A template has no repeats. -/
structure Flags where
  ignoreCase : Bool
  multiLine : Bool
  dotAll : Bool
  verbose : Bool
  ascii : Bool
  allScripts : Bool
  template : Bool
  deriving DecidableEq, Repr

/-- No flag is set. -/
def Flags.none : Flags := ⟨false, false, false, false, false, false, false⟩

/-- The flags of either side. -/
def Flags.union (a b : Flags) : Flags :=
  ⟨a.ignoreCase || b.ignoreCase, a.multiLine || b.multiLine, a.dotAll || b.dotAll,
    a.verbose || b.verbose, a.ascii || b.ascii, a.allScripts || b.allScripts,
    a.template || b.template⟩

/-- The flags of the first that are not in the second. -/
def Flags.without (a b : Flags) : Flags :=
  ⟨a.ignoreCase && !b.ignoreCase, a.multiLine && !b.multiLine, a.dotAll && !b.dotAll,
    a.verbose && !b.verbose, a.ascii && !b.ascii, a.allScripts && !b.allScripts,
    a.template && !b.template⟩

/-- The flags inside a group that turns some on and some off. Asking for ASCII or for all scripts
puts aside what was asked for outside. -/
def Flags.within (flags on off : Flags) : Flags :=
  let flags :=
    if on.ascii || on.allScripts then { flags with ascii := false, allScripts := false } else flags
  (flags.union on).without off

/-- A class of characters with a name of its own. -/
inductive Category where
  | digit
  | space
  | word
  deriving DecidableEq, Repr

/-- A member of a bracketed set. -/
inductive SetItem where
  | code (code : Nat)
  | range (first last : Nat)
  | category (category : Category) (negated : Bool)
  deriving DecidableEq, Repr

/-- A condition on a place in the text. -/
inductive Anchor where
  | lineStart
  | lineEnd
  | textStart
  | textEnd
  | boundary
  | notBoundary
  deriving DecidableEq, Repr

/-- How a repeat chooses its count: as many as possible, as few as possible, or as many as
possible without ever giving one back. -/
inductive Greed where
  | greedy
  | reluctant
  | possessive
  deriving DecidableEq, Repr

/-- A node of a pattern. An absent upper bound of a repeat is no bound. -/
inductive Node where
  | empty
  | code (code : Nat)
  | otherThan (code : Nat)
  | any
  | set (negated : Bool) (items : List SetItem)
  | anchor (anchor : Anchor)
  | group (index : Option Nat) (on off : Flags) (body : Node)
  | atomic (body : Node)
  | look (ahead negated : Bool) (body : Node)
  | reference (index : Nat)
  | conditional (index : Nat) (present absent : Node)
  | repeated (low : Nat) (high : Option Nat) (greed : Greed) (body : Node)
  | cat (first second : Node)
  | alt (first second : Node)
  deriving DecidableEq, Repr

/-- Nodes one after the other. -/
def Node.seq : List Node → Node
  | [] => .empty
  | [node] => node
  | node :: rest => .cat node (.seq rest)

/-- Nodes of which one has to match, tried in order. -/
def Node.choice : List Node → Node
  | [] => .empty
  | [node] => node
  | node :: rest => .alt node (.choice rest)

/-- The characters of a text, one after the other. -/
def Node.text (cs : List Char) : Node := .seq (cs.map fun c => .code c.toNat)

/-- A node that takes one character or looks at one place, whatever its flags. Two of these that
are written alike are the same. -/
def Node.isLeaf : Node → Bool
  | .code _ | .otherThan _ | .any | .set .. | .anchor _ | .reference _ => true
  | _ => false

/-! ## Widths -/

/-- The widths from this one on are not told apart. -/
def widthLimit : Nat := 4294967295

/-- A smallest and a greatest width as far as they are told apart. The smallest one stays below
the limit. -/
def clampWidth (width : Nat × Nat) : Nat × Nat :=
  (min width.1 (widthLimit - 1), min width.2 widthLimit)

/-- The smallest and the greatest count of characters that a node can take. The widths of
groups are given. -/
def Node.width (groups : Nat → Nat × Nat) : Node → Nat × Nat
  | .empty | .anchor _ | .look .. => (0, 0)
  | .code _ | .otherThan _ | .any | .set .. => (1, 1)
  | .group _ _ _ body | .atomic body => body.width groups
  | .reference index => groups index
  | .conditional _ present absent =>
    let (low, high) := present.width groups
    let (low', high') := absent.width groups
    (min low low', max high high')
  | .repeated low high _ body =>
    let (least, most) := body.width groups
    clampWidth (least * low, most * high.getD widthLimit)
  | .cat first second =>
    let (low, high) := first.width groups
    let (low', high') := second.width groups
    clampWidth (low + low', high + high')
  | .alt first second =>
    let (low, high) := first.width groups
    let (low', high') := second.width groups
    (min low low', max high high')

/-- The widths of the looks behind in a node, outer ones first. -/
def Node.lookBehindWidths (groups : Nat → Nat × Nat) : Node → List (Nat × Nat)
  | .group _ _ _ body | .atomic body | .repeated _ _ _ body => body.lookBehindWidths groups
  | .look ahead _ body =>
    (if ahead then [] else [body.width groups]) ++ body.lookBehindWidths groups
  | .conditional _ first second | .cat first second | .alt first second =>
    first.lookBehindWidths groups ++ second.lookBehindWidths groups
  | _ => []

/-! ## Sequences and alternatives

What is read of a pattern is a list of items, and a group that only holds its contents together
becomes part of the sequence around it. Alternatives are kept as short as they can be: what all of
them begin with stands in front of them, and when each of them is one character or one set of
characters, they make one set.
-/

/-- An item of a sequence. A plain group has neither number nor flags. -/
inductive Item where
  | single (node : Node)
  | plain (nodes : List Node)

/-- The nodes of an item. -/
def Item.nodes : Item → List Node
  | .single node => [node]
  | .plain nodes => nodes

/-- The nodes that every alternative begins with, and what is left of each of them. -/
def splitStart : List Node → List (List Node) → List Node × List (List Node)
  | [], others => ([], [] :: others)
  | node :: rest, others =>
    if node.isLeaf && others.all (·.head? == some node) then
      let (start, left) := splitStart rest (others.map List.tail)
      (node :: start, left)
    else ([], (node :: rest) :: others)

/-- The members of a set that takes what one of the alternatives takes. -/
def setOf? (alternatives : List (List Node)) : Option (List SetItem) :=
  let members? : List Node → Option (List SetItem)
    | [.code code] => some [.code code]
    | [.set false items] => some items
    | _ => none
  (alternatives.mapM members?).map fun items => items.flatten.eraseDups

/-- The nodes that stand for several alternatives. -/
def ofAlternatives : List (List Node) → List Node
  | [] => []
  | [only] => only
  | first :: others =>
    let (start, left) := splitStart first others
    match setOf? left with
    | some items => start ++ [.set false items]
    | none => start ++ [.choice (left.map .seq)]

end Pattern

/-- A pattern: its source, the flags that it was read with or that it sets, and its tree. -/
structure Pattern where
  source : String
  flags : Pattern.Flags
  root : Pattern.Node
  groupWidths : List (Nat × Nat)
  deriving DecidableEq, Repr

end Docblock
