import Docblock.Pattern.Basic
import Docblock.Pattern.Token
import Docblock.Text.Identifier
import Docblock.Text.Integer

/-!
# Reading a pattern

A pattern is alternatives of sequences of items, and an item may be repeated. Reading stops at the
first fault. Every call takes a token or ends, so the depth of the recursion is bounded by the count
of tokens.

The bound is an argument that goes down, and has no meaning for the source. Whether blanks are
skipped is handed down into groups, while the groups that were counted are handed on.
-/

namespace Docblock.Pattern.Reader

open Text (valueIn)

/-- A character of a set, or a class of characters. -/
def setMember (token : Token) : Reader Escape :=
  if token.escaped then setEscape token.char else return .code token.char.toNat

/-- The set item for a member that starts no range. -/
def Escape.item : Escape → SetItem
  | .code code => .code code
  | .category category negated => .category category negated

/-- The members of a set up to its closing bracket. A bracket in the first place is a member.
`start` is the place of the opening bracket. -/
def setItems (start : Nat) : Nat → Bool → Reader (List SetItem)
  | 0, _ => do fail .unterminatedSet ((← position) - start)
  | fuel + 1, first => do
    let unterminated {α : Type} : Reader α := do fail .unterminatedSet ((← position) - start)
    match ← take with
    | none => unterminated
    | some token =>
      if token.is ']' && !first then return []
      let member ← setMember token
      if ← accept '-' then
        match ← take with
        | none => unterminated
        | some last =>
          if last.is ']' then return [Escape.item member, .code 45]
          let final ← setMember last
          let bad {α : Type} : Reader α :=
            fail (.badRange (String.ofList token.text) (String.ofList last.text))
              (token.text.length + 1 + last.text.length)
          match member, final with
          | .code low, .code high =>
            if high < low then bad
            else return .range low high :: (← setItems start fuel false)
          | _, _ => bad
      else return Escape.item member :: (← setItems start fuel false)

/-- A bracketed set, after its opening bracket. A set of one character is that character. -/
def bracketSet : Reader Node := do
  let start := (← position) - 1
  let negated ← accept '^'
  let items ← setItems start ((← get).rest.length + 1) true
  match items.eraseDups with
  | [.code code] => return if negated then .otherThan code else .code code
  | items => return .set negated items

/-- The digits of a bound. -/
def bound : Reader (List Char) := do takeWhile Char.isDigit (← get).rest.length

/-- The most that a bound may be. -/
def boundLimit : Nat := 4294967295

/-- The number that the digits of a bound write. -/
def boundValue (digits : List Char) : Reader Nat := do
  if digits.length > Text.digitLimit then throw (.beyond (.repeatDigits digits.length))
  let value := valueIn 10 digits
  if value ≥ boundLimit then throw (.beyond .repeats)
  return value

/-- The bounds of a repeat in braces, after the opening brace; none when what follows is no
such bounds, and then nothing is taken. -/
def braceBounds : Reader (Option (Nat × Option Nat)) := do
  let progress ← get
  let start ← position
  if (← peek).any (·.is '}') then return none
  let low ← bound
  let high ← if ← accept ',' then bound else pure low
  if ← accept '}' then
    let least ← boundValue low
    if high.isEmpty then return some (least, none)
    let most ← boundValue high
    if most < least then fail .boundsReversed ((← position) - start)
    return some (least, some most)
  else
    set progress
    return none

/-- The item that a repeat after it repeats. A group can be repeated whatever it holds. -/
def repeatable (start : Nat) : List Item → Reader (List Node × List Item)
  | [] | .single (.anchor _) :: _ => do fail .nothingToRepeat ((← position) - start + 1)
  | .single (.repeated ..) :: _ => do fail .multipleRepeat ((← position) - start + 1)
  | item :: before => return (item.nodes, before)

/-- Repeat the last item, and see whether it is repeated reluctantly or possessively. -/
def repetition (start : Nat) (low : Nat) (high : Option Nat) (items : List Item) :
    Reader (List Item) := do
  let (nodes, before) ← repeatable start items
  let greed ←
    if ← accept '?' then pure Greed.reluctant
    else if ← accept '+' then pure Greed.possessive
    else pure Greed.greedy
  return .single (.repeated low high greed (.seq nodes)) :: before

/-- The letters of inline flags. -/
def flag? (c : Char) : Option Flags :=
  if c = 'i' then some { Flags.none with ignoreCase := true }
  else if c = 'm' then some { Flags.none with multiLine := true }
  else if c = 's' then some { Flags.none with dotAll := true }
  else if c = 'x' then some { Flags.none with verbose := true }
  else if c = 'a' then some { Flags.none with ascii := true }
  else if c = 'u' then some { Flags.none with allScripts := true }
  else if c = 't' then some { Flags.none with template := true }
  else if c = 'L' then some .none
  else none

/-- Inline flags: those turned on and off, and their letters. -/
structure InlineFlags where
  on : List Char
  off : List Char

/-- The flags that letters stand for. -/
def flagsOf (letters : List Char) : Flags :=
  (letters.filterMap flag?).foldl Flags.union .none

/-- Letters that are turned on, up to the character that ends them. -/
def flagsOn : Nat → List Char → Char → Reader (List Char × Char)
  | 0, letters, c => return (letters, c)
  | fuel + 1, letters, c => do
    if c = 'L' then fail .localeFlag 0
    let letters := letters ++ [c]
    if letters.contains 'a' && letters.contains 'u' then fail .incompatibleFlags 0
    match ← take with
    | none => fail (.missing "-, : or )") 0
    | some token =>
      if token.is ')' || token.is '-' || token.is ':' then return (letters, token.char)
      else if token.escaped || (flag? token.char).isNone then
        let known := !token.escaped && Text.isLetter token.char
        fail (if known then .unknownFlag else .missing "-, : or )") token.text.length
      else flagsOn fuel letters token.char

/-- Letters that are turned off, up to the colon. -/
def flagsOff : Nat → List Char → Char → Reader (List Char)
  | 0, letters, _ => return letters
  | fuel + 1, letters, c => do
    if c = 'a' || c = 'u' || c = 'L' then fail .typeFlagTurnedOff 0
    let letters := letters ++ [c]
    match ← take with
    | none => fail (.missing ":") 0
    | some token =>
      if token.is ':' then return letters
      else if token.escaped || (flag? token.char).isNone then
        let known := !token.escaped && Text.isLetter token.char
        fail (if known then .unknownFlag else .missing ":") token.text.length
      else flagsOff fuel letters token.char

/-- Inline flags from their first character on; none when they hold for the whole pattern and
are set. -/
def inlineFlags (first : Char) : Reader (Option InlineFlags) := do
  let fuel := (← get).rest.length + 1
  let (on, ended) ← if first = '-' then pure ([], '-') else flagsOn fuel [] first
  if ended = ')' then
    modify fun progress => { progress with flags := progress.flags.union (flagsOf on) }
    return none
  if on.contains 't' then fail .globalFlagTurnedOn 1
  let off ←
    if ended = '-' then
      match ← take with
      | none => fail (.missing "flag") 0
      | some token =>
        if token.escaped || (flag? token.char).isNone then
          let known := !token.escaped && Text.isLetter token.char
          fail (if known then .unknownFlag else .missing "flag") token.text.length
        else flagsOff fuel [] token.char
    else pure []
  if off.contains 't' then fail .globalFlagTurnedOff 1
  if on.any off.contains then fail .flagOnAndOff 1
  return some ⟨on, off⟩

/-- Refuse a text that is no name of a group. -/
def checkGroupName (name : List Char) : Reader Unit := do
  if !Text.isIdentifier name then fail (.badGroupName (String.ofList name)) (name.length + 1)

/-- The group of a name, which has to be known. -/
def namedGroup (name : List Char) : Reader Nat := do
  match (← get).names.lookup (String.ofList name) with
  | some group => return group
  | none => fail (.unknownGroupName (String.ofList name)) (name.length + 1)

/-- Begin a group; its number is the count of groups before it. -/
def openGroup (name : Option (List Char)) : Reader Nat := do
  let progress ← get
  let group := progress.widths.length
  match name with
  | none => set { progress with widths := progress.widths ++ [none] }
  | some name =>
    match progress.names.lookup (String.ofList name) with
    | some earlier =>
      fail (.redefinedGroup (String.ofList name) group earlier) (name.length + 1)
    | none =>
      set { progress with
        widths := progress.widths ++ [none]
        names := progress.names ++ [(String.ofList name, group)] }
  return group

/-- The widths of the groups closed so far. -/
def widthOf (widths : List (Option (Nat × Nat))) (group : Nat) : Nat × Nat :=
  (widths[group]?.bind id).getD (0, 0)

/-- End a group with its contents. -/
def closeGroup (group : Nat) (body : Node) : Reader Unit :=
  modify fun progress =>
    { progress with
      widths := progress.widths.set group (some (body.width (widthOf progress.widths))) }

/-- The numbers of groups stay below this one. -/
def groupLimit : Nat := 1073741823

/-- The group that a condition names, by name or by number. -/
def conditionGroup (name : List Char) : Reader Nat := do
  if Text.isIdentifier name then
    let group ← namedGroup name
    checkLookBehind group
    return group
  match Text.integer? name with
  | some (.ofNat group) =>
    if group = 0 then fail .badGroupNumber (name.length + 1)
    if group ≥ groupLimit then fail (.invalidReference group) (name.length + 1)
    let place := (← position) - name.length - 1
    modify fun progress =>
      if (progress.conditions.lookup group).isSome then progress
      else { progress with conditions := progress.conditions ++ [(group, place)] }
    checkLookBehind group
    return group
  | _ => fail (.badGroupName (String.ofList name)) (name.length + 1)

/-- Skip a comment group up to its parenthesis. -/
def skipComment (start : Nat) : Reader Unit := do
  if (← takePast ')').isNone then failAt start .unterminatedComment

/-- The blank characters that are skipped in a verbose pattern. -/
def isVerboseBlank (c : Char) : Bool := (9 ≤ c.toNat && c.toNat ≤ 13) || c == ' '

/-- What an opening parenthesis begins. -/
inductive Opening where
  | group (name : Option (List Char))
  | plain
  | flagged (on off : Flags)
  | atomic
  | look (ahead negated : Bool)
  | condition (group : Nat)
  | item (node : Node)
  | nothing

/-- The part of a group up to its contents. `start` is the place of its parenthesis, and
`atStart` tells that nothing stands before it in the pattern. -/
def opening (start : Nat) (atStart : Bool) : Reader Opening := do
  if !(← accept '?') then return .group none
  match ← take with
  | none => fail .unexpectedEnd 0
  | some token =>
    if token.is 'P' then
      if ← accept '<' then
        let name ← takeName '>' "group name"
        checkGroupName name
        return .group (some name)
      else if ← accept '=' then
        let name ← takeName ')' "group name"
        checkGroupName name
        let group ← namedGroup name
        if !(← isClosed group) then fail .openGroup (name.length + 1)
        checkLookBehind group
        return .item (.reference group)
      else
        match ← take with
        | none => fail .unexpectedEnd 0
        | some other =>
          fail (.unknownExtension (String.ofList ('?' :: 'P' :: other.text)))
            (other.text.length + 2)
    else if token.is ':' then return .plain
    else if token.is '#' then
      skipComment start
      return .nothing
    else if token.is '=' then return .look true false
    else if token.is '!' then return .look true true
    else if token.is '<' then
      match ← take with
      | none => fail .unexpectedEnd 0
      | some other =>
        if other.is '=' then return .look false false
        else if other.is '!' then return .look false true
        else
          fail (.unknownExtension (String.ofList ('?' :: '<' :: other.text)))
            (other.text.length + 2)
    else if token.is '(' then
      let name ← takeName ')' "group name"
      return .condition (← conditionGroup name)
    else if token.is '>' then return .atomic
    else if token.is '-' || (!token.escaped && (flag? token.char).isSome) then
      match ← inlineFlags token.char with
      | none =>
        if !atStart then failAt start .flagsNotAtStart
        return .nothing
      | some inline =>
        return .flagged (flagsOf inline.on) (flagsOf inline.off)
    else
      fail (.unknownExtension (String.ofList ('?' :: token.text))) (token.text.length + 1)

/-- Take the parenthesis that ends a group which began at `start`. -/
def closing (start : Nat) : Reader Unit := do
  if !(← accept ')') then failAt start .unterminatedGroup

mutual

/-- Alternatives up to a closing parenthesis or the end. `outer` tells that no group is open. -/
def alternatives : Nat → Bool → Bool → Bool → Reader (List (List Node))
  | 0, _, _, _ => fail .unexpectedEnd 0
  | fuel + 1, outer, first, verbose => do
    let nodes ← sequence fuel (outer && first) verbose []
    if ← accept '|' then
      let progress ← get
      let verbose := if outer then progress.flags.verbose else verbose
      return nodes :: (← alternatives fuel outer false verbose)
    else return [nodes]

/-- A sequence of items, of which those read so far are given last first. `first` tells that
the sequence is the first of the whole pattern. -/
def sequence : Nat → Bool → Bool → List Item → Reader (List Node)
  | 0, _, _, _ => fail .unexpectedEnd 0
  | fuel + 1, first, verbose, items => do
    let start ← position
    match ← peek with
    | none => return items.reverse.flatMap Item.nodes
    | some token =>
      if token.is '|' || token.is ')' then return items.reverse.flatMap Item.nodes
      let _ ← take
      let add (node : Node) := sequence fuel first verbose (.single node :: items)
      let contents (verbose : Bool) := do
        return ofAlternatives (← alternatives fuel false false verbose)
      if token.escaped then add (← escape token.char)
      else if verbose && isVerboseBlank token.char then sequence fuel first verbose items
      else if verbose && token.char = '#' then
        let _ ← takePast '\n'
        sequence fuel first verbose items
      else if token.char = '[' then add (← bracketSet)
      else if token.char = '?' then
        sequence fuel first verbose (← repetition (start + 1) 0 (some 1) items)
      else if token.char = '*' then
        sequence fuel first verbose (← repetition (start + 1) 0 none items)
      else if token.char = '+' then
        sequence fuel first verbose (← repetition (start + 1) 1 none items)
      else if token.char = '{' then
        match ← braceBounds with
        | none => add (.code token.char.toNat)
        | some (low, high) =>
          sequence fuel first verbose (← repetition (start + 1) low high items)
      else if token.char = '.' then add .any
      else if token.char = '^' then add (.anchor .lineStart)
      else if token.char = '$' then add (.anchor .lineEnd)
      else if token.char = '(' then
        match ← opening start (first && items.isEmpty) with
        | .nothing =>
          sequence fuel first (verbose || (← get).flags.verbose) items
        | .item node => add node
        | .group name =>
          let group ← openGroup name
          let body := Node.seq (← contents verbose)
          closing start
          closeGroup group body
          add (.group (some group) .none .none body)
        | .plain =>
          let nodes ← contents verbose
          closing start
          sequence fuel first verbose (.plain nodes :: items)
        | .flagged on off =>
          let nodes ← contents ((verbose || on.verbose) && !off.verbose)
          closing start
          add (.group none on off (.seq nodes))
        | .atomic =>
          let nodes ← contents verbose
          closing start
          add (.atomic (.seq nodes))
        | .look ahead negated =>
          let outer := (← get).lookBehind
          if !ahead && outer.isNone then
            modify fun progress => { progress with lookBehind := some progress.widths.length }
          let nodes ← contents verbose
          if !ahead && outer.isNone then
            modify fun progress => { progress with lookBehind := none }
          closing start
          add (.look ahead negated (.seq nodes))
        | .condition group =>
          let present ← sequence fuel false verbose []
          let absent ←
            if ← accept '|' then
              let absent ← sequence fuel false verbose []
              if (← peek).any (·.is '|') then fail .tooManyBranches 0
              pure absent
            else pure []
          closing start
          add (.conditional group (.seq present) (.seq absent))
      else add (.code token.char.toNat)

end

/-- A whole pattern and its flags. -/
def whole (fuel : Nat) (verbose : Bool) : Reader Node := do
  goOn (← get).rest
  let root := Node.seq (ofAlternatives (← alternatives fuel true true verbose))
  let progress ← get
  if progress.flags.ascii && progress.flags.allScripts then throw (.beyond .characterKinds)
  if !progress.rest.isEmpty then fail .unbalancedParenthesis 0
  for (group, place) in progress.conditions do
    if group ≥ progress.widths.length then failAt place (.invalidReference group)
  return root

end Reader

/-- What is wrong with the tree of a pattern: a repeat in a template, or a look behind without a
fixed width. Outer nodes come first. -/
def Node.cause? (groups : Nat → Nat × Nat) (template : Bool) : Node → Option Cause
  | .group _ _ _ body | .atomic body => body.cause? groups template
  | .repeated _ _ greed body =>
    if template then some (.repeatInTemplate greed) else body.cause? groups template
  | .look ahead _ body =>
    let (low, high) := body.width groups
    if !ahead && low ≠ high then some .looseLookBehind else body.cause? groups template
  | .conditional _ first second | .cat first second | .alt first second =>
    (first.cause? groups template).or (second.cause? groups template)
  | _ => none

/-- The most that a look behind may look back. -/
def lookBehindLimit : Nat := 0x7fffffff

/-- The pattern of a source with flags, or why there is none. -/
def read (source : String) (flags : Flags) : Except Fault Pattern := do
  let cs := source.toList
  let (tokens, dangling) := tokens 0 cs
  let start : Progress := ⟨tokens, dangling, cs.length, flags, [none], [], none, []⟩
  let (root, progress) ← (Reader.whole (3 * cs.length + 3) flags.verbose).run start
  let widths := progress.widths.map (·.getD (0, 0))
  let groups (group : Nat) := widths.getD group (0, 0)
  if let some cause := root.cause? groups progress.flags.template then throw (.wrong cause none)
  if (root.lookBehindWidths groups).any (·.1 > lookBehindLimit) then
    throw (.beyond .lookBehindWidth)
  return ⟨source, progress.flags, root, widths⟩

end Docblock.Pattern
