import Docblock.Pattern.Basic
import Docblock.Text.Numeral
import Docblock.Text.Quoted

/-!
# Faults of a pattern

Why there is no pattern of a source. Mostly the source is wrong, and the fault has a place in it.
A few sources ask for more than can be counted, or for two kinds of characters at once.
-/

namespace Docblock.Pattern

/-- What is wrong with a pattern. -/
inductive Cause where
  | danglingBackslash
  | unterminatedSet
  | incompleteEscape (escape : String)
  | badEscape (escape : String)
  | octalTooLarge (escape : String)
  | missing (what : String)
  | unterminatedName (terminator : Char)
  | unknownCharacterName (name : String)
  | openGroup
  | groupOfSameLook
  | invalidReference (group : Nat)
  | badRange (first last : String)
  | boundsReversed
  | nothingToRepeat
  | multipleRepeat
  | unexpectedEnd
  | badGroupName (name : String)
  | unknownGroupName (name : String)
  | redefinedGroup (name : String) (group earlier : Nat)
  | badGroupNumber
  | unknownExtension (text : String)
  | unterminatedComment
  | unterminatedGroup
  | tooManyBranches
  | flagsNotAtStart
  | localeFlag
  | incompatibleFlags
  | unknownFlag
  | typeFlagTurnedOff
  | globalFlagTurnedOn
  | globalFlagTurnedOff
  | flagOnAndOff
  | unbalancedParenthesis
  | repeatInTemplate (greed : Greed)
  | looseLookBehind
  deriving DecidableEq, Repr

/-- The wording of a cause. -/
def Cause.message : Cause → String
  | danglingBackslash => "bad escape (end of pattern)"
  | unterminatedSet => "unterminated character set"
  | incompleteEscape escape => "incomplete escape " ++ escape
  | badEscape escape => "bad escape " ++ escape
  | octalTooLarge escape => "octal escape value " ++ escape ++ " outside of range 0-0o377"
  | missing what => "missing " ++ what
  | unterminatedName terminator => "missing " ++ terminator.toString ++ ", unterminated name"
  | unknownCharacterName name => "undefined character name " ++ Text.quote name
  | openGroup => "cannot refer to an open group"
  | groupOfSameLook => "cannot refer to group defined in the same lookbehind subpattern"
  | invalidReference group => "invalid group reference " ++ toString group
  | badRange first last => "bad character range " ++ first ++ "-" ++ last
  | boundsReversed => "min repeat greater than max repeat"
  | nothingToRepeat => "nothing to repeat"
  | multipleRepeat => "multiple repeat"
  | unexpectedEnd => "unexpected end of pattern"
  | badGroupName name => "bad character in group name " ++ Text.quote name
  | unknownGroupName name => "unknown group name " ++ Text.quote name
  | redefinedGroup name group earlier =>
    "redefinition of group name " ++ Text.quote name ++ " as group " ++ toString group ++
      "; was group " ++ toString earlier
  | badGroupNumber => "bad group number"
  | unknownExtension text => "unknown extension " ++ text
  | unterminatedComment => "missing ), unterminated comment"
  | unterminatedGroup => "missing ), unterminated subpattern"
  | tooManyBranches => "conditional backref with more than two branches"
  | flagsNotAtStart => "global flags not at the start of the expression"
  | localeFlag => "bad inline flags: cannot use 'L' flag with a str pattern"
  | incompatibleFlags => "bad inline flags: flags 'a', 'u' and 'L' are incompatible"
  | unknownFlag => "unknown flag"
  | typeFlagTurnedOff => "bad inline flags: cannot turn off flags 'a', 'u' and 'L'"
  | globalFlagTurnedOn => "bad inline flags: cannot turn on global flag"
  | globalFlagTurnedOff => "bad inline flags: cannot turn off global flag"
  | flagOnAndOff => "bad inline flags: flag turned on and off"
  | unbalancedParenthesis => "unbalanced parenthesis"
  | repeatInTemplate greed =>
    "internal: unsupported template operator " ++ match greed with
      | .greedy => "MAX_REPEAT"
      | .reluctant => "MIN_REPEAT"
      | .possessive => "POSSESSIVE_REPEAT"
  | looseLookBehind => "look-behind requires fixed-width pattern"

/-- The line and the column of a place, both counted from one. -/
def lineColumn (source : List Char) (position : Nat) : Nat × Nat :=
  let before := source.take position
  (before.count '\n' + 1, (before.reverse.takeWhile (· != '\n')).length + 1)

/-- The wording of a cause at a place of the source; a cause that concerns the whole of it has no
place. The line and the column are told when the source has several lines. -/
def Cause.messageAt (source : String) (place : Option Nat) (cause : Cause) : String :=
  match place with
  | none => cause.message
  | some place =>
    let text := cause.message ++ " at position " ++ toString place
    if source.toList.contains '\n' then
      let (line, column) := lineColumn source.toList place
      text ++ " (line " ++ toString line ++ ", column " ++ toString column ++ ")"
    else text

/-- A limit that a source goes beyond. -/
inductive Excess where
  | repeats
  | repeatDigits (digits : Nat)
  | characterCode
  | characterKinds
  | lookBehindWidth
  deriving DecidableEq, Repr

/-- The wording about a limit. -/
def Excess.message : Excess → String
  | repeats => "the repetition number is too large"
  | repeatDigits digits => Text.tooManyDigits (some digits)
  | characterCode => "Python int too large to convert to C int"
  | characterKinds => "ASCII and UNICODE flags are incompatible"
  | lookBehindWidth => "invalid SRE code"

/-- Why there is no pattern of a source. -/
inductive Fault where
  | wrong (cause : Cause) (place : Option Nat)
  | beyond (excess : Excess)
  deriving DecidableEq, Repr

end Docblock.Pattern
