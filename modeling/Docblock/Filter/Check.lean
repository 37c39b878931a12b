import Docblock.Net.Address
import Docblock.Pattern.Format
import Docblock.Value.Member

/-!
# Checking filters

Whether a value meets the filters of its category. Filters are checked in order, and the first
that is not met is reported with its own message, or else with the built-in one. Numbers compare
by their exact values, and nothing is said about a number that does not compare with a bound.

A check breaks off where a whole number is too large to be asked about, where the message would show
a whole number that has no text, or where the test for web addresses does. A message is only written
when the demand is not met, and it is written even if another message is shown in its place.
-/

namespace Docblock

variable [AddressTest]

/-- Whether a length is as demanded. -/
def Extent.holds (extent : Extent) (length : Nat) (bound : Number) : Bool :=
  match extent with
  | least => !Number.lt (.int length) bound
  | most => !Number.lt bound (.int length)
  | exact => Number.eqv (.int length) bound

/-- Whether a number is as demanded. A number that does not compare with the bound is. -/
def Bound.holds (bound : Bound) (x limit : Number) : Bool :=
  match bound with
  | least => !x.lt limit
  | most => !limit.lt x
  | above => !x.le limit
  | below => !limit.le x

/-- Whether a part occurs somewhere in a text. -/
def occursIn (part : List Char) : List Char → Bool
  | [] => part.isEmpty
  | c :: rest => part.isPrefixOf (c :: rest) || occursIn part rest

/-- Whether a string is as demanded. -/
def Part.holds (part : Part) (text piece : List Char) : Bool :=
  match part with
  | starts => piece.isPrefixOf text
  | ends => piece.isSuffixOf text
  | includes => occursIn piece text
  | excludes => !occursIn piece text

/-- Whether a string has a format. -/
def Format.holds (format : Format) (cs : List Char) : Except Fault Bool :=
  match format with
  | url =>
    match AddressTest.isUrl? cs with
    | some holds => .ok holds
    | none => .error .addressTest
  | ip => .ok (Net.version? cs).isSome
  | ipv4 => .ok (Net.version? cs == some .v4)
  | ipv6 => .ok (Net.version? cs == some .v6)
  | email => .ok (Pattern.Format.email.matchesAll cs)
  | cuid => .ok (Pattern.Format.cuid.matchesAll cs)
  | cuid2 => .ok (Pattern.Format.cuid2.matchesAll cs)
  | ulid => .ok (Pattern.Format.ulid.matchesAll cs)
  | uuid => .ok (Pattern.Format.uuid.matchesAll cs)

/-- How a message names a format. -/
def Format.label : Format → String
  | url => "URL"
  | ip => "IP address"
  | ipv4 => "ipv4"
  | ipv6 => "ipv6"
  | email => "email"
  | cuid => "cuid"
  | cuid2 => "cuid2"
  | ulid => "ulid"
  | uuid => "uuid"

/-- The largest whole number up to which floating-point numbers hold all whole numbers. -/
def safeLimit : Int := 9007199254740991

namespace Filter

/-- A message when a demand is not met. It is not written otherwise. -/
def demand (holds : Bool) (message : Except Fault String) : Except Fault (Option String) :=
  if holds then .ok none else message.map some

/-- The message about an array with a wrong length. -/
def arrayFault? (extent : Extent) (items : List Value) (bound : Number) :
    Except Fault (Option String) :=
  demand (extent.holds items.length bound) do
    let shown ← Value.arrayText items
    let limit ← bound.text
    let wanted := match extent with
      | .least => limit ++ " or more elements"
      | .most => limit ++ " or less elements"
      | .exact => "exactly " ++ limit ++ " elements"
    return "Expected array \"" ++ shown ++ "\" to have " ++ wanted

/-- The message about a number out of bounds. -/
def boundFault? (bound : Bound) (x limit : Number) : Except Fault (Option String) :=
  demand (bound.holds x limit) do
    let shown ← x.text
    let limit ← limit.text
    let wanted := match bound with
      | .least => limit ++ " or higher"
      | .most => limit ++ " or lower"
      | .above => "higher than " ++ limit
      | .below => "lower than " ++ limit
    return "Expected number " ++ shown ++ " to be " ++ wanted

/-- The message about a number that is, or is not, of some sort. -/
def sortFault? (holds wanted : Bool) (x : Number) (sort : String) : Except Fault (Option String) :=
  demand (holds == wanted) do
    return "Expected number " ++ (← x.text) ++ (if wanted then " to be " else " not to be ") ++ sort

/-- The message about a number that is no multiple. -/
def stepFault? (x step : Number) : Except Fault (Option String) :=
  match x.multiple? step with
  | none => .error .integerTooLarge
  | some holds =>
    demand holds do
      return "Expected number " ++ (← x.text) ++ " to be multiple of " ++ (← step.text)

/-- The message about a number that is, or is not, finite. -/
def finiteFault? (x : Number) (wanted : Bool) : Except Fault (Option String) :=
  match x.toDouble? with
  | none => .error .integerTooLarge
  | some _ => sortFault? x.isFinite wanted x "finite"

/-- The message about a number that is, or is not, safe; one with a fraction never will do. -/
def safeFault? (x : Number) (wanted : Bool) : Except Fault (Option String) :=
  match x.toInt? with
  | none => sortFault? false true x "integer"
  | some n => sortFault? (decide (-safeLimit ≤ n ∧ n ≤ safeLimit)) wanted x "safe"

/-- The message about a string with a wrong length. -/
def lengthFault? (extent : Extent) (s : String) (bound : Number) : Except Fault (Option String) :=
  let wanted := match extent with
    | .least => "at least "
    | .most => "max "
    | .exact => "exactly "
  demand (extent.holds s.length bound) do
    return "Expected string \"" ++ s ++ "\" to be " ++ wanted ++ (← bound.text) ++
      " characters long"

/-- The message about a string without, or with, a part. -/
def partFault? (part : Part) (s piece : String) : Except Fault (Option String) :=
  let wanted := match part with
    | .starts => "to start with"
    | .ends => "to end with"
    | .includes => "to include"
    | .excludes => "not to include"
  demand (part.holds s.toList piece.toList)
    (.ok ("Expected string \"" ++ s ++ "\" " ++ wanted ++ " \"" ++ piece ++ "\""))

/-- The message about a string in which a pattern is not found. -/
def patternFault? (s : String) (pattern : Pattern) : Except Fault (Option String) :=
  demand (pattern.search s.toList)
    (.ok ("Expected string \"" ++ s ++ "\" to respect the regex pattern /" ++ pattern.source ++
      "/"))

/-- The message about a string that has not, or has, a format. -/
def formatFault? (format : Format) (s : String) (wanted : Bool) :
    Except Fault (Option String) := do
  let holds ← format.holds s.toList
  demand (holds == wanted)
    (.ok ("Expected string \"" ++ s ++ "\" to " ++ (if wanted then "be " else "not be ") ++
      format.label))

end Filter

/-- The message about a value that does not meet a rule with an expected value. A rule says
nothing about a value of another category, and nothing with an expected value of another kind. -/
def Rule.fault? (rule : Rule) (expected value : Value) : Except Fault (Option String) :=
  match rule, expected.number?, value.number?, expected, value with
  | arrayLength extent, some limit, _, _, .list items
  | arrayLength extent, some limit, _, _, .tuple items => Filter.arrayFault? extent items limit
  | bound kind, some limit, some x, _, _ => Filter.boundFault? kind x limit
  | step, some limit, some x, _, _ => Filter.stepFault? x limit
  | int, _, some x, .bool wanted, _ => Filter.sortFault? x.toInt?.isSome wanted x "integer"
  | finite, _, some x, .bool wanted, _ => Filter.finiteFault? x wanted
  | safeInt, _, some x, .bool wanted, _ => Filter.safeFault? x wanted
  | stringLength extent, some limit, _, _, .string s => Filter.lengthFault? extent s limit
  | part kind, _, _, .string piece, .string s => Filter.partFault? kind s piece
  | pattern, _, _, .pattern p, .string s => Filter.patternFault? s p
  | format kind, _, _, .bool wanted, .string s => Filter.formatFault? kind s wanted
  | _, _, _, _, _ => .ok none

/-- What checks the values of a category. Filters with different names can have one checker. -/
def Category.checkers : Category → List (List String × Rule)
  | array => [
    (["min"], .arrayLength .least),
    (["max"], .arrayLength .most),
    (["length"], .arrayLength .exact)]
  | number => [
    (["min", "gte"], .bound .least),
    (["max", "lte"], .bound .most),
    (["gt"], .bound .above),
    (["lt"], .bound .below),
    (["step"], .step),
    (["int"], .int),
    (["finite"], .finite),
    (["safeInt"], .safeInt)]
  | string => [
    (["min"], .stringLength .least),
    (["max"], .stringLength .most),
    (["length"], .stringLength .exact),
    (["startsWith"], .part .starts),
    (["endsWith"], .part .ends),
    (["includes"], .part .includes),
    (["excludes"], .part .excludes),
    (["pattern"], .pattern),
    (["url"], .format .url),
    (["ip"], .format .ip),
    (["ipv4"], .format .ipv4),
    (["ipv6"], .format .ipv6),
    (["email"], .format .email),
    (["cuid"], .format .cuid),
    (["cuid2"], .format .cuid2),
    (["ulid"], .format .ulid),
    (["uuid"], .format .uuid)]

/-- The checker of a filter's name. -/
def Category.checker? (category : Category) (name : String) : Option Rule :=
  (category.checkers.find? (·.1.contains name)).map Prod.snd

/-- The first filter that a value does not meet, and the message about it. -/
def Filter.firstFault? (category : Category) (value : Value) :
    List Filter → Except Fault (Option (Filter × String))
  | [] => .ok none
  | filter :: rest => do
    match category.checker? filter.name with
    | none => refuse (.unregistered filter.name category)
    | some rule =>
      match ← rule.fault? filter.value value with
      | some message =>
        return some (filter, if filter.message = "" then message else filter.message)
      | none => firstFault? category value rest

end Docblock
