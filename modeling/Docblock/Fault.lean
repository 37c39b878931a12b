import Docblock.Filter.Rule
import Docblock.Pattern.Fault
import Docblock.Text.Quoted

/-!
# Faults of a schema

Why an annotation is no schema, with the block it stands in, and the few other ways in which a
reading or a check can break off. Each cause has one wording.

A value that does not fit is no fault. It is what a check is there to find, and it is told as a
failure. A check of values that were read well breaks off in few ways only, all of which have to do
with whole numbers that are too large to be turned into something else.
-/

namespace Docblock

/-- Where a comment block stands. -/
structure Location where
  file : String
  startLine : Nat
  endLine : Nat
  deriving DecidableEq, Repr

/-- The file and the lines; a source without a file has lines only. -/
def Location.text (location : Location) : String :=
  let lines := "lines " ++ toString location.startLine ++ "-" ++ toString location.endLine
  if location.file = "" then lines else location.file ++ ", " ++ lines

/-- What is wrong inside a filter literal. -/
inductive LiteralFault where
  | expected (c : Char)
  | separatorExpected
  | nameExpected
  | valueExpected
  | messageExpected
  | openString
  | openPattern
  | textAfterBrace
  deriving DecidableEq, Repr

/-- The wording of a fault in a filter literal. -/
def LiteralFault.message : LiteralFault → String
  | expected c => "expected " ++ Text.quote c.toString
  | separatorExpected => "expected ',' or '\x7d'"
  | nameExpected => "expected a filter name"
  | valueExpected => "expected a number, string, boolean, regex or [value, message]"
  | messageExpected => "the custom message must be a string"
  | openString => "unterminated string"
  | openPattern => "unterminated regular expression"
  | textAfterBrace => "unexpected text after the closing brace"

/-- What is wrong with a schema, or with the way a block is used as one. -/
inductive SchemaFault where
  | loneSlash (expression : String)
  | literal (text : String) (fault : LiteralFault) (position : Nat)
  | unknownFlag (flag : Char) (source flags : String)
  | pattern (source flags : String) (cause : Pattern.Cause) (place : Option Nat)
  | filtersOnType (expression : String)
  | filterName (name : String) (category : Category)
  | filterKind (name actual : String) (expected : Kind) (shown : String)
  | zeroStep (shown : String)
  | unregistered (name : String) (category : Category)
  | notProperties (name : String)
  | notSingle
  | notTypedef
  | noSchemaTag
  deriving DecidableEq, Repr

/-- The wording of a fault. -/
def SchemaFault.message : SchemaFault → String
  | loneSlash expression => "Unexpected single slash in expression \"" ++ expression ++ "\""
  | literal text fault position =>
    "Invalid filter literal " ++ Text.quote text ++ ": " ++ fault.message ++ " at position " ++
      toString position
  | unknownFlag flag source flags =>
    "Unknown regular expression flag " ++ Text.quote flag.toString ++ " in /" ++ source ++ "/" ++
      flags
  | pattern source flags cause place =>
    "Invalid regular expression /" ++ source ++ "/" ++ flags ++ ": " ++
      cause.messageAt source place
  | filtersOnType expression =>
    "Type " ++ Text.quote expression ++ " doesn't work when filters are used." ++
      " Filters only work on array, number or string types."
  | filterName name category =>
    let valid := category.rules.map fun rule => "\"" ++ rule.1 ++ "\""
    "\"" ++ name ++ "\" is not a valid filter for " ++ category.name ++ "s. Use any of these: " ++
      ", ".intercalate valid ++ "."
  | filterKind name actual expected shown =>
    "The value of \"" ++ name ++ "\" has wrong type. The type is " ++ actual ++
      ", but it must be " ++ expected.name ++ ". In " ++ shown
  | zeroStep shown => "The value of \"step\" must not be 0. In " ++ shown
  | unregistered name category =>
    "\"" ++ name ++ "\" is not a valid filter for " ++ category.name ++ "s"
  | notProperties name => "Cannot validate " ++ Text.quote name ++ " tags as an object"
  | notSingle => "The AST you are trying to use is not valid"
  | notTypedef => "The AST you are trying to use is not a typedef"
  | noSchemaTag => "A schema needs one of the tags @enum, @type, @typedef or @param"

/-- Why a reading or a check broke off. A whole number can be too large for a floating-point one,
and it can have too many digits to be read or written. The test for web addresses belongs to the
surroundings, so its faults have no causes here. -/
inductive Fault where
  | schema (fault : SchemaFault) (location : Option Location)
  | integerTooLarge
  | integerTooLong (digits : Option Nat)
  | pattern (excess : Pattern.Excess)
  | addressTest
  deriving DecidableEq, Repr

/-- The wording of a fault, with its place when that is known. -/
def Fault.message : Fault → String
  | schema fault none => fault.message
  | schema fault (some location) => fault.message ++ " (" ++ location.text ++ ")"
  | integerTooLarge => "int too large to convert to float"
  | integerTooLong digits => Text.tooManyDigits digits
  | pattern excess => excess.message
  | addressTest => "the test for web addresses broke off"

/-- Tell where a fault of a schema is, unless that is known already. -/
def Fault.locate (location : Location) : Fault → Fault
  | schema fault none => schema fault (some location)
  | fault => fault

/-- Break off with a fault of the schema at no known place. -/
def refuse {α : Type} (fault : SchemaFault) : Except Fault α := .error (.schema fault none)

end Docblock
