import Docblock.Fault

/-!
# The text of a value

How a value is shown in a message. A string is shown as it is, but quoted inside another value;
lists stand in square brackets, tuples in round ones, mappings and sets in braces. A symbol is shown
by its name alone, and with its value only inside another value.

A whole number with too many digits has no text, nor has a value in which it would be shown, and
whatever is to show it breaks off. A floating-point number never has so many digits.
-/

namespace Docblock

/-- The digits of a whole number with its sign, unless there are too many of them. -/
def integerText (n : Int) : Except Fault String :=
  if Text.digitLimit < (Nat.toDigits 10 n.natAbs).length then .error (.integerTooLong none)
  else .ok (toString n)

/-- The text of a number in a message: a number without a fractional part has no point. -/
def Number.text : Number → Except Fault String
  | .int n => integerText n
  | .double x =>
    .ok (match x.toInt? with
      | some n => toString n
      | none => x.text)

/-- A number filled up with zeros to a width. -/
def padded (width n : Nat) : String :=
  let digits := Nat.toDigits 10 n
  String.ofList (List.replicate (width - digits.length) '0' ++ digits)

/-- A day as year, month and day. -/
def Date.text (date : Date) : String :=
  padded 4 date.year ++ "-" ++ padded 2 date.month ++ "-" ++ padded 2 date.day

/-- A time as hour, minute and second, with six more digits unless they are zeros. -/
def Time.text (time : Time) : String :=
  padded 2 time.hour ++ ":" ++ padded 2 time.minute ++ ":" ++ padded 2 time.second ++
    if time.micro = 0 then "" else "." ++ padded 6 time.micro

/-- The parts of a time that are shown in a constructor: the seconds and their millionths only
when they are not zero. -/
def Time.parts (time : Time) : List Nat :=
  [time.hour, time.minute] ++
    if time.micro ≠ 0 then [time.second, time.micro]
    else if time.second ≠ 0 then [time.second]
    else []

namespace Pattern

/-- The names of the flags of a pattern. -/
def flagNames (flags : Flags) : List String :=
  (if flags.ignoreCase then ["re.IGNORECASE"] else []) ++
    (if flags.multiLine then ["re.MULTILINE"] else []) ++
    (if flags.dotAll then ["re.DOTALL"] else []) ++
    (if flags.verbose then ["re.VERBOSE"] else []) ++
    (if flags.ascii then ["re.ASCII"] else [])

/-- A pattern with the first two hundred characters of its quoted source, and its flags. -/
def text (pattern : Pattern) : String :=
  let names := flagNames pattern.flags
  let shown := String.ofList ((Text.quoted pattern.source.toList).take 200)
  "re.compile(" ++ shown ++
    (if names.isEmpty then "" else ", " ++ "|".intercalate names) ++ ")"

end Pattern

namespace Value

/-- The numbers of a constructor call, separated by commas. -/
def callText (name : String) (parts : List Nat) : String :=
  name ++ "(" ++ ", ".intercalate (parts.map toString) ++ ")"

/-- A truth value. -/
def boolText (b : Bool) : String := if b then "True" else "False"

mutual

/-- A value inside another one. -/
def innerText : Value → Except Fault String
  | .null => .ok "None"
  | .undefined => .ok "undefined"
  | .bool b => .ok (boolText b)
  | .int n => integerText n
  | .double x => .ok x.text
  | .string s => .ok (Text.quote s)
  | .list items => do return "[" ++ (← itemsText items) ++ "]"
  | .tuple [item] => do return "(" ++ (← innerText item) ++ ",)"
  | .tuple items => do return "(" ++ (← itemsText items) ++ ")"
  | .set [] => .ok "set()"
  | .set items => do return "\x7b" ++ (← itemsText items) ++ "\x7d"
  | .mapping entries => do return "\x7b" ++ (← entriesText entries) ++ "\x7d"
  | .record kind _ _ => .ok ("<" ++ kind ++ ">")
  | .symbol kind name value => do
    return "<" ++ kind ++ "." ++ name ++ ": " ++ (← innerText value) ++ ">"
  | .function => .ok "<function>"
  | .builtin => .ok "<built-in function>"
  | .type name => .ok ("<class " ++ Text.quote name ++ ">")
  | .pattern p => .ok p.text
  | .date day => .ok (callText "datetime.date" [day.year, day.month, day.day])
  | .dateTime day time =>
    .ok (callText "datetime.datetime" ([day.year, day.month, day.day] ++ time.parts))
  | .decimal digits => .ok ("Decimal(" ++ Text.quote digits ++ ")")
  | .bytes run => .ok (String.ofList (Text.quotedBytes run))

/-- Values separated by commas. -/
def itemsText : List Value → Except Fault String
  | [] => .ok ""
  | [item] => innerText item
  | item :: rest => do return (← innerText item) ++ ", " ++ (← itemsText rest)

/-- Entries separated by commas. -/
def entriesText : List (Value × Value) → Except Fault String
  | [] => .ok ""
  | [(key, value)] => do return (← innerText key) ++ ": " ++ (← innerText value)
  | (key, value) :: rest => do
    return (← innerText key) ++ ": " ++ (← innerText value) ++ ", " ++ (← entriesText rest)

end

/-- A value by itself. -/
def text : Value → Except Fault String
  | .string s => .ok s
  | .date day => .ok day.text
  | .dateTime day time => .ok (day.text ++ " " ++ time.text)
  | .decimal digits => .ok digits
  | .symbol kind name _ => .ok (kind ++ "." ++ name)
  | value => value.innerText

/-- The items of an array separated by commas, cut off when they are longer than thirty
characters. -/
def arrayText (items : List Value) : Except Fault String := do
  let shown := (",".intercalate (← items.mapM text)).toList
  return String.ofList
    ('[' :: (if shown.length > 30 then shown.take 26 ++ " ...".toList else shown) ++ [']'])

end Value

end Docblock
