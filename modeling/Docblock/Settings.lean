import Docblock.Text.Case
import Docblock.Value.Basic

/-!
# Settings

How sources are read and checked. Settings are made from named values or from the variables of an
environment; every setting that is wrong is reported, and then every name that is unknown. Settings
never change afterwards.

Which values stand for a truth value, and the words for those that stand for none, are the rules of
the library that the settings are declared with. They are written down here as that library
documents them, for the program to run. Nothing that is proved depends on them: what is said of
reading and checking is said of settings however they were made.
-/

namespace Docblock

/-- The encoding that files are read with, whether imports are followed, and whether undeclared
keys are always refused. -/
structure Settings where
  encoding : String
  followImports : Bool
  forceStrict : Bool
  deriving DecidableEq, Repr

/-- What is wrong with a setting. -/
inductive SettingFault where
  | notBoolean
  | wrongSpelling
  | notString
  | emptyString
  | unknown
  | frozen
  deriving DecidableEq, Repr

/-- The word for a fault. -/
def SettingFault.name : SettingFault → String
  | notBoolean => "bool_type"
  | wrongSpelling => "bool_parsing"
  | notString => "string_type"
  | emptyString => "string_too_short"
  | unknown => "extra_forbidden"
  | frozen => "frozen_instance"

/-- The faults of settings, each with the name that it belongs to. -/
abbrev SettingFaults := List (String × SettingFault)

namespace Settings

/-- The settings where nothing is said. -/
def standard : Settings := ⟨"utf-8", true, false⟩

/-- The names of the settings, in order. -/
def names : List String := ["encoding", "follow_imports", "force_strict"]

/-- The spellings of the truth values. -/
def spellings : List (String × Bool) := [
  ("0", false), ("off", false), ("f", false), ("false", false), ("n", false), ("no", false),
  ("1", true), ("on", true), ("t", true), ("true", true), ("y", true), ("yes", true)]

/-- The truth value that zero and one stand for. -/
def ofInt? (n : Int) : Option Bool :=
  if n = 0 then some false else if n = 1 then some true else none

/-- The truth value that a value stands for. Spellings may be in any case. -/
def readBool : Value → Except SettingFault Bool
  | .bool b => .ok b
  | .string s =>
    match spellings.lookup (String.ofList (Text.asciiLower s.toList)) with
    | some b => .ok b
    | none => .error .wrongSpelling
  | .int n =>
    match ofInt? n with
    | some b => .ok b
    | none => .error .wrongSpelling
  | .double x =>
    match x.toInt?.bind ofInt? with
    | some b => .ok b
    | none => .error .notBoolean
  | _ => .error .notBoolean

/-- The name of an encoding that a value stands for. -/
def readEncoding : Value → Except SettingFault String
  | .string s => if s = "" then .error .emptyString else .ok s
  | _ => .error .notString

/-- A setting that is read from the value with its name, if there is one. -/
def readNamed {α : Type} (values : List (String × Value)) (name : String) (default : α)
    (read : Value → Except SettingFault α) : Except SettingFault α :=
  match values.lookup name with
  | none => .ok default
  | some value => read value

/-- The fault of a setting under its name. -/
def faultOf {α : Type} (name : String) : Except SettingFault α → SettingFaults
  | .ok _ => []
  | .error fault => [(name, fault)]

/-- The settings with named values. -/
def ofValues (values : List (String × Value)) : Except SettingFaults Settings :=
  let encoding := readNamed values "encoding" standard.encoding readEncoding
  let followImports := readNamed values "follow_imports" standard.followImports readBool
  let forceStrict := readNamed values "force_strict" standard.forceStrict readBool
  let unknown := (values.filter fun entry => !names.contains entry.1).map fun entry =>
    (entry.1, SettingFault.unknown)
  match encoding, followImports, forceStrict, unknown with
  | .ok encoding, .ok followImports, .ok forceStrict, [] =>
    .ok ⟨encoding, followImports, forceStrict⟩
  | _, _, _, _ =>
    .error (faultOf "encoding" encoding ++ faultOf "follow_imports" followImports ++
      faultOf "force_strict" forceStrict ++ unknown)

/-- The variable of an environment that holds a setting. -/
def variableName (name : String) : String :=
  "DOCSCHEMA_" ++ String.ofList (name.toList.map Char.toUpper)

/-- The settings that the variables of an environment tell. -/
def ofEnvironment (entries : List (String × String)) : Except SettingFaults Settings :=
  ofValues (names.filterMap fun name =>
    (entries.lookup (variableName name)).map fun text => (name, .string text))

/-- The settings with one of them changed: settings do not change. -/
def assign (name : String) : Except SettingFaults Settings := .error [(name, .frozen)]

end Settings

end Docblock
