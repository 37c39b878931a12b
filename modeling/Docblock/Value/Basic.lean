import Docblock.Number.Literal
import Docblock.Pattern.Basic

/-!
# Runtime values

The values that a schema is checked against. Lists and tuples are arrays; mappings, records, symbols
and functions are objects. The absent value is a value of its own, apart from null.

A value is a tree. Two equal members are told apart by where they stand, and no value holds itself,
so that a member is always smaller than what it is found in.
-/

namespace Docblock

/-- A day of the calendar. -/
structure Date where
  year : Nat
  month : Nat
  day : Nat
  deriving DecidableEq, Repr

/-- A time of a day, down to millionths of a second. -/
structure Time where
  hour : Nat
  minute : Nat
  second : Nat
  micro : Nat
  deriving DecidableEq, Repr

/-- A value. A mapping keeps its entries in order, and a record its attributes. -/
inductive Value where
  | null
  | undefined
  | bool (b : Bool)
  | int (n : Int)
  | double (x : Double)
  | string (s : String)
  | list (items : List Value)
  | tuple (items : List Value)
  | set (items : List Value)
  | mapping (entries : List (Value × Value))
  | record (type : String) (attributes : List (String × Value)) (callable : Bool)
  | symbol (type name : String) (value : Value)
  | function
  | builtin
  | type (name : String)
  | pattern (pattern : Pattern)
  | date (date : Date)
  | dateTime (date : Date) (time : Time)
  | decimal (text : String)
  | bytes (bytes : List Nat)
  deriving Repr, Inhabited

namespace Value

/-- The number that a value is; truth values are none. -/
def number? : Value → Option Number
  | .int n => some (.int n)
  | .double x => some (.double x)
  | _ => none

/-- The number that a value counts as, truth values being one and zero. -/
def numeric? : Value → Option Number
  | .bool b => some (.int (if b then 1 else 0))
  | value => value.number?

mutual

/-- Equality of values as keys: numbers and truth values by their size, texts and tuples by
their contents. -/
def eqv : Value → Value → Bool
  | .null, .null => true
  | .undefined, .undefined => true
  | .string a, .string b => a == b
  | .list a, .list b => eqvAll a b
  | .tuple a, .tuple b => eqvAll a b
  | .date a, .date b => a == b
  | .dateTime a b, .dateTime c d => a == c && b == d
  | .decimal a, .decimal b => a == b
  | .bytes a, .bytes b => a == b
  | a, b =>
    match a.numeric?, b.numeric? with
    | some x, some y => x.eqv y
    | _, _ => false

/-- Equality of values one by one. -/
def eqvAll : List Value → List Value → Bool
  | [], [] => true
  | a :: as, b :: bs => eqv a b && eqvAll as bs
  | _, _ => false

end

/-- Put an entry into a mapping: an equal key keeps its place and its form. -/
def insertEntry (key value : Value) : List (Value × Value) → List (Value × Value)
  | [] => [(key, value)]
  | (k, v) :: rest =>
    if k.eqv key then (k, value) :: rest else (k, v) :: insertEntry key value rest

/-- The mapping of entries put in one after the other. -/
def ofEntries (entries : List (Value × Value)) : Value :=
  .mapping (entries.foldl (fun done entry => insertEntry entry.1 entry.2 done) [])

/-- The set of some values; of equal ones the first is kept. -/
def ofItems (items : List Value) : Value :=
  .set (items.foldl (fun done item => if done.any (·.eqv item) then done else done ++ [item]) [])

mutual

/-- The depth and extent of a value in one number; the absent value counts nothing. -/
def rank : Value → Nat
  | .undefined => 0
  | .list items | .tuple items | .set items => 1 + rankAll items
  | .mapping entries => 1 + rankEntries entries
  | .record _ attributes _ => 1 + rankAttributes attributes
  | .symbol _ _ value => 2 + rank value
  | _ => 1

/-- The ranks of several values, each counted once more. -/
def rankAll : List Value → Nat
  | [] => 0
  | item :: rest => 1 + rank item + rankAll rest

/-- The ranks of keys and values, each entry counted once more. -/
def rankEntries : List (Value × Value) → Nat
  | [] => 0
  | (key, value) :: rest => 1 + rank key + rank value + rankEntries rest

/-- The ranks of attributes, each counted once more. -/
def rankAttributes : List (String × Value) → Nat
  | [] => 0
  | (_, value) :: rest => 1 + rank value + rankAttributes rest

end

theorem rank_list (items : List Value) : (list items).rank = 1 + rankAll items := rfl

theorem rank_tuple (items : List Value) : (tuple items).rank = 1 + rankAll items := rfl

theorem rank_mapping (entries : List (Value × Value)) :
    (mapping entries).rank = 1 + rankEntries entries := rfl

theorem rank_record (kind : String) (attributes : List (String × Value)) (callable : Bool) :
    (record kind attributes callable).rank = 1 + rankAttributes attributes := rfl

theorem rank_symbol (kind name : String) (value : Value) :
    (symbol kind name value).rank = 2 + value.rank := rfl

theorem rank_string (s : String) : (string s).rank = 1 := rfl

theorem rankAll_cons (item : Value) (rest : List Value) :
    rankAll (item :: rest) = 1 + item.rank + rankAll rest := rfl

theorem rankEntries_cons (key value : Value) (rest : List (Value × Value)) :
    rankEntries ((key, value) :: rest) = 1 + key.rank + value.rank + rankEntries rest := rfl

theorem rankAttributes_cons (name : String) (value : Value) (rest : List (String × Value)) :
    rankAttributes ((name, value) :: rest) = 1 + value.rank + rankAttributes rest := rfl

/-- Only the absent value counts nothing. -/
theorem rank_pos {value : Value} (h : value ≠ undefined) : 0 < value.rank := by
  cases value with
  | undefined => exact absurd rfl h
  | list | tuple | set | mapping | record =>
    exact Nat.lt_of_lt_of_le Nat.zero_lt_one (Nat.le_add_right 1 _)
  | symbol => exact Nat.lt_of_lt_of_le Nat.zero_lt_two (Nat.le_add_right 2 _)
  | _ => exact Nat.zero_lt_one

end Value

end Docblock
