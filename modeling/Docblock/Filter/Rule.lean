import Docblock.Value.Basic

/-!
# Filters

A filter narrows the values that a type admits: a name, a value, and a message to show in place of
the built-in one. Arrays, numbers and strings each have filters of their own, and each filter takes
a value of one kind.

This says which filters there are, and not what they ask of a value. A name can stand for different
things in different categories, as a least length of a string and a least number do.
-/

namespace Docblock

/-- The types that take filters. -/
inductive Category where
  | array
  | number
  | string
  deriving DecidableEq, Repr

/-- The word for a category. -/
def Category.name : Category → String
  | array => "array"
  | number => "number"
  | string => "string"

/-- The kinds of values that filters take. -/
inductive Kind where
  | number
  | boolean
  | string
  | regex
  deriving DecidableEq, Repr

/-- The word for a kind. -/
def Kind.name : Kind → String
  | number => "number"
  | boolean => "boolean"
  | string => "string"
  | regex => "regex"

/-- Whether a value is of a kind. -/
def Kind.admits : Kind → Value → Bool
  | number, value => value.number?.isSome
  | boolean, .bool _ => true
  | string, .string _ => true
  | regex, .pattern _ => true
  | _, _ => false

/-- How a number stands to a bound. -/
inductive Bound where
  | least
  | most
  | above
  | below
  deriving DecidableEq, Repr

/-- How a length stands to a number. -/
inductive Extent where
  | least
  | most
  | exact
  deriving DecidableEq, Repr

/-- How a string stands to a part. -/
inductive Part where
  | starts
  | ends
  | includes
  | excludes
  deriving DecidableEq, Repr

/-- The formats that a string can have. -/
inductive Format where
  | url
  | ip
  | ipv4
  | ipv6
  | email
  | cuid
  | cuid2
  | ulid
  | uuid
  deriving DecidableEq, Repr

/-- What a filter demands. -/
inductive Rule where
  | arrayLength (extent : Extent)
  | bound (bound : Bound)
  | step
  | int
  | finite
  | safeInt
  | stringLength (extent : Extent)
  | part (part : Part)
  | pattern
  | format (format : Format)
  deriving DecidableEq, Repr

/-- The kind of value that a rule takes. -/
def Rule.kind : Rule → Kind
  | arrayLength _ | bound _ | step | stringLength _ => .number
  | int | finite | safeInt | format _ => .boolean
  | part _ => .string
  | pattern => .regex

/-- The filters of a category, by name. -/
def Category.rules : Category → List (String × Rule)
  | array => [
    ("min", .arrayLength .least),
    ("max", .arrayLength .most),
    ("length", .arrayLength .exact)]
  | number => [
    ("min", .bound .least),
    ("max", .bound .most),
    ("gte", .bound .least),
    ("lte", .bound .most),
    ("gt", .bound .above),
    ("lt", .bound .below),
    ("step", .step),
    ("int", .int),
    ("finite", .finite),
    ("safeInt", .safeInt)]
  | string => [
    ("min", .stringLength .least),
    ("max", .stringLength .most),
    ("length", .stringLength .exact),
    ("startsWith", .part .starts),
    ("endsWith", .part .ends),
    ("includes", .part .includes),
    ("excludes", .part .excludes),
    ("pattern", .pattern),
    ("url", .format .url),
    ("ip", .format .ip),
    ("ipv4", .format .ipv4),
    ("ipv6", .format .ipv6),
    ("email", .format .email),
    ("cuid", .format .cuid),
    ("cuid2", .format .cuid2),
    ("ulid", .format .ulid),
    ("uuid", .format .uuid)]

/-- The rule of a filter's name. -/
def Category.rule? (category : Category) (name : String) : Option Rule :=
  category.rules.lookup name

/-- A filter. An empty message stands for the built-in one. -/
structure Filter where
  name : String
  value : Value
  message : String
  deriving Repr, Inhabited

/-- Put a filter into a list: a repeated name keeps its place and takes the new value. -/
def Filter.insert (filter : Filter) : List Filter → List Filter
  | [] => [filter]
  | other :: rest =>
    if other.name = filter.name then filter :: rest else other :: insert filter rest

/-- The filters of a list put in one after the other. -/
def Filter.collect (filters : List Filter) : List Filter :=
  filters.foldl (fun done filter => filter.insert done) []

end Docblock
