import Docblock.Filter.Rule

/-!
# Types

The types that annotations are written in. Each keeps the text that it was read from. A list of
types holds alternatives; tuples and object types have fields, each with its alternatives, its
description and its filters.

A name stays a name. What it means depends on the source that a value is checked for, and it can
have no meaning at all, which is no fault of the type.
-/

namespace Docblock

/-- A primitive type other than null and undefined. -/
inductive Primitive where
  | string
  | number
  | bigint
  | boolean
  | symbol
  deriving DecidableEq, Repr

/-- The word for a primitive type. -/
def Primitive.name : Primitive → String
  | string => "string"
  | number => "number"
  | bigint => "bigint"
  | boolean => "boolean"
  | symbol => "symbol"

/-- A value that is a type of its own. -/
inductive Literal where
  | boolean (b : Bool)
  | number (x : Double)
  | string (s : String)
  deriving DecidableEq, Repr

/-- A field of a tuple or of an object type, over the types `α`. -/
structure Field (α : Type) where
  key : String
  types : List α
  description : String
  filters : List Filter
  deriving Repr

/-- A type, with the text that it was read from. -/
inductive TypeExpr where
  | any (text : String)
  | literal (text : String) (value : Literal)
  | primitive (text : String) (name : Primitive)
  | null (text : String)
  | undefined (text : String)
  | array (text : String) (types : List TypeExpr)
  | tuple (text : String) (items : List (Field TypeExpr))
  | map (text : String) (keys values : List TypeExpr)
  | object (text : String) (fields : List (Field TypeExpr))
  | named (text : String) (name : String)
  deriving Repr, Inhabited

namespace TypeExpr

/-- The text that a type was read from. -/
def text : TypeExpr → String
  | any t | literal t _ | primitive t _ | null t | undefined t | array t _ | tuple t _
  | map t _ _ | object t _ | named t _ => t

/-- The category whose filters a type takes. -/
def category? : TypeExpr → Option Category
  | literal _ (.number _) => some .number
  | literal _ (.string _) => some .string
  | primitive _ .number => some .number
  | primitive _ .string => some .string
  | array .. | tuple .. => some .array
  | _ => none

/-- A type that only marks a value as missing. -/
def isNullish : TypeExpr → Bool
  | null _ | undefined _ => true
  | _ => false

/-- The name that a type is. -/
def name? : TypeExpr → Option String
  | named _ name => some name
  | _ => none

/-- The type of a value that is not there. -/
def isUndefined : TypeExpr → Bool
  | undefined _ => true
  | _ => false

end TypeExpr

/-- A field that need not be there. -/
def Field.optional (field : Field TypeExpr) : Bool := field.types.any TypeExpr.isUndefined

end Docblock
