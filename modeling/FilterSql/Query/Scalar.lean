import FilterSql.Json.Basic

/-!
# Scalars

The values that a query binds to its placeholders.
-/

namespace FilterSql.Query

inductive Scalar where
  | bool (b : Bool)
  | int (i : Int64)
  | float (x : Float)
  | text (s : String)
  deriving DecidableEq

namespace Scalar

def ofNumber (n : Json.Number) : Scalar :=
  match n.int64? with
  | some i => .int i
  | none => .float n.toFloat

def ofJson? : Json → Option Scalar
  | .bool b => some (.bool b)
  | .number n => some (ofNumber n)
  | .string s => some (.text s)
  | .null | .array _ | .object _ => none

/-- The kinds of scalar in the order in which they are tried on an untagged value. -/
inductive Kind where
  | bool
  | int
  | float
  | text
  deriving DecidableEq, Repr

/-- Reads a value as a scalar of one kind. Every number is a float; a float is no integer. -/
def ofKind? : Kind → Json → Option Scalar
  | .bool, .bool b => some (.bool b)
  | .int, .number n => n.int64?.map .int
  | .float, .number n => some (.float n.toFloat)
  | .text, .string s => some (.text s)
  | _, _ => none

def decode? (j : Json) : Option Scalar :=
  [Kind.bool, .int, .float, .text].findSome? (ofKind? · j)

/-- The JSON value of a scalar. A float without a finite value has none and becomes null. -/
def toJson : Scalar → Json
  | .bool b => .bool b
  | .int i => .ofInt i.toInt
  | .float x => if x.isFinite then .number (.float x) else .null
  | .text s => .string s

def asText? : Scalar → Option String
  | .text s => some s
  | _ => none

def display : Scalar → String
  | .bool b => if b then "true" else "false"
  | .int i => toString i.toInt
  | .float x => Decimal.plain.text (.ofFloat x)
  | .text s => s

end Scalar

end FilterSql.Query
