import FilterSql.Json.Printer
import FilterSql.Query.DateText
import FilterSql.Query.Error
import FilterSql.Query.Scalar

/-!
# Filter terms

A term names a field, an operator and the operands. `Term.ofSpec` reads one from the record in which
requests write it, `{"operator": …, "value": …, "values": …, "startdate": …, "enddate": …}`.
-/

namespace FilterSql.Query

structure Term where
  field : Identifier
  op : Operator
  value : Option Scalar := none
  values : Option (List Scalar) := none
  startDate : Option String := none
  endDate : Option String := none
  deriving DecidableEq

/-- A name as it is given: the text of a string, the JSON text of anything else. -/
def nameText : Json → String
  | .string s => s
  | j => j.render

/-- The date in a value: a string, or the text of a number. -/
def dateText? : Json → Option String
  | .string s => normalizeDate? s
  | .number n => normalizeDate? n.text
  | _ => none

def fieldIdentifier (name : String) : Except QueryError Identifier :=
  Identifier.check .fieldName (Text.trim name)

def scalarList (op : Operator) (items : List Json) : Except QueryError (List Scalar) :=
  items.mapM fun item =>
    match Scalar.ofJson? item with
    | some s => .ok s
    | none => .error (.missingOperand op .scalarList)

namespace Term

def operatorOf : Option Json → Except QueryError Operator
  | some (.string token) =>
    match Operator.ofToken? token with
    | some op => .ok op
    | none => .error (.unsupportedOperator (Text.trim token))
  | some other => .error (.unsupportedOperator other.render)
  | none => .error (.unsupportedOperator "")

/-- The list that stands under `value`, for an operator that takes one. -/
def listInValue (op : Operator) : Option Json → Except QueryError (Option (List Scalar))
  | some (.array items) => if op.takesList then some <$> scalarList op items else .ok none
  | _ => .ok none

/-- The list under `values` replaces one under `value`. -/
def listOperand (op : Operator) (value values : Option Json) :
    Except QueryError (Option (List Scalar)) := do
  let fromValue ← listInValue op value
  match values with
  | some (.array items) => some <$> scalarList op items
  | some .null | none => .ok fromValue
  | some _ => .error (.missingOperand op .scalarList)

/-- The date under the first of the keys that is there. -/
def dateUnder (spec : Json.Members) (keys : List String) : Option String :=
  (keys.findSome? spec.get?).bind dateText?

def ofSpec (field : String) (spec : Json.Members) : Except QueryError Term := do
  let field ← fieldIdentifier field
  let op ← operatorOf (spec.get? "operator")
  let value := spec.get? "value"
  let values ← listOperand op value (spec.get? "values")
  return {
    field, op, values
    value := value.bind Scalar.ofJson?
    startDate := dateUnder spec ["startdate", "startDate", "start_date"]
    endDate := dateUnder spec ["enddate", "endDate", "end_date"] }

end Term

end FilterSql.Query
