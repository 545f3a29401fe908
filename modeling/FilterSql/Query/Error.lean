import FilterSql.Query.Identifier
import FilterSql.Query.Operator

/-!
# Query errors

Why a query is refused, or why its execution failed. The constructors are the causes; `code` and
`message` are their words.
-/

namespace FilterSql.Query

inductive NameRole where
  | fieldName
  | fields
  | orderBy
  | recordType
  | baseTable
  | headerTable
  | headerAlias
  | foreignKey
  | headerField
  | implicitFilterField
  deriving DecidableEq, Repr

def NameRole.words : NameRole → String
  | fieldName => "field_name"
  | fields => "fields"
  | orderBy => "orderBy"
  | recordType => "record type"
  | baseTable => "base table"
  | headerTable => "header table"
  | headerAlias => "header alias"
  | foreignKey => "foreign key"
  | headerField => "header field"
  | implicitFilterField => "implicit filter field"

inductive Operand where
  | scalar
  | date
  | nonEmptyList
  | bothDates
  | scalarList
  deriving DecidableEq, Repr

def Operand.words : Operand → String
  | scalar => "a scalar value"
  | date => "a date value"
  | nonEmptyList => "a non-empty values list"
  | bothDates => "both startdate and enddate"
  | scalarList => "a list of scalar values"

inductive DataError where
  | database (reason : String)
  | io (reason : String)
  | timeout (backend : String) (seconds : Nat)
  | unavailable (backend : String) (reason : String)
  deriving DecidableEq, Repr

namespace DataError

def disconnected : DataError := .unavailable "duckdb" "connection closed"

def backend : DataError → String
  | database _ => "duckdb"
  | io _ => "unknown"
  | timeout backend _ => backend
  | unavailable backend _ => backend

def message : DataError → String
  | database reason => "DuckDB error: " ++ reason
  | io reason => "IO error: " ++ reason
  | timeout backend seconds =>
    "Query timeout after " ++ toString seconds ++ "s on " ++ backend
  | unavailable backend reason => "Backend " ++ backend ++ " is not available: " ++ reason

end DataError

inductive QueryError where
  | missingRecordType
  | unsupportedRecordType (name : String)
  | unsafeIdentifier (role : NameRole) (name : String)
  | unsupportedOperator (token : String)
  | missingOperand (op : Operator) (operand : Operand)
  | invalidDate (op : Operator) (value : String)
  | tooManyFilters (count limit : Nat)
  | executionFailure (cause : DataError)
  deriving DecidableEq, Repr

namespace QueryError

def code : QueryError → String
  | missingRecordType => "MISSING_RECORD_TYPE"
  | unsupportedRecordType _ => "UNSUPPORTED_RECORD_TYPE"
  | unsafeIdentifier .. => "UNSAFE_IDENTIFIER"
  | unsupportedOperator _ => "UNSUPPORTED_OPERATOR"
  | missingOperand .. => "MISSING_OPERAND"
  | invalidDate .. => "INVALID_DATE"
  | tooManyFilters .. => "TOO_MANY_FILTERS"
  | executionFailure _ => "EXECUTION_FAILURE"

def message : QueryError → String
  | missingRecordType => "recordType is required"
  | unsupportedRecordType name => "Unsupported record type: " ++ name
  | unsafeIdentifier role name => "Unsafe " ++ role.words ++ ": '" ++ name ++ "'"
  | unsupportedOperator token => "Unsupported operator: '" ++ token ++ "'"
  | missingOperand op operand => op.name ++ " requires " ++ operand.words
  | invalidDate op value =>
    op.name ++ " requires a date (YYYY-MM-DD, D-M-YYYY or M/D/YYYY), got '" ++ value ++ "'"
  | tooManyFilters count limit =>
    "Too many filters: " ++ toString count ++ " (max " ++ toString limit ++ ")"
  | executionFailure cause => "Query execution failed: " ++ cause.message

/-- Whether the request is at fault, so that no backend was asked. -/
def isValidation : QueryError → Bool
  | executionFailure _ => false
  | _ => true

end QueryError

/-- The identifier of a name that has a place in a request, or the error that names the place. -/
def Identifier.check (role : NameRole) (name : String) : Except QueryError Identifier :=
  match Identifier.ofText? name with
  | some id => .ok id
  | none => .error (.unsafeIdentifier role name)

end FilterSql.Query
