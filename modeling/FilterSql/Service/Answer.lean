import FilterSql.Execution
import FilterSql.Service.Documentation
import FilterSql.Service.Message
import FilterSql.Service.QueryBody
import FilterSql.Service.State

/-!
# Answers

The bodies of the answers to queries and to questions about the service.
-/

namespace FilterSql.Service

open Query

def optionalString (s : Option String) : Json := (s.map Json.string).getD .null

/-! ## Queries -/

def errorPrefix : String := "Request processing failed"

structure Clock where
  /-- The time at which an answer is given. -/
  now : String
  /-- How long an execution has taken. -/
  elapsedMs : Nat

def debugInfo (clock : Clock) (c : Compiled) (e : Execution) : Json :=
  .object
    [("sql", .string c.statement.sql), ("params", .array (c.statement.params.map Scalar.toJson)),
     ("baseTable", .string c.table), ("alias", .string c.aliasName),
     ("executionInfo", .object (e.stats clock.elapsedMs))]

def success (clock : Clock) (body : QueryBody) (c : Compiled) (e : Execution) : HttpResponse :=
  .json 200 <| e.envelope ++
    [("recordType", optionalString body.recordType), ("timestamp", .string clock.now),
     ("version", .string version)] ++
    if body.wantsDebug then [("debug", debugInfo clock c e)] else []

/-- A request at fault is told so; a backend at fault is a bad gateway. -/
def failureStatus (e : QueryError) : Nat := if e.isValidation then 400 else 502

def failureClass (e : QueryError) : String := if e.isValidation then "validation" else "execution"

def failure (clock : Clock) (body : QueryBody) (e : QueryError) : HttpResponse :=
  .json (failureStatus e) <|
    [("success", .bool false), ("error", .string (errorPrefix ++ ": " ++ e.message)),
     ("errorKind", .string e.code), ("recordType", optionalString body.recordType),
     ("timestamp", .string clock.now), ("version", .string version)] ++
    if body.wantsDebug then
      [("debug", .object [("errorClass", .string (failureClass e))])]
    else []

def rejected (detail : String) (r : Rejection) : HttpResponse :=
  .json 400
    [("error", .string "bad_request"), ("code", .string r.code),
     ("message", .string (r.message detail))]

def shuttingDown : HttpResponse :=
  .json 503
    [("error", .string "service_unavailable"), ("code", .string "SERVICE_UNAVAILABLE"),
     ("message", .string "Server is shutting down")]

/-! ## The service itself -/

def exampleRequest : Json :=
  .object
    [("recordType", .string "transactionline"),
     ("filters", .array
       [.object [("field", .string "type"), ("operator", .string "equals"),
          ("value", .string "SalesOrd")],
        .object [("field", .string "trandate"), ("operator", .string "date_range"),
          ("startDate", .string "2024-01-01"), ("endDate", .string "2024-03-31")]]),
     ("fields", .array [.string "transaction", .string "item", .string "amount"]),
     ("orderBy", .string "trandate"), ("orderDir", .string "desc"), ("pageSize", .ofNat 100),
     ("pageIndex", .ofNat 0), ("usePagination", .bool true), ("debug", .bool false)]

def capabilities {σ : Type} (s : Service σ) : HttpResponse :=
  .json 200
    [("version", .string version), ("dialect", .string s.config.dialect.name),
     ("dateAwareComparisons", .bool s.config.dateAware), ("maxPageSize", .ofNat s.maxPageSize),
     ("operators", .array (Operator.all.map fun op => .string op.name)),
     ("operatorSymbols",
       .object (Operator.symbols.map fun (symbol, op) => (symbol, .string op.name))),
     ("recordTypes", .array (s.catalog.recordTypes.map .string)), ("example", exampleRequest)]

def health {σ : Type} (s : Service σ) (databaseOpen : Bool) : HttpResponse :=
  .json (if databaseOpen then 200 else 503)
    [("status", .string (if databaseOpen then "ok" else "unavailable")),
     ("version", .string version),
     ("database", .string (if databaseOpen then "open" else "closed")),
     ("recordTypes", .ofNat s.catalog.size)]

end FilterSql.Service
