import FilterSql.Json.Decoder
import FilterSql.Paging
import FilterSql.Query.Compile
import FilterSql.Service.MediaType

/-!
# Query bodies

The body of a query: what is asked for, which page of it, and whether the answer explains itself.
-/

namespace FilterSql.Service

open Json Query

structure QueryBody where
  recordType : Option String := none
  filters : Json := .null
  fields : Option (List String) := none
  orderBy : Option String := none
  orderDir : Option String := none
  pageSize : Option Json := none
  pageIndex : Option Json := none
  usePagination : Option Bool := none
  debug : Option Bool := none

inductive Rejection where
  | mediaType
  | tooLong
  | fault (f : Fault)
  | tooManyFields
  deriving DecidableEq, Repr

def maxSelectFields : Nat := 200

def maxBodyBytes : Nat := 2 * 1024 * 1024

namespace Rejection

def code : Rejection → String
  | mediaType | tooLong | fault _ => "JSON_PARSE_ERROR"
  | tooManyFields => "VALIDATION_ERROR"

/-- What a caller is told. `detail` is what the reader of JSON says of the first fault it meets. -/
def message (detail : String) : Rejection → String
  | mediaType => "Expected request with `Content-Type: application/json`"
  | tooLong => "Failed to buffer the request body: length limit exceeded"
  | fault .malformed => "Failed to parse the request body as JSON: " ++ detail
  | fault .mismatch => "Failed to deserialize the JSON body into the target type: " ++ detail
  | tooManyFields =>
    "fields cannot contain more than " ++ toString maxSelectFields ++ " entries"

end Rejection

def tooManyFieldsCode : String := "fields_too_many"

def checkFields (fields : List String) : Except Rejection Unit :=
  if maxSelectFields < fields.length then .error .tooManyFields else .ok ()

namespace QueryBody

def layout : List (Decoder.Field QueryBody) :=
  [.of "recordType" (.optional .text) fun x b => { b with recordType := x },
   .of "filters" .value fun x b => { b with filters := x },
   .of "fields" (.optional (.list .text)) fun x b => { b with fields := x },
   .of "orderBy" (.optional .text) fun x b => { b with orderBy := x },
   .of "orderDir" (.optional .text) fun x b => { b with orderDir := x },
   .of "pageSize" (.optional .value) fun x b => { b with pageSize := x },
   .of "pageIndex" (.optional .value) fun x b => { b with pageIndex := x },
   .of "usePagination" (.optional .flag) fun x b => { b with usePagination := x },
   .of "debug" (.optional .flag) fun x b => { b with debug := x }]

def read (mediaType : Option String) (bytes : ByteArray) : Except Rejection QueryBody := do
  if ¬ mediaType.any MediaType.isJson then .error .mediaType
  if maxBodyBytes < bytes.size then .error .tooLong
  let body ← ((Decoder.record layout {}).whole (Token.ofBytes bytes)).mapError .fault
  checkFields (body.fields.getD [])
  return body

def request (b : QueryBody) : Query.Request where
  recordType := b.recordType
  filter := b.filters
  fields := b.fields
  orderBy := b.orderBy
  orderDir := b.orderDir

def page (b : QueryBody) (limit : Nat) : Page :=
  .ofNumbers (b.pageSize.bind pageNumber?) (b.pageIndex.bind pageNumber?) b.usePagination limit

def wantsDebug (b : QueryBody) : Bool := b.debug.getD false

end QueryBody

end FilterSql.Service
