import FilterSql.Service.Address
import FilterSql.Service.Documentation

/-!
# The banner

What a service shows when it starts: where it can be reached and what it works with, in colours.
Its addresses are hyperlinks if that is asked for.
-/

namespace FilterSql.Service

namespace Banner

inductive Style where
  | bold
  | green
  | cyan
  | grey
  deriving DecidableEq, Repr

def Style.code : Style → String
  | bold => "1"
  | green => "32"
  | cyan => "36"
  | grey => "90"

def start (s : Style) : String := "\x1b[" ++ s.code ++ "m"

def stop : String := "\x1b[0m"

def styled (s : Style) (text : String) : String := start s ++ text ++ stop

def padded (label : String) : String :=
  label ++ String.ofList (List.replicate (10 - label.length) ' ')

/-- Text that leads to a URL. The terminal takes everything up to a bell as the target. -/
def hyperlinked (url text : String) : String :=
  "\x1b]8;;" ++ url ++ "\x07" ++ text ++ "\x1b]8;;\x07"

def note (label text : String) : String :=
  "  " ++ styled .grey ("➜  " ++ padded label ++ " " ++ text)

def product : String := "RecordQL"

end Banner

structure Banner where
  host : String
  port : Nat
  interfaces : List Address
  dataDirectory : String
  databaseFile : String
  recordTypes : Nat
  hyperlinks : Bool := false
  deriving DecidableEq, Repr

namespace Banner

/-- Where the service can be reached. A host that stands for every interface is shown as the local
one. -/
def url (b : Banner) : String :=
  httpUrl (if isEveryInterface b.host then "localhost" else b.host) b.port

def link (b : Banner) (label url : String) : String :=
  let shown := styled .cyan url
  "  " ++ styled .green "➜" ++ "  " ++ styled .bold (padded label) ++ " " ++
    if b.hyperlinks then hyperlinked url shown else shown

def network (b : Banner) : List String :=
  if ["127.0.0.1", "localhost"].contains b.host then
    [note "Network:" "use --host 0.0.0.0 to expose"]
  else if isEveryInterface b.host then
    (Address.networkHosts b.interfaces).map fun host => b.link "Network:" (httpUrl host b.port)
  else [b.link "Network:" b.url]

def lines (b : Banner) : List String :=
  ["", "  " ++ start .bold ++ styled .cyan product ++ " " ++ styled .grey ("v" ++ version), "",
   b.link "Query:" (b.url ++ "/api/v1/query"),
   b.link "OpenAPI:" (b.url ++ "/api/openapi.json")] ++
  b.network ++
  [note "Data:" b.dataDirectory, note "DuckDB:" b.databaseFile,
   note "Catalog:" (toString b.recordTypes ++ " record types"), ""]

def text (b : Banner) : String := String.join (b.lines.map (· ++ "\n"))

end Banner

end FilterSql.Service
