/-!
# Arguments

The arguments that are given by name, and how they are written: a name behind two hyphens, for
some a letter behind one hyphen, for some an environment variable.
-/

namespace FilterSql.CommandLine

inductive Argument where
  | host
  | port
  | settingsFile
  | dataDirectory
  | noBanner
  | databasePath
  | queryTimeout
  | dialect
  | dateAware
  | maxPageSize
  | recordType
  | filters
  | fields
  | orderBy
  | orderDir
  deriving DecidableEq, Repr

namespace Argument

def general : List Argument :=
  [host, port, settingsFile, dataDirectory, noBanner, databasePath, queryTimeout, dialect,
   dateAware, maxPageSize]

def ofQuery : List Argument := [recordType, filters, fields, orderBy, orderDir]

def name : Argument → String
  | host => "host"
  | port => "port"
  | settingsFile => "config"
  | dataDirectory => "data-dir"
  | noBanner => "no-banner"
  | databasePath => "duckdb-path"
  | queryTimeout => "query-timeout"
  | dialect => "dialect"
  | dateAware => "date-aware-comparisons"
  | maxPageSize => "max-page-size"
  | recordType => "record-type"
  | filters => "filters"
  | fields => "fields"
  | orderBy => "order-by"
  | orderDir => "order-dir"

def letter? : Argument → Option Char
  | host => some 'H'
  | port => some 'p'
  | settingsFile => some 'c'
  | recordType => some 'r'
  | filters => some 'f'
  | _ => none

def envName? : Argument → Option String
  | host => some "RECORDQL_HOST"
  | port => some "RECORDQL_PORT"
  | settingsFile => some "RECORDQL_CONFIG"
  | dataDirectory => some "RECORDQL_DATA_DIR"
  | noBanner => some "RECORDQL_NO_BANNER"
  | databasePath => some "RECORDQL_DUCKDB_PATH"
  | queryTimeout => some "RECORDQL_QUERY_TIMEOUT_SECS"
  | dialect => some "RECORDQL_QUERY_DIALECT"
  | dateAware => some "RECORDQL_DATE_AWARE_COMPARISONS"
  | maxPageSize => some "RECORDQL_MAX_PAGE_SIZE"
  | _ => none

def envNames : List String := general.filterMap envName?

def isSwitch (a : Argument) : Bool := a = noBanner

def mayRepeat (a : Argument) : Bool := a = fields

end Argument

def Argument.usage (a : Argument) : String :=
  let letter := match a.letter? with
    | some c => String.ofList ['-', c] ++ ", "
    | none => "    "
  "  " ++ letter ++ "--" ++ a.name ++ (if a.isSwitch then "" else " <value>")

def usage : String :=
  String.intercalate "\n" <|
    ["Compiles record filters into SQL and serves queries", "",
     "Usage: recordql [OPTIONS] [COMMAND]", "", "Commands:",
     "  start    Start the server (default command)",
     "  compile  Compile a query and print the SQL without executing it",
     "  help     Print this message", "", "Options:"] ++
    Argument.general.map Argument.usage ++
    ["  -h, --help", "  -V, --version", "", "Options of compile:"] ++
    Argument.ofQuery.map Argument.usage ++ [""]

end FilterSql.CommandLine
