import FilterSql.Catalog.Builtin
import FilterSql.CommandLine.Parse
import FilterSql.Environment
import FilterSql.FilePath
import FilterSql.Json.Reader
import FilterSql.Query.Compile
import FilterSql.Service.Address
import FilterSql.Service.Banner
import FilterSql.Settings.Load

/-!
# The program

What the program does with a command line: it compiles one query and shows the SQL, or it gets a
service ready. What it asks of the machine it asks through `Machine`.
-/

namespace FilterSql

open CommandLine Query

structure Outcome where
  exitCode : Nat
  output : String := ""
  errors : String := ""
  deriving DecidableEq, Repr

namespace Program

inductive Failure where
  | filters
  | settings (e : SettingsError)
  | catalog (e : QueryError)
  | query (e : CompileFailure)
  | dataDirectory (path : String)
  | databaseDirectory (path : String)
  | address
  /-- Nothing listens at addresses here. -/
  | listener (host : String) (port : Nat)

def Failure.message : Failure → String
  | filters => "Invalid --filters JSON"
  | settings e => e.message
  | catalog _ => Catalog.configuredFailure
  | query (.refused e) => e.message
  | query (.unbalanced f) => "Unbalanced placeholders: " ++ f.sql
  | dataDirectory path => "Failed to create data directory: " ++ path
  | databaseDirectory path => "Failed to create duckdb directory: " ++ path
  | address => "invalid IP address syntax"
  | listener host port => "Cannot listen on " ++ host ++ ":" ++ toString port

def Failure.outcome (output : String) (f : Failure) : Outcome where
  exitCode := 1
  output
  errors := "\nError: " ++ f.message ++ "\n\n"

def versionText : String := "recordql " ++ Service.version ++ "\n"

def stopped : Stop → Outcome
  | .help => { exitCode := 0, output := usage }
  | .version => { exitCode := 0, output := versionText }
  | .misuse m => { exitCode := 2, errors := "error: " ++ m.message ++ "\n" }

variable {m : Type → Type} [Monad m]

/-! ## Compiling a query -/

def request (q : QueryWords) : Except Failure Request := do
  let filter ← match q.filters.map Json.parse? with
    | none => pure .null
    | some (some j) => pure j
    | some none => throw .filters
  return { filter
           recordType := q.recordType
           fields := if q.fields.isEmpty then none else some q.fields
           orderBy := q.orderBy
           orderDir := q.orderDir }

def report (c : Compiled) : String :=
  let params := Json.array (c.statement.params.map Scalar.toJson)
  "-- " ++ c.recordType ++ " (" ++ c.table ++ " " ++ c.aliasName ++ ")\n" ++
    c.statement.sql ++ "\n" ++
    "-- params: " ++ params.render ++ "\n"

def catalog (s : Settings) : Except Failure Catalog :=
  (Catalog.configured s.recordTypes).mapError .catalog

def compiled (s : Settings) (r : Request) : Except Failure Compiled := do
  (compile (← catalog s) s.config r).mapError .query

def compileQuery (machine : Machine m) (around : Surroundings) (o : Overrides) (q : QueryWords) :
    ExceptT Failure m String := do
  let r ← request q
  let s ← (machine.settings around o).adapt .settings
  return report (← compiled s r)

/-! ## Getting a service ready -/

/-- A service that only lacks somebody who listens. -/
structure Ready where
  settings : Settings
  catalog : Catalog
  dataDirectory : String
  databaseFile : String

def Ready.banner (r : Ready) (interfaces : List Service.Address) (hyperlinks : Bool) :
    Service.Banner where
  host := r.settings.host
  port := r.settings.port
  interfaces
  dataDirectory := r.dataDirectory
  databaseFile := r.databaseFile
  recordTypes := r.catalog.size
  hyperlinks

def makeDirectories (machine : Machine m) (path : String) : ExceptT Failure m String := do
  unless ← machine.makeDirectory path do throw (.dataDirectory path)
  let databases := Storage.databaseDirectory path
  unless ← machine.makeDirectory databases do throw (.databaseDirectory databases)
  machine.canonical path

def prepare (machine : Machine m) (around : Surroundings) (o : Overrides) :
    ExceptT Failure m Ready := do
  let settings ← (machine.settings around o).adapt .settings
  -- The directories are there even if the catalog turns out to be at fault.
  let dataDirectory ←
    makeDirectories machine (settings.dataDirectory.getD (Storage.defaultDirectory around))
  let catalog ← catalog settings
  let databases ← machine.canonical (Storage.databaseDirectory dataDirectory)
  let databaseFile := match settings.databasePath with
    | some path => FilePath.expand around path
    | none => FilePath.join databases Storage.databaseName
  return { settings, catalog, dataDirectory, databaseFile }

/-- The outcome for a service that is ready: it shows its banner and stops where it would listen. -/
def Ready.outcome (r : Ready) (interfaces : List Service.Address) (hyperlinks : Bool) : Outcome :=
  let output := if r.settings.noBanner then "" else (r.banner interfaces hyperlinks).text
  match Service.Address.ofText? r.settings.host with
  | none => Failure.address.outcome output
  | some _ => (Failure.listener r.settings.host r.settings.port).outcome output

/-! ## Running -/

def run (machine : Machine m) (words : List String) : m Outcome := do
  let names := Environment.hyperlinkVariable :: Argument.envNames ++ Environment.directoryVariables
  let vars ← Environment.load machine names
  match CommandLine.parse (fun name => vars.lookup name) words with
  | .error stop => return stopped stop
  | .ok invocation =>
    let around := Environment.surroundings vars (← machine.workingDirectory)
    let o := invocation.overrides
    match invocation.command with
    | some (.compile q) =>
      match ← (compileQuery machine around o q).run with
      | .ok output => return { exitCode := 0, output }
      | .error f => return f.outcome ""
    | some .start | none =>
      match ← (prepare machine around o).run with
      | .ok ready =>
        return ready.outcome (← machine.interfaces) (Environment.wantsHyperlinks vars)
      | .error f => return f.outcome ""

end Program

end FilterSql
