import FilterSql.Paging
import FilterSql.Settings.File

/-!
# Settings

The settings of a service. Each comes from the command line or the environment, else from the
files, else it has its default; which of them it is does not depend on any other setting. Only the
settings that result are checked, not those that were passed over.
-/

namespace FilterSql

open Query

structure Overrides where
  host : Option String := none
  port : Option Nat := none
  /-- The settings file to use instead of the one in the working directory. -/
  settingsFile : Option String := none
  dataDirectory : Option String := none
  noBanner : Option Bool := none
  databasePath : Option String := none
  queryTimeout : Option Nat := none
  dialect : Option Dialect := none
  dateAware : Option Bool := none
  maxPageSize : Option Nat := none
  deriving DecidableEq, Repr

/-- What is asked for by the first, and by the second where the first is silent. -/
def Overrides.orElse (first second : Overrides) : Overrides where
  host := first.host <|> second.host
  port := first.port <|> second.port
  settingsFile := first.settingsFile <|> second.settingsFile
  dataDirectory := first.dataDirectory <|> second.dataDirectory
  noBanner := first.noBanner <|> second.noBanner
  databasePath := first.databasePath <|> second.databasePath
  queryTimeout := first.queryTimeout <|> second.queryTimeout
  dialect := first.dialect <|> second.dialect
  dateAware := first.dateAware <|> second.dateAware
  maxPageSize := first.maxPageSize <|> second.maxPageSize

structure Settings where
  host : String
  port : Nat
  /-- The database file, unless it is the one in the data directory. -/
  databasePath : Option String
  queryTimeout : Nat
  config : Config
  maxPageSize : Nat
  /-- Record types beside the built-in ones, or in place of them. -/
  recordTypes : Keyed CatalogEntry
  dataDirectory : Option String
  noBanner : Bool
  deriving DecidableEq, Repr

inductive SettingsError where
  | emptyHost
  | zeroPort
  | zeroTimeout
  | pageSize (size : Nat)
  | missingFile (path : String)
  | unreadableFile (path : String)
  | malformedFile (path : String)
  deriving DecidableEq, Repr

def SettingsError.message : SettingsError → String
  | emptyHost => "Configuration error: server.host must not be empty"
  | zeroPort => "Configuration error: server.port must be greater than 0"
  | zeroTimeout => "Configuration error: database.query_timeout_secs must be greater than 0"
  | pageSize size =>
    "Configuration error: query.max_page_size must be between 1 and " ++
      toString FilterSql.maxPageSize ++ " (got " ++ toString size ++ ")"
  | missingFile path => "Config file not found: " ++ path
  | unreadableFile path => "Failed to read config file: " ++ path
  | malformedFile path => "Failed to parse config file: " ++ path

/-! ## Single settings of a file, in whatever section they stand -/

namespace SettingsFile

def host? (f : SettingsFile) : Option String := f.server.bind (·.host)
def port? (f : SettingsFile) : Option Nat := f.server.bind (·.port)
def databasePath? (f : SettingsFile) : Option String := f.database.bind (·.path)
def queryTimeout? (f : SettingsFile) : Option Nat := f.database.bind (·.queryTimeout)
def dialect? (f : SettingsFile) : Option Dialect := f.query.bind (·.dialect)
def dateAware? (f : SettingsFile) : Option Bool := f.query.bind (·.dateAware)
def maxPageSize? (f : SettingsFile) : Option Nat := f.query.bind (·.maxPageSize)

end SettingsFile

namespace Settings

def defaultHost : String := "127.0.0.1"
def defaultPort : Nat := 5390
def defaultQueryTimeout : Nat := 30

def layered (o : Overrides) (f : SettingsFile) : Settings where
  host := (o.host <|> f.host?).getD defaultHost
  port := (o.port <|> f.port?).getD defaultPort
  databasePath := o.databasePath <|> f.databasePath?
  queryTimeout := (o.queryTimeout <|> f.queryTimeout?).getD defaultQueryTimeout
  config :=
    { dialect := (o.dialect <|> f.dialect?).getD .duckdb
      dateAware := (o.dateAware <|> f.dateAware?).getD true }
  maxPageSize := (o.maxPageSize <|> f.maxPageSize?).getD FilterSql.maxPageSize
  recordTypes := f.recordTypes
  dataDirectory := o.dataDirectory
  noBanner := o.noBanner.getD false

def fault? (s : Settings) : Option SettingsError :=
  if s.host.isEmpty then some .emptyHost
  else if s.port = 0 then some .zeroPort
  else if s.queryTimeout = 0 then some .zeroTimeout
  else if 1 ≤ s.maxPageSize ∧ s.maxPageSize ≤ FilterSql.maxPageSize then none
  else some (.pageSize s.maxPageSize)

def ofLayers (o : Overrides) (f : SettingsFile) : Except SettingsError Settings :=
  let s := layered o f
  match s.fault? with
  | some e => .error e
  | none => .ok s

end Settings

end FilterSql
