import FilterSql.Catalog.Entry
import FilterSql.Json.Decoder
import FilterSql.Keyed

/-!
# Settings files

What a settings file says. Every section may be left out, and so may every setting in it. A file
is laid over another one setting by setting: where both give one, the upper file counts. The
record types of both are kept, and of two under one key that of the upper file.
-/

namespace FilterSql

open Json Query

structure ServerSection where
  host : Option String := none
  port : Option Nat := none
  deriving DecidableEq, Repr

structure DatabaseSection where
  path : Option String := none
  queryTimeout : Option Nat := none
  deriving DecidableEq, Repr

structure QuerySection where
  dialect : Option Dialect := none
  dateAware : Option Bool := none
  maxPageSize : Option Nat := none
  deriving DecidableEq, Repr

structure SettingsFile where
  server : Option ServerSection := none
  database : Option DatabaseSection := none
  query : Option QuerySection := none
  recordTypes : Keyed CatalogEntry := []
  deriving DecidableEq, Repr

/-! ## Laying one file over another -/

def ServerSection.overlay (below above : ServerSection) : ServerSection where
  host := above.host <|> below.host
  port := above.port <|> below.port

def DatabaseSection.overlay (below above : DatabaseSection) : DatabaseSection where
  path := above.path <|> below.path
  queryTimeout := above.queryTimeout <|> below.queryTimeout

def QuerySection.overlay (below above : QuerySection) : QuerySection where
  dialect := above.dialect <|> below.dialect
  dateAware := above.dateAware <|> below.dateAware
  maxPageSize := above.maxPageSize <|> below.maxPageSize

def SettingsFile.overlay (below above : SettingsFile) : SettingsFile where
  server := below.server.merge ServerSection.overlay above.server
  database := below.database.merge DatabaseSection.overlay above.database
  query := below.query.merge QuerySection.overlay above.query
  recordTypes := below.recordTypes.insertAll above.recordTypes

/-! ## Reading -/

def greatestWord : Nat := UInt64.size - 1

def greatestPort : Nat := UInt16.size - 1

def ServerSection.layout : List (Decoder.Field ServerSection) :=
  [.of "host" (.optional .text) fun x s => { s with host := x },
   .of "port" (.optional (.natural greatestPort)) fun x s => { s with port := x }]

def DatabaseSection.layout : List (Decoder.Field DatabaseSection) :=
  [.of "duckdb_path" (.optional .text) fun x s => { s with path := x },
   .of "query_timeout_secs" (.optional (.natural greatestWord)) fun x s =>
    { s with queryTimeout := x }]

def QuerySection.layout : List (Decoder.Field QuerySection) :=
  [.of "dialect" (.optional (.oneOf Dialect.ofName?)) fun x s => { s with dialect := x },
   .of "date_aware_comparisons" (.optional .flag) fun x s => { s with dateAware := x },
   .of "max_page_size" (.optional (.natural greatestWord)) fun x s => { s with maxPageSize := x }]

def HeaderLink.layout : List (Decoder.Field HeaderLink) :=
  [.needed "header_table" .text fun x h => { h with table := x },
   .needed "header_alias" .text fun x h => { h with aliasName := x },
   .needed "foreign_key" .text fun x h => { h with foreignKey := x },
   .defaulted "header_only_fields" (.list .text) fun x h => { h with fields := fieldNames x }]

/-- The filters are kept in the order of their fields; of two on one field the last stands. -/
def ImplicitFilter.ofPairs (pairs : List (String × String)) : List ImplicitFilter :=
  (Keyed.ofList pairs).map fun (field, value) => ⟨field, value⟩

def CatalogEntry.layout : List (Decoder.Field CatalogEntry) :=
  [.needed "table" .text fun x e => { e with table := x },
   .of "line" (.optional (.record HeaderLink.layout ⟨"", "", "", []⟩)) fun x e =>
    { e with header := x },
   .defaulted "implicit_filters" (.map .text) fun x e =>
    { e with implicitFilters := ImplicitFilter.ofPairs x }]

def recordTypesLayout : List (Decoder.Field (Keyed CatalogEntry)) :=
  [.defaulted "record_types" (.map (.record CatalogEntry.layout ⟨"", none, []⟩)) fun x _ =>
    Keyed.ofList x]

namespace SettingsFile

def layout : List (Decoder.Field SettingsFile) :=
  [.of "server" (.optional (.record ServerSection.layout {})) fun x f => { f with server := x },
   .of "database" (.optional (.record DatabaseSection.layout {})) fun x f =>
    { f with database := x },
   .of "query" (.optional (.record QuerySection.layout {})) fun x f => { f with query := x },
   .of "catalog" (.optional (.record recordTypesLayout [])) fun x f =>
    { f with recordTypes := x.getD [] }]

/-- The settings in the text of a file. Members that are no sections are read and have no effect. -/
def ofText? (text : String) : Option SettingsFile :=
  ((Decoder.object layout (.checked .value fun _ => some ()) {}).run text).toOption

end SettingsFile

end FilterSql
