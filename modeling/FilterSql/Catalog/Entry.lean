import FilterSql.Query.Condition
import FilterSql.Query.Error

/-!
# Catalog entries

What the catalog knows of a record type: its table, the header table that a line table belongs to,
and the filters that every query on it carries.
-/

namespace FilterSql

open Query

structure HeaderLink where
  table : String
  aliasName : String
  /-- The column of the line table that holds the id of its header row. -/
  foreignKey : String
  /-- The lower-case names of the fields that only the header table has, in order. -/
  fields : List String
  deriving DecidableEq, Repr

/-- An equality that is added to every query. -/
structure ImplicitFilter where
  field : String
  value : String
  deriving DecidableEq, Repr

structure CatalogEntry where
  table : String
  header : Option HeaderLink := none
  implicitFilters : List ImplicitFilter := []
  deriving DecidableEq, Repr

namespace HeaderLink

def tableRef (h : HeaderLink) : TableRef := ⟨h.table, h.aliasName⟩

def insertName (name : String) : List String → List String
  | [] => [name]
  | n :: rest =>
    if name = n then n :: rest
    else if name < n then name :: n :: rest
    else n :: insertName name rest

def fieldNames (names : List String) : List String :=
  names.foldl (fun found name => insertName (Text.lowercase name) found) []

def ofFields (table aliasName foreignKey : String) (fields : List String) : HeaderLink :=
  { table, aliasName, foreignKey, fields := fieldNames fields }

end HeaderLink

namespace CatalogEntry

def isHeaderField (e : CatalogEntry) (field : String) : Bool :=
  e.header.any (·.fields.contains (Text.lowercase field))

/-- The names of an entry with their roles, in the order in which they are checked. -/
def names (e : CatalogEntry) : List (NameRole × String) :=
  (.baseTable, e.table) ::
    (match e.header with
      | none => []
      | some h =>
        (.headerTable, h.table) :: (.headerAlias, h.aliasName) :: (.foreignKey, h.foreignKey) ::
          h.fields.map (.headerField, ·)) ++
    e.implicitFilters.map fun f => (.implicitFilterField, f.field)

end CatalogEntry

end FilterSql
