import FilterSql.Catalog.Alias
import FilterSql.Catalog.Entry
import FilterSql.Keyed
import FilterSql.Text.WhiteSpace

/-!
# The catalog of record types

Entries under lower-case keys in the order of the keys, with an alias for each. A catalog is built
from a list of entries in one go: every name in it is checked, and of entries with one key the
last stands.
-/

namespace FilterSql

open Query

structure Catalog where
  entries : Keyed CatalogEntry
  conflicts : List Char
  aliases : List (String × String)
  deriving Repr

structure ResolvedRecord where
  key : String
  aliasName : String
  entry : CatalogEntry
  deriving DecidableEq, Repr

namespace Catalog

def takenAliases (entries : Keyed CatalogEntry) : List String :=
  Alias.reserved ++ entries.filterMap fun (_, e) => e.header.map fun h => Text.lowercase h.aliasName

def build (entries : Keyed CatalogEntry) : Catalog :=
  let keys := entries.map Prod.fst
  let conflicts := Alias.conflictLetters keys
  { entries, conflicts
    aliases := Alias.assign conflicts (takenAliases entries) (Alias.byLength keys) }

def checkEntry (key : String) (entry : CatalogEntry) : Except QueryError Unit :=
  ((NameRole.recordType, key) :: entry.names).forM fun (role, name) =>
    discard (Identifier.check role name)

def ofEntries (entries : List (String × CatalogEntry)) : Except QueryError Catalog := do
  entries.forM fun (key, entry) => checkEntry key entry
  return build (.ofList (entries.map fun (key, entry) => (Text.lowercase key, entry)))

def extend (c : Catalog) (extra : List (String × CatalogEntry)) : Except QueryError Catalog :=
  ofEntries (c.entries ++ extra)

def keyOf (recordType : String) : String := Text.lowercase (Text.trim recordType)

def resolve (c : Catalog) (recordType : String) : Except QueryError ResolvedRecord :=
  let key := keyOf recordType
  match c.entries.lookup key with
  | some entry => .ok ⟨key, (c.aliases.lookup key).getD Alias.fallback, entry⟩
  | none => .error (.unsupportedRecordType recordType)

/-- The alias of a record type. One that is not in the catalog has its candidate. -/
def aliasOf (c : Catalog) (recordType : String) : String :=
  let key := keyOf recordType
  (c.aliases.lookup key).getD (Alias.candidate c.conflicts key)

def recordTypes (c : Catalog) : List String := c.entries.map Prod.fst

def size (c : Catalog) : Nat := c.entries.length

end Catalog

end FilterSql
