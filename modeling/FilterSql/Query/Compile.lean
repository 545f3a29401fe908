import FilterSql.Catalog.Basic
import FilterSql.Query.Filter
import FilterSql.Query.Plan
import FilterSql.Query.TermCondition

/-!
# Compiling requests

A request names a record type, a filter, the fields to select and an order. `compile` turns it
into a plan over the tables of the catalog, or says why it cannot.

On a line table the terms on header fields go to the header table: together they select header
rows, and one predicate in front of the others asks for membership of those.
-/

namespace FilterSql.Query

structure Request where
  recordType : Option String := none
  filter : Json := .null
  fields : Option (List String) := none
  orderBy : Option String := none
  orderDir : Option String := none

/-- A compiled request. The predicates are what the filter of the plan writes down. -/
structure Compiled where
  recordType : String
  predicates : List Predicate
  plan : Plan

namespace Compiled

def table (c : Compiled) : String := c.plan.source.table

def aliasName (c : Compiled) : String := c.plan.source.aliasName

def statement (c : Compiled) : Statement := c.plan.statement

end Compiled

/-- Why there is no compiled request. An unbalanced fragment is not the caller's fault: it would
be a name in the catalog that holds a question mark. -/
inductive CompileFailure where
  | refused (e : QueryError)
  | unbalanced (f : Fragment)

def checkedFragment (d : Dialect) (p : Predicate) : Except CompileFailure Fragment :=
  let f := p.fragment d
  if f.Balanced then .ok f else .error (.unbalanced f)

def conditions (config : Config) (aliasName : String) (ts : List Term) :
    Except QueryError (List Condition) :=
  ts.mapM (·.condition config aliasName)

def termPredicates (config : Config) (source : TableRef) (entry : CatalogEntry) (ts : List Term) :
    Except QueryError (List Predicate) :=
  match entry.header with
  | none => return (← conditions config source.aliasName ts).map .plain
  | some h => do
    let onHeader := ts.filter fun t => entry.isHeaderField t.field.text
    let onLine := ts.filter fun t => !entry.isHeaderField t.field.text
    let headerConditions ← conditions config h.aliasName onHeader
    let lineConditions ← conditions config source.aliasName onLine
    let member :=
      if onHeader.isEmpty then []
      else [.headerMember (source.column h.foreignKey) h.tableRef headerConditions]
    return member ++ lineConditions.map .plain

def namesField (ts : List Term) (field : String) : Bool := ts.any (·.field.sameAs field)

def implicitPredicates (source : TableRef) (entry : CatalogEntry) (ts : List Term) :
    List Predicate :=
  (entry.implicitFilters.filter fun f => !namesField ts f.field).map fun f =>
    .plain (.compare (source.column f.field) .eq (.text f.value))

/-- The order of the rows: by the requested column, or else by the foreign key of a line table and
by the primary key of any other. -/
def orderKey (entry : CatalogEntry) (orderBy : Option Identifier) : OrderKey :=
  match orderBy, entry.header with
  | some field, some h =>
    if entry.isHeaderField field.text then
      .headerLookup h.tableRef h.foreignKey field.text
    else .column field.text
  | some field, none => .column field.text
  | none, some h => .column h.foreignKey
  | none, none => .column primaryKey

/-- No list and an empty list select everything. -/
def selection : Option (List String) → Except QueryError Selection
  | none | some [] => .ok .all
  | some names =>
    return .columns (← names.mapM fun name => Identifier.check .fields (Text.trim name))

def orderColumn (orderBy : Option String) : Except QueryError (Option Identifier) :=
  match orderBy.bind Text.trimmed? with
  | none => .ok none
  | some name => some <$> Identifier.check .orderBy name

def outline (catalog : Catalog) (config : Config) (r : Request) : Except QueryError Compiled := do
  let some recordType := r.recordType.bind Text.trimmed? | .error .missingRecordType
  let ts ← Filter.terms r.filter
  let found ← catalog.resolve recordType
  let source : TableRef := ⟨found.entry.table, found.aliasName⟩
  let select ← selection r.fields
  let orderBy ← orderColumn r.orderBy
  let onTerms ← termPredicates config source found.entry ts
  return {
    recordType := found.key
    predicates := onTerms ++ implicitPredicates source found.entry ts
    plan := {
      select, source
      filter := []
      order := orderKey found.entry orderBy
      direction := Direction.ofText? r.orderDir } }

def compile (catalog : Catalog) (config : Config) (r : Request) :
    Except CompileFailure Compiled := do
  let c ← (outline catalog config r).mapError .refused
  let filter ← c.predicates.mapM (checkedFragment config.dialect)
  return { c with plan := { c.plan with filter } }

end FilterSql.Query
