import FilterSql.Query.Condition
import FilterSql.Query.Identifier
import FilterSql.Text.WhiteSpace

/-!
# Query plans

The parts of a SELECT statement, among them the direction of its order, and the statement that they
make.
-/

namespace FilterSql.Query

inductive Direction where
  | ascending
  | descending
  deriving DecidableEq, Repr

namespace Direction

/-- The word `desc` in any case asks for descending order; anything else is ascending. -/
def ofText? (text : Option String) : Direction :=
  match text with
  | some word =>
    if Text.sameIgnoringAsciiCase (Text.trim word) "desc" then .descending else .ascending
  | none => .ascending

def keyword : Direction → String
  | .ascending => "ASC"
  | .descending => "DESC"

end Direction

inductive Selection where
  | all
  | columns (names : List Identifier)
  deriving DecidableEq

inductive OrderKey where
  | column (name : String)
  /-- A column of the header row that the foreign key points to. -/
  | headerLookup (header : TableRef) (foreignKey field : String)
  deriving DecidableEq, Repr

structure Plan where
  select : Selection
  source : TableRef
  filter : List Fragment
  order : OrderKey
  direction : Direction
  deriving DecidableEq

namespace Plan

def selectFields (p : Plan) : List String :=
  match p.select with
  | .all => [(p.source.column "*").sql]
  | .columns names => names.map fun id => (p.source.column id.text).sql

def orderExpression (p : Plan) : String :=
  match p.order with
  | .column name => (p.source.column name).sql
  | .headerLookup header foreignKey field =>
    "(SELECT " ++ (header.column field).sql ++ " FROM " ++ header.sql ++ " WHERE " ++
      (header.column primaryKey).sql ++ " = " ++ (p.source.column foreignKey).sql ++ ")"

def orderSql (p : Plan) : String := p.orderExpression ++ " " ++ p.direction.keyword

def whereSql (p : Plan) : String :=
  if p.filter.isEmpty then "" else " WHERE " ++ (Fragment.conjunction p.filter).sql

def statement (p : Plan) : Statement :=
  ⟨"SELECT " ++ String.intercalate ", " p.selectFields ++ " FROM " ++ p.source.sql ++ p.whereSql ++
    " ORDER BY " ++ p.orderSql, (Fragment.conjunction p.filter).params⟩

end Plan

end FilterSql.Query
