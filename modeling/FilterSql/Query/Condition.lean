import FilterSql.Query.Fragment

/-!
# Conditions on columns

The tests that a WHERE clause is made of, as data. `Condition.fragment` writes one in a dialect: the
dialects differ only in how they bind a date.
-/

namespace FilterSql.Query

inductive Dialect where
  /-- Dates are bound as plain text. -/
  | duckdb
  /-- Dates are converted by `TO_DATE`. -/
  | suiteql
  deriving DecidableEq, Repr

namespace Dialect

def name : Dialect → String
  | duckdb => "duckdb"
  | suiteql => "suiteql"

def ofName? : String → Option Dialect
  | "duckdb" => some duckdb
  | "suiteql" => some suiteql
  | _ => none

def datePlaceholder : Dialect → String
  | duckdb => "?"
  | suiteql => "TO_DATE(?, 'YYYY-MM-DD')"

end Dialect

structure Config where
  dialect : Dialect := .duckdb
  /-- Comparisons with a text that denotes a date are comparisons with the whole day. -/
  dateAware : Bool := true
  deriving DecidableEq, Repr

structure TableRef where
  table : String
  aliasName : String
  deriving DecidableEq, Repr

structure Column where
  aliasName : String
  name : String
  deriving DecidableEq, Repr

def Column.sql (c : Column) : String := c.aliasName ++ "." ++ c.name

def TableRef.column (t : TableRef) (name : String) : Column := ⟨t.aliasName, name⟩

def TableRef.sql (t : TableRef) : String := t.table ++ " " ++ t.aliasName

inductive Comparison where
  | eq
  | ne
  | lt
  | gt
  | le
  | ge
  deriving DecidableEq, Repr

def Comparison.symbol : Comparison → String
  | eq => "="
  | ne => "!="
  | lt => "<"
  | gt => ">"
  | le => "<="
  | ge => ">="

inductive Condition where
  | compare (c : Column) (op : Comparison) (value : Scalar)
  /-- Comparison with the first moment of a day. -/
  | bound (c : Column) (op : Comparison) (day : String)
  /-- From the first moment of one day to before that of another. -/
  | within (c : Column) (first last : String)
  | outside (c : Column) (first last : String)
  | like (c : Column) (negated : Bool) (pattern : String)
  | among (c : Column) (negated : Bool) (values : List Scalar)
  | null (c : Column) (negated : Bool)
  deriving DecidableEq

namespace Condition

def boundFragment (d : Dialect) (c : Column) (op : Comparison) (day : String) : Fragment :=
  ⟨c.sql ++ " " ++ op.symbol ++ " " ++ d.datePlaceholder, [.text day]⟩

def withinFragment (d : Dialect) (c : Column) (first last : String) : Fragment :=
  .conjunction [boundFragment d c .ge first, boundFragment d c .lt last]

def fragment (d : Dialect) : Condition → Fragment
  | compare c op value => ⟨c.sql ++ " " ++ op.symbol ++ " ?", [value]⟩
  | bound c op day => boundFragment d c op day
  | within c first last => withinFragment d c first last
  | outside c first last => (withinFragment d c first last).negate
  | like c negated pattern =>
    ⟨c.sql ++ (if negated then " NOT LIKE " else " LIKE ") ++ "? ESCAPE '\\'", [.text pattern]⟩
  | among c negated values =>
    ⟨c.sql ++ (if negated then " NOT IN (" else " IN (") ++
       Fragment.placeholderList values.length ++
      ")", values⟩
  | null c negated => ⟨c.sql ++ (if negated then " IS NOT NULL" else " IS NULL"), []⟩

end Condition

/-- A term of a WHERE clause: a condition on the base table, or membership of the header rows that
meet all of some conditions. -/
inductive Predicate where
  | plain (c : Condition)
  | headerMember (foreignKey : Column) (header : TableRef) (conditions : List Condition)
  deriving DecidableEq

def primaryKey : String := "id"

namespace Predicate

def fragment (d : Dialect) : Predicate → Fragment
  | plain c => c.fragment d
  | headerMember foreignKey header conditions =>
    let inner := Fragment.conjunction (conditions.map (·.fragment d))
    ⟨foreignKey.sql ++ " IN (SELECT " ++ (header.column primaryKey).sql ++ " FROM " ++ header.sql ++
      " WHERE " ++ inner.sql ++ ")", inner.params⟩

end Predicate

end FilterSql.Query
