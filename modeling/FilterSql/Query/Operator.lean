import FilterSql.Text.Lowercase
import FilterSql.Text.WhiteSpace

/-!
# Filter operators

The closed set of operators. A token names one by its name in any letter case, or by a symbol for
the six comparisons.
-/

namespace FilterSql.Query

inductive Operator where
  | equals
  | notEquals
  | greaterThan
  | lessThan
  | greaterThanOrEqual
  | lessThanOrEqual
  | contains
  | startsWith
  | endsWith
  | notContains
  | isIn
  | notIn
  | isNull
  | isNotNull
  | dateRange
  | dateEquals
  | dateBefore
  | dateAfter
  | isTrue
  | isFalse
  deriving DecidableEq, Repr

namespace Operator

def all : List Operator :=
  [equals, notEquals, greaterThan, lessThan, greaterThanOrEqual, lessThanOrEqual, contains,
   startsWith, endsWith, notContains, isIn, notIn, isNull, isNotNull, dateRange, dateEquals,
   dateBefore, dateAfter, isTrue, isFalse]

def name : Operator → String
  | equals => "equals"
  | notEquals => "not_equals"
  | greaterThan => "greater_than"
  | lessThan => "less_than"
  | greaterThanOrEqual => "greater_than_or_equal"
  | lessThanOrEqual => "less_than_or_equal"
  | contains => "contains"
  | startsWith => "starts_with"
  | endsWith => "ends_with"
  | notContains => "not_contains"
  | isIn => "in"
  | notIn => "not_in"
  | isNull => "is_null"
  | isNotNull => "is_not_null"
  | dateRange => "date_range"
  | dateEquals => "date_equals"
  | dateBefore => "date_before"
  | dateAfter => "date_after"
  | isTrue => "is_true"
  | isFalse => "is_false"

def symbols : List (String × Operator) :=
  [("!=", notEquals), ("<", lessThan), ("<=", lessThanOrEqual), ("=", equals), (">", greaterThan),
   (">=", greaterThanOrEqual)]

def ofToken? (token : String) : Option Operator :=
  let word := Text.trim token
  (symbols.lookup word).or (all.find? fun op => op.name == Text.lowercase word)

def takesList : Operator → Bool
  | isIn | notIn => true
  | _ => false

theorem mem_all (op : Operator) : op ∈ all := by cases op <;> decide

theorem name_injective {a b : Operator} (h : a.name = b.name) : a = b := by
  cases a <;> cases b <;> first | rfl | exact absurd h (by decide)

end Operator

end FilterSql.Query
