import FilterSql.Proofs.Sql.Like
import FilterSql.Proofs.Sql.Syntax
import FilterSql.Text.Lowercase

/-!
# The meaning of queries

The three-valued meaning of the expressions of a WHERE clause. What a store makes of bound values
and how it compares them is left to it: `Store` assumes nothing. A row is admitted if the expression
is true of it, which is neither false nor unknown.
-/

namespace FilterSql.Sql

open Query (Column TableRef Comparison Scalar)

-- ---------------------------------------------------------------------------
-- Three values
-- ---------------------------------------------------------------------------

/-- A truth value; `none` is unknown. -/
abbrev Truth := Option Bool

namespace Truth

def not : Truth → Truth := Option.map Bool.not

def and : Truth → Truth → Truth
  | some false, _ | _, some false => some false
  | some true, some true => some true
  | _, _ => none

def or : Truth → Truth → Truth
  | some true, _ | _, some true => some true
  | some false, some false => some false
  | _, _ => none

def any (ts : List Truth) : Truth := ts.foldr or (some false)

theorem and_eq_true {a b : Truth} : a.and b = some true ↔ a = some true ∧ b = some true := by
  rcases a with - | - | - <;> rcases b with - | - | - <;> simp [and]

theorem and_eq_false {a b : Truth} : a.and b = some false ↔ a = some false ∨ b = some false := by
  rcases a with - | - | - <;> rcases b with - | - | - <;> simp [and]

theorem and_some (a b : Bool) : and (some a) (some b) = some (a && b) := by
  cases a <;> cases b <;> rfl

theorem or_eq_true {a b : Truth} : a.or b = some true ↔ a = some true ∨ b = some true := by
  rcases a with - | - | - <;> rcases b with - | - | - <;> simp [or]

theorem or_eq_false {a b : Truth} : a.or b = some false ↔ a = some false ∧ b = some false := by
  rcases a with - | - | - <;> rcases b with - | - | - <;> simp [or]

theorem not_eq_true {a : Truth} : a.not = some true ↔ a = some false := by
  rcases a with - | - | - <;> simp [not]

theorem any_eq_true {ts : List Truth} : any ts = some true ↔ some true ∈ ts := by
  induction ts with
  | nil => simp [any]
  | cons t ts ih =>
    have step : any (t :: ts) = t.or (any ts) := rfl
    rw [step, or_eq_true, ih, List.mem_cons, eq_comm]

theorem any_eq_false {ts : List Truth} : any ts = some false ↔ ∀ t ∈ ts, t = some false := by
  induction ts with
  | nil => simp [any]
  | cons t ts ih =>
    have step : any (t :: ts) = t.or (any ts) := rfl
    rw [step, or_eq_false, ih, List.forall_mem_cons]

end Truth

-- ---------------------------------------------------------------------------
-- Stores
-- ---------------------------------------------------------------------------

structure Store (V : Type) where
  ofScalar : Scalar → V
  toDate : V → String → Option V
  /-- How two values compare, if they do. -/
  compare : V → V → Option Ordering
  /-- The text in which a value is put to LIKE. -/
  text? : V → Option String

/-- The values of the columns of a row; `none` is NULL. -/
abbrev Row (V : Type) := String → Option V

abbrev Tables (V : Type) := String → List (Row V)

/-- The rows that names are looked up in, with the aliases of their tables, innermost first. -/
abbrev Scope (V : Type) := List (String × Row V)

/-- The value of a column, if a table in scope has the alias, letter case aside. -/
def Scope.value? (scope : Scope V) (c : Column) : Option (Option V) :=
  (scope.find? fun named => Text.lowercase named.1 == Text.lowercase c.aliasName).map fun named =>
    named.2 c.name

namespace Store

variable (s : Store V)

def accepts : Comparison → Ordering → Bool
  | .eq, o => o == .eq
  | .ne, o => o != .eq
  | .lt, o => o == .lt
  | .gt, o => o == .gt
  | .le, o => o != .gt
  | .ge, o => o != .lt

/-- Comparison of two values, which is unknown if one of them is NULL or they do not compare. -/
def compares (x : Option V) (op : Comparison) (y : Option V) : Truth := do
  let order ← s.compare (← x) (← y)
  return accepts op order

def comparand : Comparand → Option V
  | .value v => some (s.ofScalar v)
  | .date v format => s.toDate (s.ofScalar v) format

def like (x : Option V) (pattern : Scalar) (escape : String) : Truth := do
  let text ← s.text? (← x)
  let pattern ← pattern.asText?
  match escape.toList with
  | [e] => Like.matches? e pattern text
  | _ => none

end Store

def Expr.eval (s : Store V) (tables : Tables V) : Expr → Scope V → Truth
  | .compare c op y, scope => s.compares (scope.value? c).join op (s.comparand y)
  | .like c pattern escape, scope => s.like (scope.value? c).join pattern escape
  | .among c vs, scope =>
    Truth.any (vs.map fun v => s.compares (scope.value? c).join .eq (some (s.ofScalar v)))
  | .null c, scope => (scope.value? c).map Option.isNone
  | .member c selected source filter, scope =>
    let rows := (tables source.table).map fun row => (source.aliasName, row) :: scope
    Truth.any ((rows.filter fun inner => filter.eval s tables inner = some true).map fun inner =>
      s.compares (scope.value? c).join .eq (Scope.value? inner selected).join)
  | .not e, scope => (e.eval s tables scope).not
  | .and a b, scope => (a.eval s tables scope).and (b.eval s tables scope)

/-- Whether a row of the table that is selected from gets past the WHERE clause. -/
def Select.Admits (q : Select) (s : Store V) (tables : Tables V) (row : Row V) : Prop :=
  ∀ e ∈ q.filter, e.eval s tables [(q.source.aliasName, row)] = some true

end FilterSql.Sql
