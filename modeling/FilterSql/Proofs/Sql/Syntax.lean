import FilterSql.Proofs.Sql.Lexer

/-!
# The syntax of queries

SELECT statements as syntax trees, and the reader that finds the tree of a statement. NOT binds
tighter than AND, and a subquery ends with its parentheses. Names are told from key words by where
they stand, so that a column may have any name.
-/

namespace FilterSql.Sql

open Query (Column TableRef Comparison Scalar Fragment Statement)

inductive Comparand where
  | value (v : Scalar)
  /-- A text that is converted to a date. -/
  | date (v : Scalar) (format : String)
  deriving DecidableEq

inductive Expr where
  | compare (c : Column) (op : Comparison) (comparand : Comparand)
  | like (c : Column) (pattern : Scalar) (escape : String)
  | among (c : Column) (values : List Scalar)
  | null (c : Column)
  /-- Membership of what a subquery selects. -/
  | member (c selected : Column) (source : TableRef) (filter : Expr)
  | not (e : Expr)
  | and (left right : Expr)
  deriving DecidableEq

inductive Item where
  | all (aliasName : String)
  | column (c : Column)
  deriving DecidableEq, Repr

inductive Order where
  | column (c : Column)
  /-- The column of the row whose key a column has. -/
  | lookup (selected : Column) (source : TableRef) (key reference : Column)
  deriving DecidableEq, Repr

structure Select where
  items : List Item
  source : TableRef
  filter : Option Expr
  order : Order
  descending : Bool
  deriving DecidableEq

abbrev Reader (α : Type) := List Lexeme → Option (α × List Lexeme)

namespace Reader

def column : Reader Column
  | .word a :: .dot :: .word name :: ls => some (⟨a, name⟩, ls)
  | _ => none

def table : Reader TableRef
  | .word table :: .word a :: ls => some (⟨table, a⟩, ls)
  | _ => none

def skip (l : Lexeme) : List Lexeme → Option (List Lexeme)
  | m :: ls => if m = l then some ls else none
  | [] => none

def comparand : Reader Comparand
  | .slot v :: ls => some (.value v, ls)
  | .word w :: .opening :: .slot v :: .comma :: .literal format :: .closing :: ls =>
    if w = "TO_DATE" then some (.date v format, ls) else none
  | _ => none

def slots : Reader (List Scalar)
  | .slot v :: .closing :: ls => some ([v], ls)
  | .slot v :: .comma :: ls => (slots ls).map fun (vs, ls) => (v :: vs, ls)
  | _ => none

/-- `SELECT` has been read already. -/
def subquery (inner : Reader Expr) (c : Column) : Reader Expr := fun ls => do
  let (selected, ls) ← column ls
  let ls ← skip (.word "FROM") ls
  let (source, ls) ← table ls
  let ls ← skip (.word "WHERE") ls
  let (filter, ls) ← inner ls
  let ls ← skip .closing ls
  return (.member c selected source filter, ls)

/-- What may stand behind a column or behind `NOT`. -/
def affirmed (inner : Reader Expr) (c : Column) : Reader Expr
  | .word "LIKE" :: .slot v :: .word "ESCAPE" :: .literal e :: ls => some (.like c v e, ls)
  | .word "IN" :: .opening :: .word "SELECT" :: ls => subquery inner c ls
  | .word "IN" :: .opening :: ls => (slots ls).map fun (vs, ls) => (.among c vs, ls)
  | _ => none

def test (inner : Reader Expr) (c : Column) : Reader Expr
  | .operator op :: ls => (comparand ls).map fun (y, ls) => (.compare c op y, ls)
  | .word "IS" :: .word "NULL" :: ls => some (.null c, ls)
  | .word "IS" :: .word "NOT" :: .word "NULL" :: ls => some (.not (.null c), ls)
  | .word "NOT" :: ls => (affirmed inner c ls).map fun (e, ls) => (.not e, ls)
  | ls => affirmed inner c ls

def factor (inner : Reader Expr) : Reader Expr
  | .word a :: .dot :: .word name :: ls => test inner ⟨a, name⟩ ls
  | .word "NOT" :: ls => (factor inner ls).map fun (e, ls) => (.not e, ls)
  | .opening :: ls => do
    let (e, ls) ← inner ls
    return (e, ← skip .closing ls)
  | _ => none

/-- Expressions nested at most `depth` deep, each AND counting too. -/
def expr : (depth : Nat) → Reader Expr
  | 0, _ => none
  | depth + 1, ls => do
    let (e, ls) ← factor (expr depth) ls
    match ls with
    | .word "AND" :: rest => (expr depth rest).map fun (e', ls) => (.and e e', ls)
    | _ => some (e, ls)

def itemOf? (aliasName : String) : Lexeme → Option Item
  | .star => some (.all aliasName)
  | .word name => some (.column ⟨aliasName, name⟩)
  | _ => none

def items : Reader (List Item)
  | .word a :: .dot :: l :: .comma :: ls => do
    let first ← itemOf? a l
    let (rest, ls) ← items ls
    return (first :: rest, ls)
  | .word a :: .dot :: l :: ls => (itemOf? a l).map fun item => ([item], ls)
  | _ => none

def filter (depth : Nat) : Reader (Option Expr)
  | .word "WHERE" :: ls => (expr depth ls).map fun (e, ls) => (some e, ls)
  | ls => some (none, ls)

def order : Reader Order
  | .opening :: .word "SELECT" :: ls => do
    let (selected, ls) ← column ls
    let ls ← skip (.word "FROM") ls
    let (source, ls) ← table ls
    let ls ← skip (.word "WHERE") ls
    let (key, ls) ← column ls
    let ls ← skip (.operator .eq) ls
    let (reference, ls) ← column ls
    return (.lookup selected source key reference, ← skip .closing ls)
  | ls => (column ls).map fun (c, ls) => (.column c, ls)

def descending : Reader Bool
  | .word "ASC" :: ls => some (false, ls)
  | .word "DESC" :: ls => some (true, ls)
  | _ => none

def select : Reader Select := fun ls => do
  let depth := ls.length
  let ls ← skip (.word "SELECT") ls
  let (items, ls) ← items ls
  let ls ← skip (.word "FROM") ls
  let (source, ls) ← table ls
  let (filter, ls) ← filter depth ls
  let ls ← skip (.word "ORDER") ls
  let ls ← skip (.word "BY") ls
  let (order, ls) ← order ls
  let (descending, ls) ← descending ls
  return (⟨items, source, filter, order, descending⟩, ls)

end Reader

/-- The query that a statement states, if all of the text makes one and takes all of the
parameters. -/
def read? (s : Statement) : Option Select := do
  let ls ← lex s.sql.toList s.params
  let (q, rest) ← Reader.select ls
  if rest.isEmpty then some q else none

def readExpr? (f : Fragment) : Option Expr := do
  let ls ← lex f.sql.toList f.params
  let (e, rest) ← Reader.expr ls.length ls
  if rest.isEmpty then some e else none

end FilterSql.Sql
