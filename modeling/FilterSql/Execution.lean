import FilterSql.Execution.Backend

/-!
# Executing statements

`execute` fetches one page or all pages of a statement. The page asked for is looked up among the
ranges that the backend reports, and the last of them stands in for one that is not there. Nothing
is tried twice: the first failure is the result. A backend may report any ranges, so it is a
failure too if the rows in them are too many to be counted or held.
-/

namespace FilterSql

open Query

structure Execution where
  rows : List Record
  pageSize : Nat
  /-- The page among all rows; there is none if all of them were fetched. -/
  pagination : Option Pagination
  pagesFetched : Nat

namespace Execution

def recordCount (e : Execution) : Nat := e.rows.length

def pageIndex (e : Execution) : Nat := (e.pagination.map Pagination.index).getD 0

/-- The number of rows of the statement, as far as it is known. -/
def totalRecords (e : Execution) : Nat := (e.pagination.map Pagination.total).getD e.recordCount

/-- The most rows that memory has room for: one takes nine words, its columns aside. -/
def maxRows : Nat := Capacity.room 72

end Execution

namespace Backend

variable {σ : Type}

def pick? (ranges : List PageRange) (index : Nat) : Option PageRange :=
  ranges[index]?.or ranges.getLast?

def require (holds : Bool) : BackendM σ Unit := unless holds do throw .overflow

def fetchOne (b : Backend σ) (statement : Statement) (page : Page) (ranges : List PageRange) :
    BackendM σ Execution := do
  let total := PageRange.total ranges
  require (Capacity.fitsWord total)
  match pick? ranges page.index with
  | none =>
    return { rows := [], pageSize := page.size, pagination := some ⟨page.size, 0, 0⟩,
             pagesFetched := 0 }
  | some range =>
    let rows ← b.fetchPage statement page.size range
    let pagination : Pagination := ⟨page.size, range.index, total⟩
    require (Capacity.fitsWord pagination.next)
    return { rows, pageSize := page.size, pagination, pagesFetched := 1 }

def fetchAll (b : Backend σ) (statement : Statement) (page : Page) (ranges : List PageRange) :
    BackendM σ Execution := do
  require (PageRange.total ranges ≤ Execution.maxRows)
  let pages ← ranges.mapM fun range => b.fetchPage statement page.size range
  return {
    rows := pages.flatten
    pageSize := page.size
    pagination := none
    pagesFetched := ranges.length }

def execute (b : Backend σ) (statement : Statement) (page : Page) : BackendM σ Execution := do
  let ranges ← b.pageRanges statement page.size
  if page.paginated then b.fetchOne statement page ranges else b.fetchAll statement page ranges

end Backend

/-! ## What a caller gets to see, as members of a JSON object -/

def Json.ofNat (n : Nat) : Json := .ofInt n

def Pagination.toJson (p : Pagination) : Json :=
  .object
    [("pageSize", .ofNat p.size), ("pageIndex", .ofNat p.index), ("totalRecords", .ofNat p.total),
     ("totalPages", .ofNat p.pages), ("hasMore", .bool p.hasMore)]

namespace Execution

def envelope (e : Execution) : Json.Members :=
  [("success", .bool true), ("data", .array (e.rows.map .object)),
   ("recordCount", .ofNat e.recordCount)] ++
    (e.pagination.map fun p => ("pagination", p.toJson)).toList

def stats (e : Execution) (elapsedMs : Nat) : Json.Members :=
  [("pageSize", .ofNat e.pageSize), ("pageIndex", .ofNat e.pageIndex),
   ("totalRecords", .ofNat e.totalRecords), ("returnedRecords", .ofNat e.recordCount),
   ("usePagination", .bool e.pagination.isSome), ("pagesFetched", .ofNat e.pagesFetched),
   ("elapsedMs", .ofNat elapsedMs)]

end Execution

end FilterSql
