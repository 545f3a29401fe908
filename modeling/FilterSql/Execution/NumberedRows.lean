import FilterSql.Execution

/-!
# Numbered rows

A backend without a database: its rows hold nothing but their numbers. Faults can be planted in
it, in the ranges that it reports, in a page that cannot be fetched or in pages that are too
short.
-/

namespace FilterSql

open Query

structure NumberedRows where
  total : Nat
  /-- Ranges that are reported instead of the true ones. -/
  ranges : Option (List PageRange) := none
  rangesFault : Option DataError := none
  /-- The index of a page that cannot be fetched. -/
  pageFault : Option (Nat × DataError) := none
  /-- How many rows are missing from each page. -/
  shortBy : Nat := 0

namespace NumberedRows

def row (i : Nat) : Record := [("id", .ofInt i)]

def reported (r : NumberedRows) (pageSize : Nat) : Except ExecutionFailure (List PageRange) :=
  match r.rangesFault with
  | some fault => .error (.backend fault)
  | none =>
    match r.ranges.or (PageRange.split? r.total pageSize) with
    | some ranges => .ok ranges
    | none => .error .overflow

def page (r : NumberedRows) (pageSize : Nat) (range : PageRange) :
    Except ExecutionFailure (List Record) :=
  let first := range.index * pageSize
  let count := range.size - r.shortBy
  match r.pageFault.filter (·.1 = range.index) with
  | some (_, fault) => .error (.backend fault)
  | none =>
    if Capacity.fitsWord (first + count) && count ≤ Execution.maxRows then
      .ok ((List.range' first count).map row)
    else .error .overflow

def backend (r : NumberedRows) : Backend Unit where
  pageRanges _ pageSize := .mk (pure (r.reported pageSize))
  fetchPage _ pageSize range := .mk (pure (r.page pageSize range))

end NumberedRows

end FilterSql
