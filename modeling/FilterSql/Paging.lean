import FilterSql.MachineWord
import FilterSql.Decimal.Literal
import FilterSql.Json.Basic
import FilterSql.Text.WhiteSpace

/-!
# Paging

The rows of a result are numbered from zero and cut into pages. `Page` is the page that a caller
asks for, `PageRange` one that a store reports, and `Pagination` what a caller is told about the
page that was fetched.
-/

namespace FilterSql

def maxPageSize : Nat := 1000

/-! ## Numbers in requests -/

def wholePart? (x : Float) : Option Int64 := (Decimal.Reading.ofFloat x).truncate?.map saturated

/-- The integer in a number or in the decimal text of one. Fractions are cut off. -/
def pageNumber? : Json → Option Int64
  | .number (.integer n) => some (saturated n)
  | .number (.float x) => wholePart? x
  | .string s => ((Decimal.Literal.read? (Text.trim s)).map (·.toFloat)).bind wholePart?
  | _ => none

/-! ## Pages -/

structure Page where
  size : Nat
  index : Nat
  paginated : Bool
  deriving DecidableEq, Repr

/-- The page for the numbers in a request, where `limit` bounds the size below `maxPageSize`.
Without a size a page is as large as it may be. -/
def Page.ofNumbers (size index : Option Int64) (paginated : Option Bool) (limit : Nat) : Page :=
  let ceiling := max 1 (min limit maxPageSize)
  { size := (size.map fun n => max 1 (min n.toInt.toNat ceiling)).getD ceiling
    index := (index.map (·.toInt.toNat)).getD 0
    paginated := paginated.getD true }

structure PageRange where
  index : Nat
  size : Nat
  deriving DecidableEq, Repr

/-- The least `q` with `n ≤ q * d`, for a positive `d`. -/
def ceilDiv (n d : Nat) : Nat := (n + d - 1) / d

namespace PageRange

/-- The number of pages that `total` rows make. A size of zero counts as one. -/
def count (total size : Nat) : Nat := ceilDiv total (max 1 size)

/-- Cuts `total` rows into pages; only the last one may have fewer rows than the others. A size of
zero counts as one. -/
def split (total size : Nat) : List PageRange :=
  let step := max 1 size
  (List.range (count total size)).map fun index => ⟨index, min step (total - index * step)⟩

@[simp] theorem length_split (total size : Nat) :
    (split total size).length = count total size := by
  simp [split]

/-- The most ranges that memory has room for: one takes two words. -/
def maxCount : Nat := Capacity.room 16

def split? (total size : Nat) : Option (List PageRange) :=
  if count total size ≤ maxCount then some (split total size) else none

def total (ranges : List PageRange) : Nat := ranges.foldr (fun r rows => r.size + rows) 0

end PageRange

structure Pagination where
  size : Nat
  index : Nat
  total : Nat
  deriving DecidableEq, Repr

namespace Pagination

def pages (p : Pagination) : Nat := ceilDiv p.total p.size

def next (p : Pagination) : Nat := (p.index + 1) * p.size

def hasMore (p : Pagination) : Bool := p.next < p.total

end Pagination

end FilterSql
