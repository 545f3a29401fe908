import Mathlib.Algebra.GroupWithZero.Nat
import Mathlib.Order.Bounds.Basic
import FilterSql.Paging

/-!
# Pages of rows

The pages into which rows are cut, counted and put together again. `flatten_pages`: one after
another the pages make all of the rows. `Pagination.hasMore_iff`: there is more after a page exactly
if it is not the last one.
-/

namespace FilterSql

variable {α : Type} {size : Nat}

-- ---------------------------------------------------------------------------
-- The number of pages
-- ---------------------------------------------------------------------------

theorem ceilDiv_le_iff (hd : 0 < d) : ceilDiv n d ≤ q ↔ n ≤ q * d := by
  rw [ceilDiv, Nat.div_le_iff_le_mul_add_pred hd, Nat.mul_comm d q]
  omega

theorem lt_ceilDiv_iff (hd : 0 < d) : q < ceilDiv n d ↔ q * d < n := by
  rw [← Nat.not_le, ← Nat.not_le, ceilDiv_le_iff hd]

theorem isLeast_ceilDiv (hd : 0 < d) : IsLeast {q | n ≤ q * d} (ceilDiv n d) :=
  ⟨(ceilDiv_le_iff hd).mp (Nat.le_refl _), fun _ hq => (ceilDiv_le_iff hd).mpr hq⟩

theorem ceilDiv_eq_zero_iff (hd : 0 < d) : ceilDiv n d = 0 ↔ n = 0 := by
  rw [← Nat.le_zero, ceilDiv_le_iff hd, Nat.zero_mul, Nat.le_zero]

theorem ceilDiv_le_self (hd : 0 < d) (n : Nat) : ceilDiv n d ≤ n :=
  (ceilDiv_le_iff hd).mpr (Nat.le_mul_of_pos_right n hd)

-- ---------------------------------------------------------------------------
-- The rows of the pages
-- ---------------------------------------------------------------------------

def pageOf (size index : Nat) (rows : List α) : List α := (rows.drop (index * size)).take size

theorem length_pageOf (size index : Nat) (rows : List α) :
    (pageOf size index rows).length = min size (rows.length - index * size) := by
  simp [pageOf]

/-- A page may be cut as short as the rows that are left. -/
theorem take_eq_pageOf (size index : Nat) (rows : List α) :
    (rows.drop (index * size)).take (min size (rows.length - index * size)) =
      pageOf size index rows := by
  rw [pageOf, List.take_eq_take_iff, List.length_drop, Nat.min_assoc, Nat.min_self]

theorem pageOf_append_drop (size index : Nat) (rows : List α) :
    pageOf size index rows ++ rows.drop ((index + 1) * size) = rows.drop (index * size) := by
  rw [pageOf, Nat.succ_mul, ← List.drop_drop, List.take_append_drop]

theorem pageOf_last (h : rows.length ≤ (index + 1) * size) :
    pageOf size index rows = (rows : List α).drop (index * size) := by
  rw [← pageOf_append_drop, List.drop_of_length_le h, List.append_nil]

theorem flatten_firstPages (size count : Nat) (rows : List α) :
    ((List.range count).map fun index => pageOf size index rows).flatten =
      rows.take (count * size) := by
  induction count with
  | zero => simp
  | succ count ih =>
    rw [List.range_succ, List.map_append, List.flatten_append, ih, List.map_singleton,
      List.flatten_singleton, Nat.succ_mul, List.take_add, pageOf]

theorem flatten_pages (hsize : 0 < size) (rows : List α) :
    ((List.range (ceilDiv rows.length size)).map fun index => pageOf size index rows).flatten =
      rows := by
  rw [flatten_firstPages]
  exact List.take_of_length_le ((ceilDiv_le_iff hsize).mp (Nat.le_refl _))

-- ---------------------------------------------------------------------------
-- Reported ranges
-- ---------------------------------------------------------------------------

namespace PageRange

theorem split_eq (hsize : 0 < size) : split n size =
    (List.range (ceilDiv n size)).map fun index => ⟨index, min size (n - index * size)⟩ := by
  rw [split, count, Nat.max_eq_right hsize]

theorem total_eq_sum (ranges : List PageRange) :
    total ranges = (ranges.map PageRange.size).sum := by
  rw [total, List.sum, List.foldr_map]

theorem total_split (hsize : 0 < size) (n : Nat) : total (split n size) = n := by
  have lengths := congrArg List.length (flatten_pages hsize (List.replicate n ()))
  rw [List.length_flatten, List.map_map, List.length_replicate] at lengths
  calc total (split n size)
      = ((List.range (ceilDiv n size)).map fun index => min size (n - index * size)).sum := by
        rw [total_eq_sum, split_eq hsize, List.map_map]
        rfl
    _ = ((List.range (ceilDiv n size)).map fun index =>
          (pageOf size index (List.replicate n ())).length).sum := by
        simp only [length_pageOf, List.length_replicate]
    _ = n := lengths

/-- The ranges begin with one of the rows, and are as large as the rows and a page allow. -/
theorem mem_split_iff {range : PageRange} (hsize : 0 < size) : range ∈ split n size ↔
    range.index * size < n ∧ range.size = min size (n - range.index * size) := by
  rw [split_eq hsize, List.mem_map]
  constructor
  · rintro ⟨index, hindex, rfl⟩
    exact ⟨(lt_ceilDiv_iff hsize).mp (List.mem_range.mp hindex), rfl⟩
  · rintro ⟨inside, hrange⟩
    exact ⟨range.index, List.mem_range.mpr ((lt_ceilDiv_iff hsize).mpr inside), by rw [← hrange]⟩

theorem index_mul_lt {range : PageRange} (hsize : 0 < size) (h : range ∈ split n size) :
    range.index * size < n :=
  ((mem_split_iff hsize).mp h).1

theorem mem_split {range : PageRange} (hsize : 0 < size) (h : range ∈ split n size) :
    range.size ≤ size ∧ range.index * size + range.size ≤ n := by
  obtain ⟨inside, hrange⟩ := (mem_split_iff hsize).mp h
  omega

/-- The rows that a reported range stands for. -/
def rowsOf (size : Nat) (rows : List α) (range : PageRange) : List α :=
  (rows.drop (range.index * size)).take range.size

theorem rowsOf_range {range : PageRange} (h : range.index * size + range.size ≤ n) :
    range.rowsOf size (List.range n) = List.range' (range.index * size) range.size := by
  rw [rowsOf, List.range_eq_range', List.drop_range', List.take_range'_of_length_ge (by omega),
    Nat.zero_add, Nat.mul_one]

theorem rowsOf_split (hsize : 0 < size) (rows : List α) :
    (split rows.length size).map (rowsOf size rows) =
      (List.range (ceilDiv rows.length size)).map fun index => pageOf size index rows := by
  rw [split_eq hsize, List.map_map]
  exact List.map_congr_left fun index _ => take_eq_pageOf size index rows

theorem flatten_rowsOf_split (hsize : 0 < size) (rows : List α) :
    ((split rows.length size).map (rowsOf size rows)).flatten = rows := by
  rw [rowsOf_split hsize, flatten_pages hsize]

end PageRange

-- ---------------------------------------------------------------------------
-- What is told of a page
-- ---------------------------------------------------------------------------

theorem Pagination.hasMore_iff {index n : Nat} (hsize : 0 < size) :
    Pagination.hasMore ⟨size, index, n⟩ = true ↔ index + 1 < ceilDiv n size := by
  rw [lt_ceilDiv_iff hsize, hasMore, next, decide_eq_true_iff]

end FilterSql
