import FilterSql.Execution.NumberedRows
import FilterSql.Proofs.Paging

/-!
# Cutting rows into ranges

`PageRange.split_partitions`: whatever the number of rows and the size of a page, the ranges of all
pages stand for every row once, and no other list of ranges does so. With machine words the same
ranges are found, for no number on the way is too large or negative. They are there for as long as
memory has room for them.
-/

namespace FilterSql

namespace Capacity

def word? (n : Nat) : Option Nat := if fitsWord n then some n else none

theorem word?_of_lt (h : n < 2 ^ 64) : word? n = some n := if_pos (decide_eq_true h)

def rest? (n taken : Nat) : Option Nat := if taken ≤ n then some (n - taken) else none

theorem rest?_of_le (h : taken ≤ n) : rest? n taken = some (n - taken) := if_pos h

end Capacity

namespace PageRange

open Capacity

variable {step n : Nat} {ranges : List PageRange}

-- ---------------------------------------------------------------------------
-- With machine words
-- ---------------------------------------------------------------------------

/-- The number of pages: the quotient, and one more if there is a remainder. -/
def countInWords? (n step : Nat) : Option Nat :=
  if step = 0 then none
  else if n % step = 0 then some (n / step)
  else word? (n / step + 1)

def rangeInWords? (n step i : Nat) : Option PageRange := do
  let first ← word? (i * step)
  let left ← rest? n first
  return ⟨i, min step left⟩

/-- Cuts `n` rows into pages, and gives up at the first number that is not a machine word. -/
def splitInWords? (n size : Nat) : Option (List PageRange) := do
  let step := max 1 size
  let count ← countInWords? n step
  (List.range count).mapM (rangeInWords? n step)

theorem countInWords?_eq (hstep : 0 < step) (hn : n < 2 ^ 64) :
    countInWords? n step = some (ceilDiv n step) := by
  have whole := Nat.div_add_mod n step
  have remainder := Nat.mod_lt n hstep
  unfold countInWords?
  rw [if_neg hstep.ne']
  split
  · rename_i even
    have exact : ceilDiv n step = n / step := by
      refine (isLeast_ceilDiv hstep).unique ⟨?_, fun q hq => ?_⟩
      · rw [Set.mem_ofPred_eq, Nat.mul_comm]
        omega
      · exact Nat.div_le_of_le_mul (Nat.mul_comm q step ▸ hq)
    rw [exact]
  · rename_i odd
    have more : ceilDiv n step = n / step + 1 := by
      refine Nat.le_antisymm ((ceilDiv_le_iff hstep).mpr ?_) ((lt_ceilDiv_iff hstep).mpr ?_)
      · rw [Nat.succ_mul, Nat.mul_comm]
        omega
      · rw [Nat.mul_comm]
        omega
    rw [← more, word?_of_lt (Nat.lt_of_le_of_lt (ceilDiv_le_self hstep n) hn)]

theorem rangeInWords?_eq (hn : n < 2 ^ 64) (inside : i * step < n) :
    rangeInWords? n step i = some ⟨i, min step (n - i * step)⟩ := by
  unfold rangeInWords?
  rw [word?_of_lt (Nat.lt_trans inside hn), Option.bind_eq_bind, Option.bind_some,
    rest?_of_le (Nat.le_of_lt inside)]
  rfl

theorem mapM_eq_some_map {f : α → Option β} {g : α → β} {as : List α}
    (h : ∀ a ∈ as, f a = some (g a)) : as.mapM f = some (as.map g) := by
  induction as with
  | nil => rfl
  | cons a as ih =>
    rw [List.mapM_cons, h a List.mem_cons_self, ih fun b hb => h b (List.mem_cons_of_mem _ hb)]
    rfl

theorem splitInWords?_eq (hn : n < 2 ^ 64) (size : Nat) :
    splitInWords? n size = some (split n size) := by
  have hstep : 0 < max 1 size := by omega
  unfold splitInWords?
  simp only [countInWords?_eq hstep hn, Option.bind_eq_bind, Option.bind_some]
  refine mapM_eq_some_map fun i hi => rangeInWords?_eq hn ?_
  exact (lt_ceilDiv_iff hstep).mp (List.mem_range.mp hi)

-- ---------------------------------------------------------------------------
-- Every row once
-- ---------------------------------------------------------------------------

/-- The ranges of as few pages as `n` rows need, at `step` rows a page: numbered from zero, all of
them full but the last, and one after another they hold the rows in their order. -/
structure Partitions (step n : Nat) (ranges : List PageRange) : Prop where
  count : IsLeast {k | n ≤ k * step} ranges.length
  indices : ranges.map index = List.range ranges.length
  bounds : ∀ range ∈ ranges, 1 ≤ range.size ∧ range.size ≤ step
  full : ∀ range ∈ ranges.dropLast, range.size = step
  sum : (ranges.map size).sum = n
  rows : (ranges.flatMap fun range => List.range' (range.index * step) range.size) = List.range n

theorem split_max_one (n size : Nat) : split n (max 1 size) = split n size := by
  simp only [split, count, ← Nat.max_assoc, Nat.max_self]

theorem mem_dropLast_split {range : PageRange} (hstep : 0 < step)
    (h : range ∈ (split n step).dropLast) : range.size = step := by
  rw [split_eq hstep, ← List.map_dropLast, List.dropLast_eq_take, List.length_range,
    List.take_range, List.mem_map] at h
  obtain ⟨index, hindex, rfl⟩ := h
  rw [List.mem_range] at hindex
  have next : (index + 1) * step < n := (lt_ceilDiv_iff hstep).mp (by omega)
  rw [Nat.succ_mul] at next
  exact Nat.min_eq_left (by omega)

theorem partitions_split (hstep : 0 < step) (n : Nat) : Partitions step n (split n step) where
  count := by
    rw [length_split, count, Nat.max_eq_right hstep]
    exact isLeast_ceilDiv hstep
  indices := by
    rw [length_split, split_eq hstep, count, Nat.max_eq_right hstep, List.map_map]
    exact List.map_id' _
  bounds := by
    intro range h
    obtain ⟨inside, hsize⟩ := (mem_split_iff hstep).mp h
    omega
  full := fun _ h => mem_dropLast_split hstep h
  sum := by rw [← total_eq_sum, total_split hstep]
  rows := by
    have all := flatten_rowsOf_split hstep (List.range n)
    rw [List.length_range] at all
    rw [← all, List.flatMap_def]
    refine congrArg List.flatten (List.map_congr_left fun range h => ?_)
    exact (rowsOf_range (mem_split hstep h).2).symm

-- ---------------------------------------------------------------------------
-- The only ranges
-- ---------------------------------------------------------------------------

theorem Partitions.size_eq (h : Partitions step n ranges) (hi : i < ranges.length) :
    ranges[i].size = min step (n - i * step) := by
  have nonempty : ranges ≠ [] := List.ne_nil_of_length_pos (by omega)
  have before : (ranges.dropLast.map size).sum = (ranges.length - 1) * step := by
    have sizes : ranges.dropLast.map size = List.replicate (ranges.length - 1) step := by
      rw [List.eq_replicate_iff, List.length_map, List.length_dropLast]
      refine ⟨rfl, fun m hm => ?_⟩
      obtain ⟨range, hrange, rfl⟩ := List.mem_map.mp hm
      exact h.full range hrange
    rw [sizes, List.sum_replicate_nat]
  -- So the last size is what is left of the sum.
  have whole := h.sum
  rw [← List.dropLast_concat_getLast nonempty, List.map_append, List.sum_append, before,
    List.map_singleton, List.sum_singleton] at whole
  obtain ⟨positive, small⟩ := h.bounds _ (List.getLast_mem nonempty)
  rcases Nat.lt_or_ge i (ranges.length - 1) with early | late
  · have full : ranges[i].size = step := by
      refine h.full _ ?_
      rw [← List.getElem_dropLast (by rwa [List.length_dropLast])]
      exact List.getElem_mem _
    have upto : (i + 1) * step ≤ (ranges.length - 1) * step := Nat.mul_le_mul_right step early
    rw [Nat.succ_mul] at upto
    omega
  · obtain rfl : i = ranges.length - 1 := by omega
    rw [← List.getLast_eq_getElem nonempty]
    omega

theorem Partitions.getElem_eq (h : Partitions step n ranges) (hi : i < ranges.length) :
    ranges[i] = ⟨i, min step (n - i * step)⟩ := by
  have hindex : ranges[i].index = i := by
    have indices := congrArg (·[i]?) h.indices
    simpa [hi] using indices
  rw [← h.size_eq hi]
  exact congrArg (PageRange.mk · ranges[i].size) hindex

theorem Partitions.unique (h : Partitions step n ranges) (h' : Partitions step n ranges') :
    ranges = ranges' :=
  List.ext_getElem (h.count.unique h'.count) fun _ hi hi' =>
    (h.getElem_eq hi).trans (h'.getElem_eq hi').symm

-- ---------------------------------------------------------------------------
-- Ranges in memory
-- ---------------------------------------------------------------------------

theorem split?_eq_some_iff : split? n step = some ranges ↔
    split n step = ranges ∧ ranges.length ≤ maxCount := by
  unfold split?
  rw [← length_split]
  constructor
  · intro h
    split at h
    · rename_i room
      obtain rfl := Option.some.inj h
      exact ⟨rfl, room⟩
    · cases h
  · rintro ⟨rfl, room⟩
    rw [if_pos room]

/-- No number overflows when rows are cut into pages, a size of zero counting as one. The ranges
hold every row once, are the only ones to do so, and are given if memory has room for them. -/
theorem split_partitions (total size : Nat) (fits : total < 2 ^ 64) :
    splitInWords? total size = some (split total size) ∧
      Partitions (max 1 size) total (split total size) ∧
      ∀ ranges, split? total size = some ranges ↔
        Partitions (max 1 size) total ranges ∧ ranges.length ≤ maxCount := by
  have partitions : Partitions (max 1 size) total (split total size) :=
    split_max_one total size ▸ partitions_split (by omega) total
  refine ⟨splitInWords?_eq fits size, partitions, fun ranges => ?_⟩
  rw [split?_eq_some_iff]
  refine and_congr_left fun _ => ⟨?_, partitions.unique⟩
  rintro rfl
  exact partitions

/-- All rows that a word can count, in pages that are larger than half of them. -/
theorem split_partitions_twoPages : 2 ^ 64 - 1 < 2 ^ 64 ∧
    split? (2 ^ 64 - 1) (2 ^ 63 + 1) = some [⟨0, 2 ^ 63 + 1⟩, ⟨1, 2 ^ 63 - 2⟩] ∧
    Partitions (2 ^ 63 + 1) (2 ^ 64 - 1) [⟨0, 2 ^ 63 + 1⟩, ⟨1, 2 ^ 63 - 2⟩] := by
  have fits : 2 ^ 64 - 1 < 2 ^ 64 := by decide
  have ranges : split? (2 ^ 64 - 1) (2 ^ 63 + 1) = some [⟨0, 2 ^ 63 + 1⟩, ⟨1, 2 ^ 63 - 2⟩] := by
    decide +kernel
  exact ⟨fits, ranges, (((split_partitions (2 ^ 64 - 1) (2 ^ 63 + 1) fits).2.2 _).mp ranges).1⟩

/-- At one row a page so many rows have more ranges than memory has room for, and a backend that has
to report them fails. -/
theorem not_partitions_oneRowAPage :
    (¬ ∃ ranges, split? (2 ^ 63 - 1) 1 = some ranges ∧ Partitions 1 (2 ^ 63 - 1) ranges) ∧
      ({ total := 2 ^ 63 - 1 } : NumberedRows).reported 1 = .error .overflow := by
  have full : split? (2 ^ 63 - 1) 1 = none := by
    unfold split?
    exact if_neg (by decide)
  refine ⟨fun ⟨ranges, given, _⟩ => ?_, ?_⟩
  · rw [full] at given
    cases given
  · simp only [NumberedRows.reported, full, Option.or_none]

end PageRange

end FilterSql
