import FilterSql.Proofs.Execution.Protocol

/-!
# The numbers of paging

`requested_page_fits`: whatever a request gives for the page that it asks for, the page is within
its bounds, and no number that comes up on the way to its rows is too large for a machine word, if
the rows are no more than a signed one can count.
-/

namespace FilterSql

open Query

variable {σ : Type} {page : Page}

namespace Page

-- ---------------------------------------------------------------------------
-- The page that is asked for
-- ---------------------------------------------------------------------------

def ceiling (limit : Nat) : Nat := min (max limit 1) 1000

/-- A page for two numbers that may be missing. Within the bounds they are taken as they are. -/
structure Clamps (page : Page) (size index : Option Int64) (limit : Nat) : Prop where
  size_bounds : 1 ≤ page.size ∧ page.size ≤ ceiling limit
  size_kept : ∀ n, size = some n → 1 ≤ n.toInt → n.toInt ≤ ceiling limit → page.size = n.toInt
  index_le : page.index ≤ 2 ^ 63 - 1
  index_kept : ∀ n, index = some n → 0 ≤ n.toInt → page.index = n.toInt

theorem clamps_ofNumbers (size index : Option Int64) (paginated : Option Bool) (limit : Nat) :
    (Page.ofNumbers size index paginated limit).Clamps size index limit := by
  have greatest : Int64.maxValue.toInt = 2 ^ 63 - 1 := by decide
  have most : max 1 (min limit maxPageSize) = ceiling limit := by
    simp only [ceiling, maxPageSize]
    omega
  have positive : 1 ≤ ceiling limit := by
    simp only [ceiling]
    omega
  refine ⟨?_, ?_, ?_, ?_⟩ <;> simp only [Page.ofNumbers, most]
  · cases size with
    | none => exact ⟨positive, Nat.le_refl _⟩
    | some n =>
      simp only [Option.map_some, Option.getD_some]
      omega
  · rintro n rfl low high
    simp only [Option.map_some, Option.getD_some]
    omega
  · cases index with
    | none => decide
    | some n =>
      have high := n.toInt_le
      simp only [Option.map_some, Option.getD_some]
      omega
  · rintro n rfl low
    simp only [Option.map_some, Option.getD_some]
    omega

-- ---------------------------------------------------------------------------
-- On the way to its rows
-- ---------------------------------------------------------------------------

theorem fitsWord_iff : Capacity.fitsWord n = true ↔ n < 2 ^ 64 := decide_eq_true_iff

def effectiveIndex (page : Page) (total : Nat) : Nat :=
  (Backend.pick? (PageRange.split total page.size) page.index).elim 0 PageRange.index

/-- To cut rows into pages and to fetch one of them, nothing is divided by zero or taken from less,
and no number is too large for a word. -/
structure Fits (page : Page) (total : Nat) : Prop where
  divisor : page.size ≠ 0
  rest : ∀ range ∈ PageRange.split total page.size, range.index * page.size < total
  sum : Capacity.fitsWord (PageRange.total (PageRange.split total page.size)) = true
  first : Capacity.fitsWord (page.effectiveIndex total * page.size) = true
  next : Capacity.fitsWord ((page.effectiveIndex total + 1) * page.size) = true
  pages : Capacity.fitsWord (Pagination.pages ⟨page.size, page.effectiveIndex total, total⟩) = true

theorem effectiveIndex_mul_le (hsize : 0 < page.size) (total : Nat) :
    page.effectiveIndex total * page.size ≤ total := by
  unfold effectiveIndex
  rw [Backend.pick?_eq]
  cases picked : (PageRange.split total page.size)[
      min page.index ((PageRange.split total page.size).length - 1)]? with
  | none => simp
  | some range => exact Nat.le_of_lt (PageRange.index_mul_lt hsize (List.mem_of_getElem? picked))

theorem fits_of_le (hsize : 0 < page.size) (hlimit : page.size ≤ 1000)
    (htotal : total ≤ 2 ^ 63 - 1) : page.Fits total where
  divisor := hsize.ne'
  rest _ hrange := PageRange.index_mul_lt hsize hrange
  sum := by
    rw [fitsWord_iff, PageRange.total_split hsize]
    omega
  first := by
    have before := effectiveIndex_mul_le hsize total
    rw [fitsWord_iff]
    omega
  next := by
    have before := effectiveIndex_mul_le hsize total
    rw [fitsWord_iff, Nat.succ_mul]
    omega
  pages := by
    rw [fitsWord_iff]
    exact Nat.lt_of_le_of_lt (ceilDiv_le_self hsize total) (by omega)

theorem Fits.not_overruns {b : Backend σ} {statement : Statement} (fits : page.Fits total)
    (paginated : page.paginated = true)
    (reported : b.pageRanges statement page.size s = (.ok (PageRange.split total page.size), s₁)) :
    ¬ b.Overruns statement page s := by
  intro overruns
  cases overruns with
  | uncounted h _ many =>
    cases reported.symm.trans h
    exact absurd (fitsWord_iff.mp fits.sum) (Nat.not_lt.mpr many)
  | unheld _ all =>
    rw [paginated] at all
    cases all
  | @far _ _ _ _ range h _ _ chosen far =>
    cases reported.symm.trans h
    have picked : Backend.pick? (PageRange.split total page.size) page.index = some range := by
      rwa [Backend.asked, if_pos paginated, ← Backend.pick?_eq, Option.mem_toList] at chosen
    have next := fitsWord_iff.mp fits.next
    rw [effectiveIndex, picked] at next
    exact absurd next (Nat.not_lt.mpr far)

end Page

/-- Any JSON values may be given for the size and the index of a page, or none, and a backend may
report any number of rows that fits a signed word. -/
theorem requested_page_fits (size index : Option Json) (paginated : Option Bool) (limit : Nat)
    (page : Page) (hpage : page =
      .ofNumbers (size.bind pageNumber?) (index.bind pageNumber?) paginated limit) :
    page.Clamps (size.bind pageNumber?) (index.bind pageNumber?) limit ∧
    ∀ total ≤ 2 ^ 63 - 1, page.Fits total ∧
      ∀ (σ : Type) (b : Backend σ) (statement : Statement) (s s₁ : σ), page.paginated = true →
        b.pageRanges statement page.size s = (.ok (PageRange.split total page.size), s₁) →
        b.Conforms statement page s := by
  subst hpage
  have clamps := Page.clamps_ofNumbers (size.bind pageNumber?) (index.bind pageNumber?) paginated
    limit
  obtain ⟨positive, small⟩ := clamps.size_bounds
  refine ⟨clamps, fun total htotal => ?_⟩
  have fits := Page.fits_of_le positive (Nat.le_trans small (Nat.min_le_right _ _)) htotal
  refine ⟨fits, fun σ b statement s s₁ paginated reported => ?_⟩
  obtain ⟨result, s', calls, traces, protocol⟩ :=
    Backend.traces_execute (fits.not_overruns paginated reported)
  exact ⟨result, s', calls, protocol, traces⟩

/-- The page far away is one of a thousand rows, for there is no size and the limit is too high. -/
theorem requested_page_fits_farAway :
    (⟨1000, 2 ^ 63 - 1, true⟩ : Page) = .ofNumbers ((none : Option Json).bind pageNumber?)
      ((some (Json.string " 1e30")).bind pageNumber?) none 5000 ∧
    Page.Fits ⟨1000, 2 ^ 63 - 1, true⟩ (2 ^ 63 - 1) ∧
    ({ total := 2 ^ 63 - 1 } : NumberedRows).backend.Conforms ⟨"", []⟩ ⟨1000, 2 ^ 63 - 1, true⟩
      () := by
  have requested : (⟨1000, 2 ^ 63 - 1, true⟩ : Page) = .ofNumbers
      ((none : Option Json).bind pageNumber?) ((some (Json.string " 1e30")).bind pageNumber?)
      none 5000 := by
    decide +kernel
  have positive : 0 < 1000 := by decide
  have serves := NumberedRows.serves (n := 2 ^ 63 - 1) positive (by decide) (by decide) (by decide)
    ⟨"", []⟩
  obtain ⟨⟨⟩, reported⟩ := serves.ranges ()
  rw [List.length_map, List.length_range] at reported
  obtain ⟨-, fits⟩ := requested_page_fits none (some (.string " 1e30")) none 5000 _ requested
  obtain ⟨fits, conforms⟩ := fits (2 ^ 63 - 1) (Nat.le_refl _)
  exact ⟨requested, fits, conforms Unit _ _ () () rfl reported⟩

end FilterSql
