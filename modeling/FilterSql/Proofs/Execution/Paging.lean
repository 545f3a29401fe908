import FilterSql.Execution.NumberedRows
import FilterSql.Proofs.Outcome
import FilterSql.Proofs.Paging

/-!
# Fetching rows page by page

A backend that serves rows reports their pages and has the rows of each of them. `paged_execution`:
page by page as well as at once, `execute` fetches just the rows that there are, each of them once,
and what it tells of a page is right. Only a run for all pages needs room for all rows.
-/

namespace FilterSql

open Query

variable {σ α β : Type}

-- ---------------------------------------------------------------------------
-- Work that succeeds in every state
-- ---------------------------------------------------------------------------

namespace BackendM

/-- The work succeeds with a value, whatever state it starts in. -/
def Gives (x : BackendM σ α) (a : α) : Prop := ∀ s, ∃ s', x s = (.ok a, s')

theorem gives_pure (a : α) : Gives (pure a : BackendM σ α) a := fun s => ⟨s, rfl⟩

theorem Gives.bind {x : BackendM σ α} {f : α → BackendM σ β} (hx : Gives x a)
    (hf : Gives (f a) b) : Gives (x >>= f) b := by
  intro s
  obtain ⟨s₁, h₁⟩ := hx s
  obtain ⟨s₂, h₂⟩ := hf s₁
  exact ⟨s₂, (run_bind f h₁).trans h₂⟩

theorem Gives.mapM {f : α → BackendM σ β} {g : α → β} {as : List α}
    (h : ∀ a ∈ as, Gives (f a) (g a)) : Gives (as.mapM f) (as.map g) := by
  induction as with
  | nil =>
    rw [List.mapM_nil]
    exact gives_pure []
  | cons a as ih =>
    rw [List.mapM_cons]
    have rest := ih fun b hb => h b (List.mem_cons_of_mem _ hb)
    exact (h a List.mem_cons_self).bind (rest.bind (gives_pure _))

theorem gives_require {holds : Bool} (h : holds = true) :
    Gives (Backend.require holds : BackendM σ Unit) () := by
  subst h
  exact gives_pure ()

end BackendM

open BackendM

-- ---------------------------------------------------------------------------
-- Backends that serve rows
-- ---------------------------------------------------------------------------

namespace Backend

/-- The backend reports the pages of the rows, and fetches the rows of each page. -/
structure Serves (b : Backend σ) (statement : Statement) (size : Nat) (rows : List Record) :
    Prop where
  ranges : Gives (b.pageRanges statement size) (PageRange.split rows.length size)
  page : ∀ range ∈ PageRange.split rows.length size,
    Gives (b.fetchPage statement size range) (range.rowsOf size rows)

def pageAt (size index n : Nat) : Nat := min index (ceilDiv n size - 1)

theorem pick?_split (hsize : 0 < size) (hn : 0 < n) (index : Nat) :
    ∃ range ∈ PageRange.split n size, pick? (PageRange.split n size) index = some range ∧
      range.index = pageAt size index n ∧ range.size = min size (n - range.index * size) := by
  have some_page : 0 < ceilDiv n size := (lt_ceilDiv_iff hsize).mpr (by omega)
  let range : PageRange :=
    ⟨pageAt size index n, min size (n - pageAt size index n * size)⟩
  have picked : pick? (PageRange.split n size) index = some range := by
    rw [pick?, PageRange.split_eq hsize, List.getElem?_map, List.getLast?_map, List.getLast?_range]
    by_cases hindex : index < ceilDiv n size
    · have hpage : pageAt size index n = index := Nat.min_eq_left (by omega)
      simp [List.getElem?_range hindex, range, hpage]
    · have hpage : pageAt size index n = ceilDiv n size - 1 := Nat.min_eq_right (by omega)
      have hnone : (List.range (ceilDiv n size))[index]? = none := by simpa using hindex
      simp [hnone, range, hpage, some_page.ne']
  have hmem : range ∈ PageRange.split n size := by
    rw [PageRange.split_eq hsize]
    have inside : pageAt size index n < ceilDiv n size := by unfold pageAt; omega
    exact List.mem_map.mpr ⟨_, List.mem_range.mpr inside, rfl⟩
  exact ⟨range, hmem, picked, rfl, rfl⟩

variable {b : Backend σ} {statement : Statement} {size : Nat} {rows : List Record}

def pageExecution (size index : Nat) (rows : List Record) : Execution where
  rows := pageOf size (pageAt size index rows.length) rows
  pageSize := size
  pagination := some ⟨size, pageAt size index rows.length, rows.length⟩
  pagesFetched := min 1 (ceilDiv rows.length size)

def wholeExecution (size : Nat) (rows : List Record) : Execution where
  rows := rows
  pageSize := size
  pagination := none
  pagesFetched := ceilDiv rows.length size

theorem Serves.execute_page (serves : b.Serves statement size rows) (hsize : 0 < size)
    (hlimit : size ≤ maxPageSize) (hrows : rows.length < 2 ^ 63) (index : Nat) :
    Gives (b.execute statement ⟨size, index, true⟩) (pageExecution size index rows) := by
  refine serves.ranges.bind ?_
  simp only [if_true, fetchOne, PageRange.total_split hsize]
  have counted : Capacity.fitsWord rows.length = true := by
    simp only [Capacity.fitsWord, UInt64.size, decide_eq_true_eq]
    omega
  refine (gives_require counted).bind ?_
  rcases Nat.eq_zero_or_pos rows.length with hnone | hsome
  · have nothing : ceilDiv rows.length size = 0 := (ceilDiv_eq_zero_iff hsize).mpr hnone
    obtain rfl := List.length_eq_zero_iff.mp hnone
    have hpick : pick? (PageRange.split ([] : List Record).length size) index = none := by
      rw [PageRange.split_eq hsize, nothing]
      rfl
    replace nothing : ceilDiv 0 size = 0 := nothing
    have target : pageExecution size index [] = ⟨[], size, some ⟨size, 0, 0⟩, 0⟩ := by
      simp [pageExecution, pageOf, pageAt, nothing]
    rw [hpick, target]
    exact gives_pure _
  · obtain ⟨range, hmem, hpick, hindex, hcount⟩ := pick?_split hsize hsome index
    have fetched := serves.page range hmem
    rw [PageRange.rowsOf, hcount, take_eq_pageOf] at fetched
    have some_page : 0 < ceilDiv rows.length size := (lt_ceilDiv_iff hsize).mpr (by omega)
    have inside : range.index * size < rows.length := by
      rw [← lt_ceilDiv_iff hsize, hindex, pageAt]
      omega
    have next : Capacity.fitsWord ((range.index + 1) * size) = true := by
      rw [Nat.succ_mul]
      simp only [Capacity.fitsWord, UInt64.size, maxPageSize, decide_eq_true_eq] at hlimit ⊢
      omega
    have one : min 1 (ceilDiv rows.length size) = 1 := Nat.min_eq_left some_page
    simp only [hpick]
    rw [hindex] at fetched next ⊢
    refine fetched.bind ((gives_require next).bind ?_)
    rw [pageExecution, one]
    exact gives_pure _

theorem Serves.execute_whole (serves : b.Serves statement size rows) (hsize : 0 < size)
    (hroom : rows.length ≤ Execution.maxRows) (index : Nat) :
    Gives (b.execute statement ⟨size, index, false⟩) (wholeExecution size rows) := by
  refine serves.ranges.bind ?_
  simp only [Bool.false_eq_true, if_false, fetchAll, PageRange.total_split hsize]
  refine (gives_require (decide_eq_true hroom)).bind ((Gives.mapM serves.page).bind ?_)
  rw [PageRange.flatten_rowsOf_split hsize, PageRange.length_split, PageRange.count,
    Nat.max_eq_right hsize]
  exact gives_pure _

/-- A run for all pages comes to nothing if there is no room for the rows. -/
theorem Serves.execute_overflow (serves : b.Serves statement size rows) (hsize : 0 < size)
    (hfull : Execution.maxRows < rows.length) (index : Nat) (s : σ) :
    ∃ s', b.execute statement ⟨size, index, false⟩ s = (.error .overflow, s') := by
  obtain ⟨s', h⟩ := serves.ranges s
  refine ⟨s', (run_bind _ h).trans ?_⟩
  have full : decide (rows.length ≤ Execution.maxRows) = false := by simpa using hfull
  simp only [Bool.false_eq_true, if_false, fetchAll, PageRange.total_split hsize, full]
  rfl

end Backend

-- ---------------------------------------------------------------------------
-- Asking for page after page
-- ---------------------------------------------------------------------------

def Execution.hasMore (e : Execution) : Bool := e.pagination.any Pagination.hasMore

namespace Backend

/-- A client that asks for a page, and for the next one as long as there is more: the states of the
backend before and after, the number of requests, and all rows that are received. -/
inductive Walk (b : Backend σ) (statement : Statement) (size : Nat) :
    (index : Nat) → σ → (requests : Nat) → List Record → σ → Prop
  | last (h : b.execute statement ⟨size, index, true⟩ s = (.ok e, s')) (stop : e.hasMore = false) :
      Walk b statement size index s 1 e.rows s'
  | more (h : b.execute statement ⟨size, index, true⟩ s = (.ok e, s')) (go : e.hasMore = true)
      (rest : Walk b statement size (index + 1) s' k received s'') :
      Walk b statement size index s (k + 1) (e.rows ++ received) s''

variable {b : Backend σ} {statement : Statement} {size : Nat} {rows : List Record}

theorem Walk.unique (h : Walk b statement size index s k received t)
    (h' : Walk b statement size index s k' received' t') : k = k' ∧ received = received' := by
  induction h generalizing k' received' t' with
  | last h stop =>
    cases h' with
    | last h' _ =>
      cases h.symm.trans h'
      exact ⟨rfl, rfl⟩
    | more h' go _ =>
      cases h.symm.trans h'
      rw [stop] at go
      cases go
  | more h go _ ih =>
    cases h' with
    | last h' stop =>
      cases h.symm.trans h'
      rw [stop] at go
      cases go
    | more h' _ rest =>
      cases h.symm.trans h'
      obtain ⟨rfl, rfl⟩ := ih rest
      exact ⟨rfl, rfl⟩

theorem hasMore_pageExecution (hsize : 0 < size) (index : Nat) (rows : List Record) :
    (pageExecution size index rows).hasMore = true ↔ index + 1 < ceilDiv rows.length size := by
  have told : (pageExecution size index rows).hasMore =
      Pagination.hasMore ⟨size, pageAt size index rows.length, rows.length⟩ := rfl
  rw [told, Pagination.hasMore_iff hsize, pageAt]
  omega

theorem rows_pageExecution (h : index ≤ ceilDiv rows.length size - 1) :
    (pageExecution size index rows).rows = pageOf size index rows := by
  rw [pageExecution, pageAt, Nat.min_eq_left h]

theorem Serves.walk_from (serves : b.Serves statement size rows) (hsize : 0 < size)
    (hlimit : size ≤ maxPageSize) (hrows : rows.length < 2 ^ 63) {index left : Nat}
    (hleft : index + left = ceilDiv rows.length size - 1) (s : σ) :
    ∃ s', Walk b statement size index s (left + 1) (rows.drop (index * size)) s' := by
  induction left generalizing index s with
  | zero =>
    obtain ⟨s', h⟩ := serves.execute_page hsize hlimit hrows index s
    have stop : (pageExecution size index rows).hasMore = false := by
      rw [← Bool.not_eq_true, hasMore_pageExecution hsize]
      omega
    have enough : rows.length ≤ (index + 1) * size := (ceilDiv_le_iff hsize).mp (by omega)
    rw [← pageOf_last enough, ← rows_pageExecution (by omega)]
    exact ⟨s', .last h stop⟩
  | succ left ih =>
    obtain ⟨s', h⟩ := serves.execute_page hsize hlimit hrows index s
    have go := (hasMore_pageExecution hsize index rows).mpr (by omega)
    have hnext : index + 1 + left = ceilDiv rows.length size - 1 := by omega
    obtain ⟨s'', rest⟩ := ih hnext s'
    rw [← pageOf_append_drop, ← rows_pageExecution (by omega)]
    exact ⟨s'', .more h go rest⟩

/-- Asked for page after page, the backend gives all of the rows, and no other number of requests
comes to an end. -/
theorem Serves.walk_iff (serves : b.Serves statement size rows) (hsize : 0 < size)
    (hlimit : size ≤ maxPageSize) (hrows : rows.length < 2 ^ 63) (s : σ) :
    (∃ s', Walk b statement size 0 s k received s') ↔
      k = max 1 (ceilDiv rows.length size) ∧ received = rows := by
  obtain ⟨s', walk⟩ := serves.walk_from hsize hlimit hrows (Nat.zero_add _) s
  have requests : ceilDiv rows.length size - 1 + 1 = max 1 (ceilDiv rows.length size) := by omega
  rw [Nat.zero_mul, List.drop_zero, requests] at walk
  constructor
  · rintro ⟨_, other⟩
    exact other.unique walk
  · rintro ⟨rfl, rfl⟩
    exact ⟨s', walk⟩

end Backend

-- ---------------------------------------------------------------------------
-- Numbered rows
-- ---------------------------------------------------------------------------

namespace NumberedRows

theorem rowsOf_numbered {range : PageRange} (h : range.index * size + range.size ≤ n) :
    range.rowsOf size ((List.range n).map row) =
      (List.range' (range.index * size) range.size).map row := by
  rw [PageRange.rowsOf, ← List.map_drop, ← List.map_take, ← PageRange.rowsOf_range h,
    PageRange.rowsOf]

/-- Numbered rows without a fault are served if there is room for the ranges of their pages. -/
theorem serves {n size : Nat} (hsize : 0 < size) (hlimit : size ≤ maxPageSize) (hn : n < 2 ^ 63)
    (hroom : PageRange.count n size ≤ PageRange.maxCount) (statement : Statement) :
    ({ total := n } : NumberedRows).backend.Serves statement size ((List.range n).map row) := by
  have count : ((List.range n).map row).length = n := by
    rw [List.length_map, List.length_range]
  constructor
  · intro s
    have reported : ({ total := n } : NumberedRows).reported size =
        .ok (PageRange.split n size) := by
      simp [NumberedRows.reported, PageRange.split?, hroom]
    exact ⟨s, by rw [count, ← reported]; rfl⟩
  · rw [count]
    intro range hrange s
    obtain ⟨hle, hfit⟩ := PageRange.mem_split hsize hrange
    have room : Capacity.fitsWord (range.index * size + range.size) = true ∧
        range.size ≤ Execution.maxRows := by
      have most : maxPageSize ≤ Execution.maxRows := by decide
      simp only [Capacity.fitsWord, UInt64.size, decide_eq_true_eq]
      omega
    have page : ({ total := n } : NumberedRows).page size range =
        .ok (range.rowsOf size ((List.range n).map row)) := by
      simp [NumberedRows.page, room, rowsOf_numbered hfit]
    exact ⟨s, by rw [← page]; rfl⟩

end NumberedRows

-- ---------------------------------------------------------------------------
-- All rows, one page at a time
-- ---------------------------------------------------------------------------

/-- For a backend that serves fewer than 2^63 rows: a page that is asked for has its own rows, the
last page standing in for one that is not there; what is told of it is right; page after page makes
all of the rows, as does a run for all pages if there is room for the rows, and only then. -/
theorem paged_execution {b : Backend σ} {statement : Statement} {size : Nat} {rows : List Record}
    (hsize : 0 < size) (hlimit : size ≤ maxPageSize) (hrows : rows.length < 2 ^ 63)
    (serves : b.Serves statement size rows) :
    ∃ pages, IsLeast {q | rows.length ≤ q * size} pages ∧
      (rows.length ≤ Execution.maxRows → ∀ index, ∃ e,
        Gives (b.execute statement ⟨size, index, false⟩) e ∧ e.rows = rows ∧
          e.pagination = none) ∧
      (Execution.maxRows < rows.length → ∀ index s, ∃ s',
        b.execute statement ⟨size, index, false⟩ s = (.error .overflow, s')) ∧
      (∀ index, ∃ e p, Gives (b.execute statement ⟨size, index, true⟩) e ∧
        e.pagination = some p ∧ p.index = min index (pages - 1) ∧ p.total = rows.length ∧
        p.pages = pages ∧ e.rows = (rows.drop (p.index * size)).take size ∧
        (p.hasMore = true ↔ p.index * size + e.rows.length < rows.length)) ∧
      ∀ s k received, (∃ s', b.Walk statement size 0 s k received s') ↔
        k = max 1 pages ∧ received = rows := by
  refine ⟨ceilDiv rows.length size, isLeast_ceilDiv hsize, fun hroom index => ?_,
    serves.execute_overflow hsize, fun index => ?_,
    fun s k received => serves.walk_iff hsize hlimit hrows s⟩
  · exact ⟨_, serves.execute_whole hsize hroom index, rfl, rfl⟩
  · refine ⟨_, _, serves.execute_page hsize hlimit hrows index, rfl, rfl, rfl, rfl, rfl, ?_⟩
    rw [Pagination.hasMore, Pagination.next, decide_eq_true_iff, Backend.pageExecution,
      length_pageOf, Nat.succ_mul]
    simp only
    omega

/-- Of 238 rows, ten a page, the last page has eight. -/
theorem paged_execution_of_238 :
    0 < 10 ∧ 10 ≤ maxPageSize ∧ ((List.range 238).map NumberedRows.row).length < 2 ^ 63 ∧
    ({ total := 238 } : NumberedRows).backend.Serves ⟨"", []⟩ 10
      ((List.range 238).map NumberedRows.row) ∧
    (∃ e p, Gives (({ total := 238 } : NumberedRows).backend.execute ⟨"", []⟩ ⟨10, 99, true⟩) e ∧
      e.pagination = some p ∧ p.index = 23 ∧ p.pages = 24 ∧
      e.rows = (List.range' 230 8).map NumberedRows.row) ∧
    ∃ s', ({ total := 238 } : NumberedRows).backend.Walk ⟨"", []⟩ 10 0 () 24
      ((List.range 238).map NumberedRows.row) s' := by
  have hsize : 0 < 10 := by decide
  have hlimit : 10 ≤ maxPageSize := by decide
  have hrows : ((List.range 238).map NumberedRows.row).length < 2 ^ 63 := by simp
  have serves := NumberedRows.serves hsize hlimit (n := 238) (by decide) (by decide) ⟨"", []⟩
  obtain ⟨pages, least, -, -, page, walk⟩ := paged_execution hsize hlimit hrows serves
  have twenty_four : pages = 24 := by
    refine least.unique ⟨by simp, fun q hq => ?_⟩
    have hq : 238 ≤ q * 10 := by simpa using hq
    omega
  obtain ⟨e, p, given, hp, hindex, -, hpages, found, -⟩ := page 99
  rw [twenty_four] at hindex hpages
  have last : p.index = 23 := hindex
  have eight : e.rows = (List.range' 230 8).map NumberedRows.row := by
    rw [found, last, ← List.map_drop, ← List.map_take]
    exact congrArg (List.map NumberedRows.row) (by decide)
  exact ⟨hsize, hlimit, hrows, serves, ⟨e, p, given, hp, last, hpages, eight⟩,
    (walk () 24 _).mpr ⟨by rw [twenty_four]; rfl, rfl⟩⟩

/-- With one row a page there is no room for the ranges of so many pages, and with a thousand there
is none for the rows of all pages at once. -/
theorem overflow_of_too_many_rows :
    ({ total := 2 ^ 63 - 1 } : NumberedRows).backend.execute ⟨"", []⟩ ⟨1, 0, true⟩ () =
      (.error .overflow, ()) ∧
    ({ total := 2 ^ 63 - 1 } : NumberedRows).backend.Serves ⟨"", []⟩ 1000
      ((List.range (2 ^ 63 - 1)).map NumberedRows.row) ∧
    ({ total := 2 ^ 63 - 1 } : NumberedRows).backend.execute ⟨"", []⟩ ⟨1000, 0, false⟩ () =
      (.error .overflow, ()) := by
  have hlimit : 1000 ≤ maxPageSize := by decide
  have serves := NumberedRows.serves (by decide) hlimit (n := 2 ^ 63 - 1) (by decide) (by decide)
    ⟨"", []⟩
  have full : Execution.maxRows < ((List.range (2 ^ 63 - 1)).map NumberedRows.row).length := by
    rw [List.length_map, List.length_range]
    decide
  obtain ⟨_, whole⟩ := serves.execute_overflow (by decide) full 0 ()
  refine ⟨?_, serves, whole⟩
  have unreported : ({ total := 2 ^ 63 - 1 } : NumberedRows).reported 1 = .error .overflow := by
    simp [NumberedRows.reported, PageRange.split?, PageRange.count, PageRange.maxCount, ceilDiv,
      Capacity.room, UInt64.size]
  have failed : ({ total := 2 ^ 63 - 1 } : NumberedRows).backend.pageRanges ⟨"", []⟩ 1 () =
      (.error .overflow, ()) := by
    rw [← unreported]
    rfl
  exact run_bind_error _ failed

end FilterSql
