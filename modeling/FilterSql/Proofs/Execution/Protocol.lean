import FilterSql.Execution.NumberedRows
import FilterSql.Proofs.Execution.Paging
import FilterSql.Proofs.Execution.Trace

/-!
# The calls of an execution

`Backend.Protocol` says which calls an execution makes of any backend at all, one after another, and
what comes of them: the ranges are asked for once, no range is fetched twice, and the first failure
is the result. `conforms_iff`: this is what `execute` does, as long as a run for all pages is
promised no more rows than memory has room for.
-/

namespace FilterSql

open Query

variable {σ : Type}

def BackendCall.statement : BackendCall → Statement
  | pageRanges statement _ => statement
  | fetchPage statement _ _ => statement

namespace Backend

variable {b : Backend σ} {statement : Statement} {size : Nat} {page : Page}

-- ---------------------------------------------------------------------------
-- Fetching ranges in turn
-- ---------------------------------------------------------------------------

inductive Fetches (b : Backend σ) (statement : Statement) (size : Nat) :
    σ → List PageRange → List (List Record) → σ → Prop
  | nil : Fetches b statement size s [] [] s
  | cons (fetched : b.fetchPage statement size range s = (.ok rows, s₁))
      (rest : Fetches b statement size s₁ ranges pages s₂) :
      Fetches b statement size s (range :: ranges) (rows :: pages) s₂

theorem fetches_or_fails (b : Backend σ) (statement : Statement) (size : Nat)
    (ranges : List PageRange) (s : σ) :
    (∃ pages s', Fetches b statement size s ranges pages s') ∨
      ∃ fetched range later pages s₁ e s', ranges = fetched ++ range :: later ∧
        Fetches b statement size s fetched pages s₁ ∧
        b.fetchPage statement size range s₁ = (.error e, s') := by
  induction ranges generalizing s with
  | nil => exact .inl ⟨[], s, .nil⟩
  | cons range ranges ih =>
    match h : b.fetchPage statement size range s with
    | (.error e, s') => exact .inr ⟨[], range, ranges, [], s, e, s', rfl, .nil, h⟩
    | (.ok rows, s₁) =>
      rcases ih s₁ with ⟨pages, s', rest⟩ |
        ⟨fetched, bad, later, pages, s₂, e, s', rfl, rest, fails⟩
      · exact .inl ⟨rows :: pages, s', .cons h rest⟩
      · exact .inr ⟨range :: fetched, bad, later, rows :: pages, s₂, e, s', rfl, .cons h rest,
          fails⟩

theorem Fetches.traces (fetches : Fetches b statement size s ranges pages s') :
    Traces Prod.mk (ranges.mapM (b.fetchPage statement size))
      (ranges.mapM (b.logged.fetchPage statement size)) s (.ok pages) s'
      (ranges.map (.fetchPage statement size)) := by
  induction fetches with
  | nil => exact .pure [] _
  | cons fetched _ ih =>
    simp only [List.mapM_cons]
    exact (traces_fetchPage fetched).bind (ih.bind_pure _)

theorem Fetches.traces_fail (fetches : Fetches b statement size s fetched pages s₁)
    (fails : b.fetchPage statement size range s₁ = (.error e, s')) (later : List PageRange) :
    Traces Prod.mk ((fetched ++ range :: later).mapM (b.fetchPage statement size))
      ((fetched ++ range :: later).mapM (b.logged.fetchPage statement size)) s (.error e) s'
      ((fetched ++ [range]).map (.fetchPage statement size)) := by
  induction fetches with
  | nil =>
    simp only [List.nil_append, List.mapM_cons]
    exact (traces_fetchPage fails).bind_error
  | cons h _ ih =>
    simp only [List.cons_append, List.mapM_cons]
    exact (traces_fetchPage h).bind (ih fails).bind_error

-- ---------------------------------------------------------------------------
-- The protocol
-- ---------------------------------------------------------------------------

/-- The ranges that are to be fetched for a page: the one at its place or else the last, or all. -/
def asked (page : Page) (ranges : List PageRange) : List PageRange :=
  if page.paginated then ranges[min page.index (ranges.length - 1)]?.toList else ranges

structure Tells (page : Page) (ranges : List PageRange) (pages : List (List Record))
    (e : Execution) : Prop where
  rows : e.rows = pages.flatten
  pagination : e.pagination = if page.paginated then
    some ⟨page.size, (asked page ranges).head?.elim 0 PageRange.index,
      (ranges.map PageRange.size).sum⟩ else none
  envelope : e.envelope =
    [("success", .bool true), ("data", .array (pages.flatten.map .object)),
     ("recordCount", .ofNat pages.flatten.length)] ++
      (e.pagination.map fun p => ("pagination", p.toJson)).toList
  stats : ∀ elapsedMs, e.stats elapsedMs =
    [("pageSize", .ofNat page.size), ("pageIndex", .ofNat e.pageIndex),
     ("totalRecords", .ofNat (if page.paginated then (ranges.map PageRange.size).sum
       else pages.flatten.length)),
     ("returnedRecords", .ofNat pages.flatten.length), ("usePagination", .bool page.paginated),
     ("pagesFetched", .ofNat (asked page ranges).length), ("elapsedMs", .ofNat elapsedMs)]

/-- The result of an execution, the state in which it leaves the backend, and the calls. -/
inductive Protocol (b : Backend σ) (statement : Statement) (page : Page) (s : σ) :
    Except ExecutionFailure Execution → σ → List BackendCall → Prop
  | unreported (fails : b.pageRanges statement page.size s = (.error e, s')) :
      Protocol b statement page s (.error e) s' [.pageRanges statement page.size]
  | unfetched (reported : b.pageRanges statement page.size s = (.ok ranges, s₁))
      (order : asked page ranges = fetched ++ range :: later)
      (fetches : Fetches b statement page.size s₁ fetched pages s₂)
      (fails : b.fetchPage statement page.size range s₂ = (.error e, s')) :
      Protocol b statement page s (.error e) s'
        (.pageRanges statement page.size ::
          (fetched ++ [range]).map (.fetchPage statement page.size))
  | done (reported : b.pageRanges statement page.size s = (.ok ranges, s₁))
      (fetches : Fetches b statement page.size s₁ (asked page ranges) pages s')
      (tells : Tells page ranges pages e) :
      Protocol b statement page s (.ok e) s'
        (.pageRanges statement page.size ::
          (asked page ranges).map (.fetchPage statement page.size))

/-- The rows that the backend reports are too many to be counted or to be held, or the page that
was fetched is too far away. -/
inductive Overruns (b : Backend σ) (statement : Statement) (page : Page) (s : σ) : Prop
  | uncounted (reported : b.pageRanges statement page.size s = (.ok ranges, s₁))
      (paginated : page.paginated = true) (many : UInt64.size ≤ PageRange.total ranges)
  | unheld (reported : b.pageRanges statement page.size s = (.ok ranges, s₁))
      (all : page.paginated = false) (many : Execution.maxRows < PageRange.total ranges)
  | far (reported : b.pageRanges statement page.size s = (.ok ranges, s₁))
      (paginated : page.paginated = true)
      (fetches : Fetches b statement page.size s₁ (asked page ranges) pages s₂)
      (chosen : range ∈ asked page ranges) (far : UInt64.size ≤ (range.index + 1) * page.size)

theorem mem_of_mem_asked (h : range ∈ asked page ranges) : range ∈ ranges := by
  unfold asked at h
  split at h
  · exact List.mem_of_getElem? (Option.mem_toList.mp h)
  · exact h

theorem pick?_eq (ranges : List PageRange) (index : Nat) :
    pick? ranges index = ranges[min index (ranges.length - 1)]? := by
  unfold pick?
  by_cases h : index < ranges.length
  · rw [Nat.min_eq_left (by omega), List.getElem?_eq_getElem h, Option.some_or]
  · rw [Nat.min_eq_right (by omega), List.getElem?_eq_none (by omega), Option.none_or,
      List.getLast?_eq_getElem?]

theorem tells_page (paginated : page.paginated = true) (ranges : List PageRange)
    (pages : List (List Record)) :
    Tells page ranges pages {
      rows := pages.flatten
      pageSize := page.size
      pagination := some ⟨page.size, (asked page ranges).head?.elim 0 PageRange.index,
        PageRange.total ranges⟩
      pagesFetched := (asked page ranges).length } := by
  refine ⟨rfl, by simp [paginated, PageRange.total_eq_sum], rfl, fun elapsedMs => ?_⟩
  simp [Execution.stats, Execution.totalRecords, Execution.recordCount, paginated,
    PageRange.total_eq_sum]

theorem tells_all (all : page.paginated = false) (ranges : List PageRange)
    (pages : List (List Record)) :
    Tells page ranges pages {
      rows := pages.flatten
      pageSize := page.size
      pagination := none
      pagesFetched := ranges.length } := by
  refine ⟨rfl, by simp [all], rfl, fun elapsedMs => ?_⟩
  simp [Execution.stats, Execution.totalRecords, Execution.recordCount, all, asked]

theorem traces_fetchOne (fine : ¬ Overruns b statement page s) (paginated : page.paginated = true)
    (reported : b.pageRanges statement page.size s = (.ok ranges, s₁)) :
    ∃ result s' calls, Traces Prod.mk (b.fetchOne statement page ranges)
      (b.logged.fetchOne statement page ranges) s₁ result s' calls ∧
      Protocol b statement page s result s' (.pageRanges statement page.size :: calls) := by
  have counted : Capacity.fitsWord (PageRange.total ranges) = true := by
    by_contra uncounted
    refine fine (.uncounted reported paginated ?_)
    simpa [Capacity.fitsWord] using uncounted
  unfold fetchOne
  rw [pick?_eq]
  cases chosen : ranges[min page.index (ranges.length - 1)]? with
  | none =>
    have nothing : asked page ranges = [] := by rw [asked, if_pos paginated, chosen]; rfl
    have unreported : ranges = [] := by
      rw [List.getElem?_eq_none_iff] at chosen
      exact List.length_eq_zero_iff.mp (by omega)
    have fetches : Fetches b statement page.size s₁ (asked page ranges) [] s₁ := by
      rw [nothing]
      exact .nil
    have done := Protocol.done reported fetches (tells_page paginated ranges [])
    rw [nothing] at done
    subst unreported
    exact ⟨_, _, _, (Traces.require counted s₁).bind (.pure _ s₁), done⟩
  | some range =>
    have one : asked page ranges = [range] := by rw [asked, if_pos paginated, chosen]; rfl
    rcases h : b.fetchPage statement page.size range s₁ with ⟨e | rows, s'⟩
    · have order : asked page ranges = [] ++ range :: [] := one
      exact ⟨_, _, _, (Traces.require counted s₁).bind (traces_fetchPage h).bind_error,
        .unfetched reported order .nil h⟩
    · have fetches : Fetches b statement page.size s₁ (asked page ranges) [rows] s' := by
        rw [one]
        exact .cons h .nil
      have near : Capacity.fitsWord ((range.index + 1) * page.size) = true := by
        by_contra far
        refine fine (.far reported paginated fetches (one ▸ List.mem_singleton_self range) ?_)
        simpa [Capacity.fitsWord] using far
      have done := Protocol.done reported fetches (tells_page paginated ranges [rows])
      rw [one, List.flatten_singleton] at done
      refine ⟨_, _, _, (Traces.require counted s₁).bind ((traces_fetchPage h).bind
        ((Traces.require near s').bind (.pure _ s'))), done⟩

theorem traces_fetchAll (fine : ¬ Overruns b statement page s) (all : page.paginated = false)
    (reported : b.pageRanges statement page.size s = (.ok ranges, s₁)) :
    ∃ result s' calls, Traces Prod.mk (b.fetchAll statement page ranges)
      (b.logged.fetchAll statement page ranges) s₁ result s' calls ∧
      Protocol b statement page s result s' (.pageRanges statement page.size :: calls) := by
  have room : decide (PageRange.total ranges ≤ Execution.maxRows) = true := by
    by_contra full
    refine fine (.unheld reported all ?_)
    simpa using full
  have every : asked page ranges = ranges := by rw [asked, all]; rfl
  unfold fetchAll
  rcases fetches_or_fails b statement page.size ranges s₁ with
    ⟨pages, s', fetches⟩ | ⟨fetched, bad, later, pages, s₂, e, s', order, fetches, fails⟩
  · refine ⟨_, _, _, (Traces.require room s₁).bind (fetches.traces.bind_pure _), ?_⟩
    have done := Protocol.done reported (every.symm ▸ fetches) (tells_all all ranges pages)
    rwa [every] at done
  · have traces := fetches.traces_fail fails later
    rw [← order] at traces
    refine ⟨_, _, _, (Traces.require room s₁).bind traces.bind_error, ?_⟩
    exact .unfetched reported (every.trans order) fetches fails

theorem traces_execute (fine : ¬ Overruns b statement page s) :
    ∃ result s' calls, Traces Prod.mk (b.execute statement page) (b.logged.execute statement page) s
      result s' calls ∧ Protocol b statement page s result s' calls := by
  match h : b.pageRanges statement page.size s with
  | (.error e, s') =>
    exact ⟨_, _, _, (traces_pageRanges h).bind_error, .unreported h⟩
  | (.ok ranges, s₁) =>
    unfold execute
    cases hpage : page.paginated with
    | true =>
      obtain ⟨result, s', calls, traces, protocol⟩ := traces_fetchOne fine hpage h
      exact ⟨result, s', _, (traces_pageRanges h).bind traces, protocol⟩
    | false =>
      obtain ⟨result, s', calls, traces, protocol⟩ := traces_fetchAll fine hpage h
      exact ⟨result, s', _, (traces_pageRanges h).bind traces, protocol⟩

theorem traces_execute_of_unheld (reported : b.pageRanges statement page.size s = (.ok ranges, s₁))
    (all : page.paginated = false) (many : Execution.maxRows < PageRange.total ranges) :
    Traces Prod.mk (b.execute statement page) (b.logged.execute statement page) s
      (.error .overflow) s₁ [.pageRanges statement page.size] := by
  have full : decide (PageRange.total ranges ≤ Execution.maxRows) = false := by simpa using many
  unfold execute
  rw [all]
  exact (traces_pageRanges reported).bind (Traces.require_false full s₁).bind_error

def Conforms (b : Backend σ) (statement : Statement) (page : Page) (s : σ) : Prop :=
  ∃ result s' calls, Protocol b statement page s result s' calls ∧
    Traces Prod.mk (b.execute statement page) (b.logged.execute statement page) s result s' calls

theorem Conforms.room (conforms : Conforms b statement page s)
    (reported : b.pageRanges statement page.size s = (.ok ranges, s₁))
    (all : page.paginated = false) : PageRange.total ranges ≤ Execution.maxRows := by
  by_contra full
  obtain ⟨result, s', calls, protocol, traces⟩ := conforms
  have overflow := traces_execute_of_unheld reported all (Nat.lt_of_not_le full)
  obtain ⟨sameResult, -, sameCalls⟩ := traces.unique Prod.mk.inj overflow
  -- A failure right after the ranges were reported has no place in the protocol.
  cases protocol with
  | unreported fails => cases reported.symm.trans fails
  | unfetched => simp at sameCalls
  | done => cases sameResult

/-- For any backend whose numbers fit into machine words. -/
theorem conforms_iff (fits : ∀ ranges s₁, b.pageRanges statement page.size s = (.ok ranges, s₁) →
      PageRange.total ranges < UInt64.size ∧
      ∀ range ∈ ranges, (range.index + 1) * page.size < UInt64.size) :
    b.Conforms statement page s ↔
      ∀ ranges s₁, b.pageRanges statement page.size s = (.ok ranges, s₁) →
        page.paginated = false → PageRange.total ranges ≤ Execution.maxRows := by
  constructor
  · intro conforms ranges s₁ reported all
    exact conforms.room reported all
  · intro room
    have fine : ¬ Overruns b statement page s := by
      intro overruns
      cases overruns with
      | uncounted reported _ many => exact absurd (fits _ _ reported).1 (Nat.not_lt.mpr many)
      | unheld reported all many => exact absurd (room _ _ reported all) (Nat.not_le.mpr many)
      | far reported _ _ chosen far =>
        have near := (fits _ _ reported).2 _ (mem_of_mem_asked chosen)
        exact absurd near (Nat.not_lt.mpr far)
    obtain ⟨result, s', calls, traces, protocol⟩ := traces_execute fine
    exact ⟨result, s', calls, protocol, traces⟩

-- ---------------------------------------------------------------------------
-- Work that breaks down
-- ---------------------------------------------------------------------------

def BreaksDown (b : Backend σ) (statement : Statement) (page : Page) (s : σ) : Prop :=
  b.Overruns statement page s ∨ ∃ s' calls, b.Protocol statement page s (.error .overflow) s' calls

theorem Protocol.carried (h : b.Protocol statement page s result s' calls) :
    ∀ call ∈ calls, call.statement = statement := by
  have fetched (ranges : List PageRange) :
      ∀ call ∈ BackendCall.pageRanges statement page.size ::
        ranges.map (.fetchPage statement page.size), call.statement = statement := by
    intro call hcall
    rcases List.mem_cons.mp hcall with rfl | hcall
    · rfl
    · obtain ⟨range, -, rfl⟩ := List.mem_map.mp hcall
      rfl
  cases h with
  | unreported => exact fetched []
  | unfetched => exact fetched _
  | done => exact fetched _

/-- A page of fewer than 2^63 rows can always be had from a backend that serves them. -/
theorem Serves.not_breaksDown {rows : List Record}
    (serves : b.Serves statement page.size rows) (positive : 0 < page.size)
    (small : page.size ≤ maxPageSize) (few : rows.length < 2 ^ 63)
    (paginated : page.paginated = true) (s : σ) : ¬ b.BreaksDown statement page s := by
  have small : page.size ≤ 1000 := small
  obtain ⟨s₁, reported⟩ := serves.ranges s
  have inside {range : PageRange}
      (h : range ∈ asked page (PageRange.split rows.length page.size)) :
      range ∈ PageRange.split rows.length page.size := mem_of_mem_asked h
  rintro (overruns | ⟨s', calls, protocol⟩)
  · cases overruns with
    | uncounted h _ many =>
      cases reported.symm.trans h
      rw [PageRange.total_split positive, UInt64.size] at many
      omega
    | unheld _ all =>
      rw [paginated] at all
      cases all
    | @far _ _ _ _ range h _ _ chosen far =>
      cases reported.symm.trans h
      have fits := (PageRange.mem_split positive (inside chosen)).2
      rw [Nat.succ_mul, UInt64.size] at far
      omega
  · cases protocol with
    | unreported fails => cases reported.symm.trans fails
    | unfetched h order fetches fails =>
      cases reported.symm.trans h
      have chosen := order.symm ▸ List.mem_append_right _ List.mem_cons_self
      obtain ⟨_, fetched⟩ := serves.page _ (inside chosen) _
      cases fetched.symm.trans fails

end Backend

-- ---------------------------------------------------------------------------
-- Irregular ranges
-- ---------------------------------------------------------------------------

namespace NumberedRows

/-- Ranges out of order and of uneven sizes, of which the second cannot be fetched. -/
def irregular : NumberedRows where
  total := 0
  ranges := some [⟨5, 3⟩, ⟨2, 0⟩, ⟨9, 4⟩]
  pageFault := some (2, .io "gone")

theorem conforms_irregular :
    (∀ ranges s₁, irregular.backend.pageRanges ⟨"", []⟩ 10 () = (.ok ranges, s₁) →
      PageRange.total ranges < UInt64.size ∧
      ∀ range ∈ ranges, (range.index + 1) * 10 < UInt64.size) ∧
    irregular.backend.Conforms ⟨"", []⟩ ⟨10, 0, false⟩ () := by
  have reported {ranges : List PageRange} {s₁ : Unit}
      (h : irregular.backend.pageRanges ⟨"", []⟩ 10 () = (.ok ranges, s₁)) :
      [⟨5, 3⟩, ⟨2, 0⟩, ⟨9, 4⟩] = ranges :=
    Except.ok.inj (congrArg Prod.fst h)
  have fits : ∀ ranges s₁, irregular.backend.pageRanges ⟨"", []⟩ 10 () = (.ok ranges, s₁) →
      PageRange.total ranges < UInt64.size ∧
      ∀ range ∈ ranges, (range.index + 1) * 10 < UInt64.size := by
    intro ranges s₁ h
    obtain rfl := reported h
    decide
  have room : irregular.backend.Conforms ⟨"", []⟩ ⟨10, 0, false⟩ () ↔ _ :=
    Backend.conforms_iff fits
  refine ⟨fits, room.mpr fun ranges s₁ h _ => ?_⟩
  obtain rfl := reported h
  decide

/-- One row, promised to be very many. -/
def boastful : NumberedRows where
  total := 1
  ranges := some [⟨0, 2 ^ 63 - 1⟩]
  shortBy := 2 ^ 63 - 2

/-- All numbers fit into a word and each range can be fetched, but for all pages at once room is
made for the rows that are promised. -/
theorem not_conforms_boastful :
    boastful.backend.pageRanges ⟨"", []⟩ 1 () = (.ok [⟨0, 2 ^ 63 - 1⟩], ()) ∧
    PageRange.total [⟨0, 2 ^ 63 - 1⟩] < UInt64.size ∧ (0 + 1) * 1 < UInt64.size ∧
    boastful.backend.fetchPage ⟨"", []⟩ 1 ⟨0, 2 ^ 63 - 1⟩ () = (.ok [row 0], ()) ∧
    boastful.backend.execute ⟨"", []⟩ ⟨1, 0, false⟩ () = (.error .overflow, ()) ∧
    ¬ boastful.backend.Conforms ⟨"", []⟩ ⟨1, 0, false⟩ () := by
  have reported : boastful.backend.pageRanges ⟨"", []⟩ 1 () = (.ok [⟨0, 2 ^ 63 - 1⟩], ()) := rfl
  have many : Execution.maxRows < PageRange.total [⟨0, 2 ^ 63 - 1⟩] := by decide
  refine ⟨reported, by decide, by decide, rfl, ?_, fun conforms => ?_⟩
  · have unheld : Traces Prod.mk (boastful.backend.execute ⟨"", []⟩ ⟨1, 0, false⟩) _ () _ () _ :=
      Backend.traces_execute_of_unheld reported rfl many
    exact unheld.1
  · exact absurd (conforms.room reported rfl) (Nat.not_le.mpr many)

end NumberedRows

end FilterSql
