import FilterSql.Proofs.FirstFault
import FilterSql.Proofs.Query.Compilation
import FilterSql.Proofs.Query.DateSpelling

/-!
# Refused requests

`Fault` says what may be wrong with a request at each stage of its compilation, from the record type
to the terms, and `Term.Fault` what may be wrong with a term. `refused_iff`: a request is refused
exactly if it has a fault, and the error is that of the first stage with one.
-/

namespace FilterSql.Query

open Text

-- ---------------------------------------------------------------------------
-- Faults of a term
-- ---------------------------------------------------------------------------

def Operator.Kind.needs : Kind → Option Operand
  | comparison _ | text _ _ => some .scalar
  | membership _ => some .nonEmptyList
  | range => some .bothDates
  | day _ => some .date
  | null _ | flag _ => none

namespace Term

def Lacks (t : Term) : Operand → Prop
  | .scalar | .date => t.value = none
  | .nonEmptyList | .scalarList => t.values = none ∨ t.values = some []
  | .bothDates => t.startDate = none ∨ t.endDate = none

inductive OperandFault (t : Term) : Operand → QueryError → Prop
  | missing (lacks : t.Lacks operand) : OperandFault t operand (.missingOperand t.op operand)
  | value (given : t.value = some v) (bad : NoDate v) :
      OperandFault t .date (.invalidDate t.op v.display)
  | startDate (start : t.startDate = some first) (finish : t.endDate = some last)
      (bad : NoDate (.text first)) : OperandFault t .bothDates (.invalidDate t.op first)
  | endDate (start : t.startDate = some first) (finish : t.endDate = some last)
      (startDenotes : DenotesDate first d) (bad : NoDate (.text last)) :
      OperandFault t .bothDates (.invalidDate t.op last)

def Fault (t : Term) (e : QueryError) : Prop :=
  ∃ operand, t.op.kind.needs = some operand ∧ t.OperandFault operand e

theorem requiredDay_eq_error {op : Operator} {v : Scalar} :
    requiredDay op v = .error e ↔ NoDate v ∧ e = .invalidDate op v.display := by
  rw [← window?_eq_none_iff]
  unfold requiredDay
  cases window? v <;> simp [eq_comm]

theorem exists_denotes_of_requiredDay {op : Operator} (h : requiredDay op (.text s) = .ok w) :
    ∃ d, DenotesDate s d := by
  have window := requiredDay_eq_ok h
  rw [window?_text, DayWindow.ofText?_eq_some_iff] at window
  obtain ⟨d, hd, -⟩ := window
  exact ⟨d, hd⟩

theorem requiredDay_of_denotes (op : Operator) (h : DenotesDate s d) :
    requiredDay op (.text s) = .ok ⟨d.text, d.next.text⟩ := by
  have window : DayWindow.ofText? s = some ⟨d.text, d.next.text⟩ :=
    DayWindow.ofText?_eq_some_iff.mpr ⟨d, h, rfl⟩
  simp only [requiredDay, window?_text, window]

section

variable {t : Term}

theorem scalarOperand_eq_error : t.scalarOperand = .error e ↔ t.OperandFault .scalar e := by
  unfold scalarOperand
  constructor
  · intro h
    split at h
    · cases h
    · rename_i lacks
      obtain rfl := Except.error.inj h
      exact .missing lacks
  · rintro ⟨lacks⟩
    simp only [show t.value = none from lacks]

theorem listOfValues_eq_error : t.listOfValues = .error e ↔ t.OperandFault .nonEmptyList e := by
  unfold listOfValues
  constructor
  · intro h
    split at h
    · cases h
    · rename_i lacks
      obtain rfl := Except.error.inj h
      refine .missing ?_
      match hvs : t.values with
      | none => exact .inl hvs
      | some [] => exact .inr hvs
      | some (v :: vs) => exact absurd hvs (lacks v vs)
  · rintro ⟨lacks | lacks⟩ <;> simp only [lacks]

theorem dayOperand_eq_error : t.dayOperand = .error e ↔ t.OperandFault .date e := by
  unfold dayOperand
  constructor
  · intro h
    split at h
    · rename_i v given
      obtain ⟨bad, rfl⟩ := requiredDay_eq_error.mp h
      exact .value given bad
    · rename_i lacks
      obtain rfl := Except.error.inj h
      exact .missing lacks
  · intro fault
    cases fault with
    | missing lacks => simp only [show t.value = none from lacks]
    | value given bad =>
      simp only [given]
      exact requiredDay_eq_error.mpr ⟨bad, rfl⟩

theorem dateRange_eq_error : t.dateRange c = .error e ↔ t.OperandFault .bothDates e := by
  unfold dateRange
  constructor
  · intro h
    split at h
    · rename_i first last start finish
      rcases bind_eq_error.mp h with h | ⟨w, hw, h⟩
      · obtain ⟨bad, rfl⟩ := requiredDay_eq_error.mp h
        exact .startDate start finish bad
      · obtain ⟨d, hd⟩ := exists_denotes_of_requiredDay hw
        rcases bind_eq_error.mp h with h | ⟨_, _, h⟩
        · obtain ⟨bad, rfl⟩ := requiredDay_eq_error.mp h
          exact .endDate start finish hd bad
        · cases h
    · rename_i lacking
      obtain rfl := Except.error.inj h
      refine .missing ?_
      by_contra both
      simp only [Lacks, not_or, ← ne_eq, Option.ne_none_iff_exists'] at both
      obtain ⟨⟨first, start⟩, last, finish⟩ := both
      exact lacking first last start finish
  · intro fault
    cases fault with
    | missing lacks =>
      rcases lacks with lacks | lacks
      · simp only [lacks]
      · cases t.startDate <;> simp only [lacks]
    | startDate start finish bad =>
      simp only [start, finish]
      exact bind_eq_error.mpr (.inl (requiredDay_eq_error.mpr ⟨bad, rfl⟩))
    | endDate start finish denotes bad =>
      simp only [start, finish]
      refine bind_eq_error.mpr (.inr ⟨_, requiredDay_of_denotes t.op denotes, ?_⟩)
      exact bind_eq_error.mpr (.inl (requiredDay_eq_error.mpr ⟨bad, rfl⟩))

/-- The condition of a term fails in the fault of the term, whatever table it is put to. -/
theorem condition_eq_error {config : Config} : t.condition config a = .error e ↔ t.Fault e := by
  rw [condition_eq, Fault]
  cases t.op.kind with
  | comparison _ | text _ _ =>
    simp [conditionOfKind, Operator.Kind.needs, map_eq_error, scalarOperand_eq_error]
  | membership _ =>
    simp [conditionOfKind, Operator.Kind.needs, map_eq_error, listOfValues_eq_error]
  | range => simp [conditionOfKind, Operator.Kind.needs, dateRange_eq_error]
  | day _ => simp [conditionOfKind, Operator.Kind.needs, map_eq_error, dayOperand_eq_error]
  | null _ | flag _ => simp [conditionOfKind, Operator.Kind.needs]

end

end Term

-- ---------------------------------------------------------------------------
-- Faults of a request
-- ---------------------------------------------------------------------------

/-- The terms in the order in which their conditions are made: on a line table those on header
fields are in front of the others. -/
def inTurn (entry : CatalogEntry) (ts : List Term) : List Term :=
  match entry.header with
  | none => ts
  | some _ => headerTerms entry ts ++ ownTerms entry ts

inductive Stage where
  | recordType
  | filter
  | catalog
  | fields
  | orderBy
  | terms
  deriving DecidableEq, Repr

def Stage.inOrder : List Stage := [recordType, filter, catalog, fields, orderBy, terms]

def BadName (role : NameRole) (name : String) (e : QueryError) : Prop :=
  isSafeIdentifier (trim name) = false ∧ e = .unsafeIdentifier role (trim name)

inductive Fault (catalog : Catalog) (r : Request) : Stage → QueryError → Prop
  | recordType (blank : ∀ name, r.recordType = some name → trim name = "") :
      Fault catalog r .recordType .missingRecordType
  | filter (malformed : Filter.terms r.filter = .error e) : Fault catalog r .filter e
  | catalog (named : r.recordType = some name)
      (unknown : Catalog.keyOf name ∉ catalog.recordTypes) :
      Fault catalog r .catalog (.unsupportedRecordType (trim name))
  | fields (named : r.fields = some names) (bad : First (BadName .fields) names e) :
      Fault catalog r .fields e
  | orderBy (named : r.orderBy = some name) (nonblank : trim name ≠ "")
      (bad : BadName .orderBy name e) : Fault catalog r .orderBy e
  | terms (concerns : Concerns catalog r found ts)
      (bad : First Term.Fault (inTurn found.entry ts) e) : Fault catalog r .terms e

theorem selection_eq_error : selection fields = .error e ↔
    ∃ names, fields = some names ∧ First (BadName .fields) names e := by
  have checked (names : List String) :
      (names.mapM fun name => Identifier.check .fields (trim name)) = .error e ↔
        First (BadName .fields) names e := by
    rw [mapM_eq_error]
    exact First.congr fun name _ e => Identifier.check_eq_error
  match fields with
  | none | some [] => simp [selection, First.not_nil]
  | some (name :: names) =>
    rw [selection, bind_eq_error, checked]
    · simp [pure, Except.pure]
    · simp

theorem orderColumn_eq_error : orderColumn orderBy = .error e ↔
    ∃ name, orderBy = some name ∧ trim name ≠ "" ∧ BadName .orderBy name e := by
  unfold orderColumn
  cases orderBy with
  | none => simp
  | some name =>
    cases h : trimmed? name with
    | none => simp [h, trimmed?_eq_none_iff.mp h]
    | some t =>
      obtain ⟨rfl, nonblank⟩ := trimmed?_eq_some_iff.mp h
      simp [h, nonblank, map_eq_error, Identifier.check_eq_error, BadName]

theorem resolve_eq_error {catalog : Catalog} : catalog.resolve name = .error e ↔
    Catalog.keyOf name ∉ catalog.recordTypes ∧ e = .unsupportedRecordType name := by
  have known : catalog.entries.lookup (Catalog.keyOf name) = none ↔
      Catalog.keyOf name ∉ catalog.recordTypes := by
    rw [List.lookup_eq_none_iff]
    simp only [Catalog.recordTypes, List.mem_map, not_exists, not_and]
    exact forall₂_congr fun e _ => by rw [bne_iff_ne, ne_comm]
  rw [← known]
  simp only [Catalog.resolve]
  cases catalog.entries.lookup (Catalog.keyOf name) <;> simp [eq_comm]

theorem conditions_eq_error {config : Config} :
    conditions config a ts = .error e ↔ First Term.Fault ts e := by
  rw [conditions, mapM_eq_error]
  exact First.congr fun t _ e => Term.condition_eq_error

theorem termPredicates_eq_error {config : Config} :
    termPredicates config source entry ts = .error e ↔ First Term.Fault (inTurn entry ts) e := by
  unfold termPredicates inTurn
  cases entry.header with
  | none => simp [bind_eq_error, conditions_eq_error, pure, Except.pure]
  | some link =>
    -- The other terms are only looked at if every term on the header has its condition.
    have own {aliasName : String} {ts : List Term} :
        (∃ cs, conditions config aliasName ts = .ok cs) ↔ ∀ t ∈ ts, ∀ e, ¬ t.Fault e := by
      rw [← forall_ne_error_iff]
      simp only [conditions_eq_error, ne_eq, First.none_iff]
    simp only [bind_eq_error, conditions_eq_error, pure, Except.pure, reduceCtorEq, and_false,
      exists_false, or_false, exists_and_right, own, First.append_iff, headerTerms, ownTerms]

theorem filter_fault_iff : Filter.terms r.filter = .error e ↔ Fault catalog r .filter e := by
  constructor
  · exact .filter
  · intro fault
    cases fault with
    | filter malformed => exact malformed

theorem catalog_fault_iff (given : r.recordType = some name) :
    catalog.resolve (trim name) = .error e ↔ Fault catalog r .catalog e := by
  rw [resolve_eq_error, Catalog.keyOf, trim_trim, ← Catalog.keyOf]
  constructor
  · rintro ⟨unknown, rfl⟩
    exact .catalog given unknown
  · intro fault
    cases fault with
    | catalog named unknown =>
      obtain rfl := Option.some.inj (given.symm.trans named)
      exact ⟨unknown, rfl⟩

theorem fields_fault_iff : selection r.fields = .error e ↔ Fault catalog r .fields e := by
  rw [selection_eq_error]
  constructor
  · rintro ⟨names, named, bad⟩
    exact .fields named bad
  · intro fault
    cases fault with
    | fields named bad => exact ⟨_, named, bad⟩

theorem orderBy_fault_iff : orderColumn r.orderBy = .error e ↔ Fault catalog r .orderBy e := by
  rw [orderColumn_eq_error]
  constructor
  · rintro ⟨name, named, nonblank, bad⟩
    exact .orderBy named nonblank bad
  · intro fault
    cases fault with
    | orderBy named nonblank bad => exact ⟨_, named, nonblank, bad⟩

theorem terms_fault_iff {config : Config} (concerns : Concerns catalog r found ts) :
    termPredicates config source found.entry ts = .error e ↔ Fault catalog r .terms e := by
  rw [termPredicates_eq_error]
  constructor
  · exact .terms concerns
  · intro fault
    cases fault with
    | terms concerns' bad =>
      obtain ⟨rfl, rfl⟩ := concerns.unique concerns'
      exact bad

theorem outline_eq_error :
    outline catalog config r = .error e ↔ First (Fault catalog r) Stage.inOrder e := by
  unfold outline
  split
  · rename_i name hname
    obtain ⟨given, hgiven, htrimmed⟩ := Option.bind_eq_some_iff.mp hname
    obtain ⟨rfl, nonblank⟩ := trimmed?_eq_some_iff.mp htrimmed
    have fine : ∀ e, ¬ Fault catalog r .recordType e := by
      rintro _ ⟨blank⟩
      exact nonblank (blank given hgiven)
    rw [Stage.inOrder, First.cons_iff, or_iff_right (fine e), and_iff_right fine]
    -- From here on each step fails in the fault of the next stage or leaves the rest to the others.
    apply bind_eq_error_iff_first fun e => filter_fault_iff
    intro ts hts
    apply bind_eq_error_iff_first fun e => catalog_fault_iff hgiven
    intro found hfound
    apply bind_eq_error_iff_first fun e => fields_fault_iff
    intro select _
    apply bind_eq_error_iff_first fun e => orderBy_fault_iff
    intro orderBy _
    apply bind_eq_error_iff_first fun e => terms_fault_iff ⟨⟨_, hname, hfound⟩, hts⟩
    intro predicates _
    exact iff_of_false (fun h => nomatch h) First.not_nil
  · rename_i hname
    have blank : ∀ name, r.recordType = some name → trim name = "" := by
      intro name named
      refine trimmed?_eq_none_iff.mp (Option.eq_none_iff_forall_ne_some.mpr fun t ht => ?_)
      exact hname t (by rw [named, Option.bind_some, ht])
    have fault : Fault catalog r .recordType .missingRecordType := .recordType blank
    rw [Stage.inOrder, First.cons_iff, or_iff_left fun h => h.1 _ fault]
    constructor
    · intro h
      obtain rfl := Except.error.inj h
      exact fault
    · rintro ⟨-⟩
      rfl

theorem compile_eq_error (built : catalog.Built) : compile catalog config r = .error f ↔
    ∃ e, f = .refused e ∧ First (Fault catalog r) Stage.inOrder e := by
  have outlined (e : QueryError) : outline catalog config r = .error e ↔ _ := outline_eq_error
  simp only [← outlined]
  rw [compile_eq_outline built]
  cases outline catalog config r <;> simp [Except.mapError, Except.map, eq_comm]

theorem Stage.mem_inOrder (stage : Stage) : stage ∈ inOrder := by
  cases stage <;> decide

/-- Which requests are refused, with which error, and which terms have no condition. -/
theorem refused_iff (built : catalog.Built) (config : Config) (r : Request) :
    ((∃ f, compile catalog config r = .error f) ↔ ∃ stage e, Fault catalog r stage e) ∧
    (∀ f, compile catalog config r = .error f ↔
      ∃ e, f = .refused e ∧ First (Fault catalog r) Stage.inOrder e) ∧
    ∀ (aliasName : String) (t : Term) (e : QueryError),
      t.condition config aliasName = .error e ↔ t.Fault e := by
  refine ⟨?_, fun f => compile_eq_error built, fun _ _ _ => Term.condition_eq_error⟩
  calc (∃ f, compile catalog config r = .error f)
    _ ↔ ∃ e, First (Fault catalog r) Stage.inOrder e := by simp [compile_eq_error built]
    _ ↔ ∃ stage ∈ Stage.inOrder, ∃ e, Fault catalog r stage e := First.exists_iff
    _ ↔ ∃ stage e, Fault catalog r stage e := by simp [Stage.mem_inOrder]

/-- Both terms lack their values. The second one is on the header. -/
def twoBadTerms : Request where
  recordType := some "line"
  filter := .object [("d", .object [("operator", .string "date_after")]),
    ("name", .object [("operator", .string "contains")])]

theorem refused_twoBadTerms : (∃ stage e, Fault orderLines twoBadTerms stage e) ∧
    First (Fault orderLines twoBadTerms) Stage.inOrder (.missingOperand .contains .scalar) := by
  have refused : compile orderLines {} twoBadTerms =
      .error (.refused (.missingOperand .contains .scalar)) := rfl
  obtain ⟨faulty, first, -⟩ := refused_iff built_orderLines {} twoBadTerms
  obtain ⟨e, he, reported⟩ := (first _).mp refused
  cases he
  exact ⟨faulty.mp ⟨_, refused⟩, reported⟩

end FilterSql.Query
