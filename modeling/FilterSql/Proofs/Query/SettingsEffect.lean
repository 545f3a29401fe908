import FilterSql.Proofs.Query.Arrangement
import FilterSql.Proofs.Query.Dialects
import FilterSql.Proofs.Query.TwoRuns

/-!
# What the settings change

`compile_between_settings`: with another dialect a query binds the same values and its text differs
in how it writes days. With comparisons of days switched off it has the same predicates, but for the
comparisons with a text that denotes a day, which compare with the text as it stands. Neither of the
settings decides whether a request is refused.
-/

namespace FilterSql.Query

open Sql

def Term.ComparesDate (t : Term) (cmp : Comparison) (s : String) (w : DayWindow) : Prop :=
  t.op.kind = .comparison cmp ∧ t.value = some (.text s) ∧ DayWindow.ofText? s = some w

/-- The condition of a term with comparisons of days, and the one without. -/
structure Term.Switched (d : Dialect) (a : String) (t : Term) (on off : Condition) : Prop where
  aware : t.condition ⟨d, true⟩ a = .ok on
  unaware : t.condition ⟨d, false⟩ a = .ok off
  other : (∀ cmp s w, ¬ t.ComparesDate cmp s w) → off = on
  date : ∀ cmp s w, t.ComparesDate cmp s w →
    on = compareDay ⟨a, t.field.text⟩ w cmp ∧
      off.fragment d = ⟨a ++ "." ++ t.field.text ++ " " ++ cmp.symbol ++ " ?", [.text s]⟩

structure Compiled.Switched (catalog : Catalog) (r : Request) (d : Dialect) (c c' : Compiled) :
    Prop where
  recordType : c.recordType = c'.recordType
  plan : c'.plan = { c.plan with filter := c'.plan.filter }
  terms : ∃ found ts on off, Concerns catalog r found ts ∧
    c.plan.filter = (arranged found ts on).map (·.fragment d) ∧
    c'.plan.filter = (arranged found ts off).map (·.fragment d) ∧
    ∀ t ∈ ts, t.Switched d (tableAlias found t.field) (on t) (off t)

-- ---------------------------------------------------------------------------
-- Terms
-- ---------------------------------------------------------------------------

namespace Term

variable {cmp cmp' : Comparison}

theorem ComparesDate.unique {t : Term} (h : t.ComparesDate cmp s w)
    (h' : t.ComparesDate cmp' s' w') : cmp = cmp' ∧ s = s' ∧ w = w' := by
  obtain ⟨hk, hv, hw⟩ := h
  obtain ⟨hk', hv', hw'⟩ := h'
  obtain rfl : s = s' := Scalar.text.inj (Option.some.inj (hv.symm.trans hv'))
  exact ⟨Operator.Kind.comparison.inj (hk.symm.trans hk'), rfl,
    Option.some.inj (hw.symm.trans hw')⟩

theorem condition_of_comparesDate {t : Term} (h : t.ComparesDate cmp s w) (config : Config)
    (a : String) : t.condition config a =
      .ok (if config.dateAware then compareDay ⟨a, t.field.text⟩ w cmp
        else .compare ⟨a, t.field.text⟩ cmp (.text s)) := by
  obtain ⟨hk, hv, hw⟩ := h
  have operand : scalarOperand t = .ok (.text s) := by rw [scalarOperand, hv]
  rw [condition_eq, hk, conditionOfKind, operand, Except.map_ok, compareValue]
  split <;> simp_all [window?_text]

/-- Only comparisons with the text of a day look at the setting. -/
theorem condition_dateAware {t : Term} (h : ∀ cmp s w, ¬ t.ComparesDate cmp s w) (d : Dialect)
    (a : String) : t.condition ⟨d, true⟩ a = t.condition ⟨d, false⟩ a := by
  rw [condition_eq, condition_eq]
  cases hk : t.op.kind with
  | comparison cmp =>
    rw [conditionOfKind, conditionOfKind]
    cases hv : scalarOperand t with
    | error e => rfl
    | ok v =>
      have hday : window? v = none := by
        rw [Option.eq_none_iff_forall_ne_some]
        intro w hw
        obtain ⟨s, rfl, hs⟩ := window?_eq_some_iff.mp hw
        exact h cmp s w ⟨hk, scalarOperand_eq_ok hv, hs⟩
      simp only [compareValue, hday, Except.map_ok, if_true, Bool.false_eq_true, if_false]
  | _ => rfl

theorem switched (t : Term) (d : Dialect) (a : String) :
    Agree (· = ·) (t.Switched d a) (t.condition ⟨d, true⟩ a) (t.condition ⟨d, false⟩ a) := by
  by_cases hdate : ∃ cmp s w, t.ComparesDate cmp s w
  · obtain ⟨cmp, s, w, h⟩ := hdate
    have aware := condition_of_comparesDate h ⟨d, true⟩ a
    have unaware := condition_of_comparesDate h ⟨d, false⟩ a
    rw [aware, unaware]
    refine .ok ⟨aware, unaware, fun none => absurd h (none cmp s w), fun cmp' s' w' h' => ?_⟩
    obtain ⟨rfl, rfl, rfl⟩ := h.unique h'
    simp [Condition.fragment, Column.sql]
  · have none cmp s w : ¬ t.ComparesDate cmp s w := fun h => hdate ⟨cmp, s, w, h⟩
    have same := condition_dateAware none d a
    cases aware : t.condition ⟨d, true⟩ a with
    | error e =>
      rw [same.symm.trans aware]
      exact .error rfl
    | ok c =>
      have unaware := same.symm.trans aware
      rw [unaware]
      exact .ok ⟨aware, unaware, fun _ => rfl, fun cmp s w h => absurd h (none cmp s w)⟩

end Term

-- ---------------------------------------------------------------------------
-- Whole requests
-- ---------------------------------------------------------------------------

theorem termPredicates_dateAware (d : Dialect) (ts : List Term) :
    PredicatesAgree (· = ·) (fun _ _ => True) ⟨d, true⟩ ⟨d, false⟩ ts ts := by
  intro found
  have each (a : String) (ts : List Term) : Agree (· = ·) (fun _ _ => True)
      (conditions ⟨d, true⟩ a ts) (conditions ⟨d, false⟩ a ts) := by
    refine (Agree.mapM (R := fun _ _ => True) (List.forall₂_same.mpr fun t _ => ?_)).imp
      fun _ _ _ => trivial
    exact (t.switched d a).imp fun _ _ _ => trivial
  unfold termPredicates
  split
  · exact (each _ _).bind fun _ _ _ => .ok trivial
  · exact (each _ _).bind fun _ _ _ => (each _ _).bind fun _ _ _ => .ok trivial

theorem compile_dateAware (built : catalog.Built) (d : Dialect) (r : Request) :
    Agree (· = ·) (Compiled.Switched catalog r d) (compile catalog ⟨d, true⟩ r)
      (compile catalog ⟨d, false⟩ r) := by
  have predicates (ts us : List Term) (h : ts = us) :
      PredicatesAgree (· = ·) (fun _ _ => True) ⟨d, true⟩ ⟨d, false⟩ ts us :=
    h ▸ termPredicates_dateAware d ts
  have agree := compile_beside built r (.refl (fun _ => rfl) (Filter.terms r.filter)) predicates
  rcases agree.either with ⟨e, he, he'⟩ | ⟨c, c', hc, hc', beside, hfilter, hfilter'⟩
  · rw [he, he']
    exact .error rfl
  · rw [hc, hc']
    obtain ⟨found, ts, concerns, made, -⟩ := compilation_of_compile built hc
    obtain ⟨found', ts', concerns', made', -⟩ := compilation_of_compile built hc'
    obtain ⟨rfl, rfl⟩ := concerns.unique concerns'
    obtain ⟨on, hon, haware⟩ := arranged_of_compilation made
    obtain ⟨off, hoff, hunaware⟩ := arranged_of_compilation made'
    refine .ok ⟨beside.recordType, beside.plan, found, ts, on, off, concerns,
      haware ▸ hfilter, hunaware ▸ hfilter', fun t ht => ?_⟩
    have both := t.switched d (tableAlias found t.field)
    rw [hon t ht, hoff t ht] at both
    cases both with
    | ok h => exact h

/-- What the settings change. Under both dialects a request is refused for the same reason, or binds
the same values to texts of which the one is the other with a question mark for each conversion of a
date. With comparisons of days and without them it is refused for the same reason, or has the same
conditions apart from comparisons with the text of a day. The operators on dates always compare
days. -/
theorem compile_between_settings (built : catalog.Built) (r : Request) :
    (∀ dateAware,
      (∃ e, compile catalog ⟨.duckdb, dateAware⟩ r = .error e ∧
        compile catalog ⟨.suiteql, dateAware⟩ r = .error e) ∨
      ∃ c c', compile catalog ⟨.duckdb, dateAware⟩ r = .ok c ∧
        compile catalog ⟨.suiteql, dateAware⟩ r = .ok c' ∧
        c.statement.params = c'.statement.params ∧
        Text.replace "TO_DATE(?, 'YYYY-MM-DD')" "?" c'.statement.sql = c.statement.sql) ∧
    (∀ d,
      (∃ e, compile catalog ⟨d, true⟩ r = .error e ∧ compile catalog ⟨d, false⟩ r = .error e) ∨
      ∃ c c', compile catalog ⟨d, true⟩ r = .ok c ∧ compile catalog ⟨d, false⟩ r = .ok c' ∧
        Compiled.Switched catalog r d c c') ∧
    ∀ d a, ∀ t : Term, t.op ∈ [.dateRange, .dateEquals, .dateBefore, .dateAfter] →
      t.condition ⟨d, true⟩ a = t.condition ⟨d, false⟩ a := by
  refine ⟨fun dateAware => ?_, fun d => (compile_dateAware built d r).either, fun d a t ht => ?_⟩
  · refine (compile_dialects built dateAware r).either.imp_right ?_
    rintro ⟨c, c', hc, hc', same⟩
    exact ⟨c, c', hc, hc', same.params, same.sql⟩
  · refine Term.condition_dateAware (fun cmp s w h => ?_) d a
    have notComparison : ∀ op ∈ [Operator.dateRange, .dateEquals, .dateBefore, .dateAfter],
        op.kind ≠ .comparison cmp := by simp [Operator.kind]
    exact notComparison _ ht h.1

theorem compile_between_settings_linesOfADay : orderLines.Built ∧ ∃ c converted verbatim,
    compile orderLines ⟨.duckdb, true⟩ linesOfADay = .ok c ∧
    compile orderLines ⟨.suiteql, true⟩ linesOfADay = .ok converted ∧
    Text.replace "TO_DATE(?, 'YYYY-MM-DD')" "?" converted.statement.sql = c.statement.sql ∧
    compile orderLines ⟨.duckdb, false⟩ linesOfADay = .ok verbatim ∧
    Compiled.Switched orderLines linesOfADay .duckdb c verbatim := by
  obtain ⟨c, hc, -⟩ := compile_linesOfADay
  obtain ⟨dialects, dateAware, -⟩ := compile_between_settings built_orderLines linesOfADay
  rcases dialects true with ⟨e, he, -⟩ | ⟨c₁, converted, h₁, hconverted, -, hsql⟩
  · cases hc.symm.trans he
  rcases dateAware .duckdb with ⟨e, he, -⟩ | ⟨c₂, verbatim, h₂, hverbatim, switched⟩
  · cases hc.symm.trans he
  obtain rfl := Except.ok.inj (h₁.symm.trans h₂)
  exact ⟨built_orderLines, c₁, converted, verbatim, h₁, hconverted, hsql, hverbatim, switched⟩

end FilterSql.Query
