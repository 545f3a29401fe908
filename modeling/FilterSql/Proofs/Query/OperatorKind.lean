import FilterSql.Proofs.Outcome
import FilterSql.Proofs.Query.AcceptedDates
import FilterSql.Proofs.Query.WellFormed

/-!
# Kinds of operators

The twenty operators fall into seven kinds. `Term.condition_eq` rewrites the condition of a term
accordingly, so that what holds of all terms has one case for each kind. `Term.boundValues` says
which values a term binds, whatever table it is put to.
-/

namespace FilterSql.Query

inductive Place where
  | anywhere
  | atStart
  | atEnd
  deriving DecidableEq, Repr

def Place.pattern : Place → String → String
  | anywhere => LikePattern.containing
  | atStart => LikePattern.startingWith
  | atEnd => LikePattern.endingWith

namespace Operator

inductive Kind where
  /-- Comparison with a scalar, or with the day that it denotes. -/
  | comparison (cmp : Comparison)
  | text (place : Place) (negated : Bool)
  | membership (negated : Bool)
  | null (negated : Bool)
  | range
  | day (cmp : Comparison)
  | flag (value : Bool)
  deriving DecidableEq, Repr

def kind : Operator → Kind
  | equals => .comparison .eq
  | notEquals => .comparison .ne
  | greaterThan => .comparison .gt
  | lessThan => .comparison .lt
  | greaterThanOrEqual => .comparison .ge
  | lessThanOrEqual => .comparison .le
  | contains => .text .anywhere false
  | startsWith => .text .atStart false
  | endsWith => .text .atEnd false
  | notContains => .text .anywhere true
  | isIn => .membership false
  | notIn => .membership true
  | isNull => .null false
  | isNotNull => .null true
  | dateRange => .range
  | dateEquals => .day .eq
  | dateBefore => .day .lt
  | dateAfter => .day .gt
  | isTrue => .flag true
  | isFalse => .flag false

/-- The comparison with a day that an operator makes, if its operand is the text of one. -/
inductive ComparesDays (op : Operator) (cmp : Comparison) : Prop
  | aware (h : op.kind = .comparison cmp)
  | always (h : op.kind = .day cmp)

end Operator

namespace Term

def conditionOfKind (config : Config) (c : Column) (t : Term) :
    Operator.Kind → Except QueryError Condition
  | .comparison cmp => compareValue config.dateAware c cmp <$> scalarOperand t
  | .text place negated => (fun v => .like c negated (place.pattern v.display)) <$> scalarOperand t
  | .membership negated => .among c negated <$> listOfValues t
  | .null negated => .ok (.null c negated)
  | .range => dateRange t c
  | .day cmp => (compareDay c · cmp) <$> dayOperand t
  | .flag value => .ok (.compare c .eq (flag value))

theorem condition_eq (config : Config) (aliasName : String) (t : Term) :
    t.condition config aliasName =
      t.conditionOfKind config ⟨aliasName, t.field.text⟩ t.op.kind := by
  unfold condition
  cases t.op <;> rfl

-- ---------------------------------------------------------------------------
-- Values
-- ---------------------------------------------------------------------------

/-- The day with which a comparison compares, if it is one with a whole day. -/
def comparedDay? (config : Config) (v : Scalar) : Option DayWindow :=
  if config.dateAware then window? v else none

theorem compareValue_eq (config : Config) (c : Column) (cmp : Comparison) (v : Scalar) :
    compareValue config.dateAware c cmp v =
      match comparedDay? config v with
      | some w => compareDay c w cmp
      | none => .compare c cmp v :=
  rfl

/-- The ends of a day that a comparison with it needs. -/
def dayValues (w : DayWindow) : Comparison → List Scalar
  | .eq | .ne => [.text w.start, .text w.next]
  | .gt | .le => [.text w.next]
  | .lt | .ge => [.text w.start]

def boundValues (config : Config) (t : Term) : List Scalar :=
  match t.op.kind with
  | .comparison cmp =>
    match t.value with
    | some v =>
      match comparedDay? config v with
      | some w => dayValues w cmp
      | none => [v]
    | none => []
  | .text place _ => (t.value.map fun v => .text (place.pattern v.display)).toList
  | .membership _ => t.values.getD []
  | .null _ => []
  | .range =>
    match t.startDate.bind DayWindow.ofText?, t.endDate.bind DayWindow.ofText? with
    | some first, some last => [.text first.start, .text last.next]
    | _, _ => []
  | .day cmp =>
    match t.value.bind window? with
    | some w => dayValues w cmp
    | none => []
  | .flag value => [flag value]

def IsDate (v : Scalar) (day : Calendar.Date) : Prop := ∃ s, v = .text s ∧ DenotesDate s day

def NoDate (v : Scalar) : Prop := ∀ s, v = .text s → ∀ d, ¬ DenotesDate s d

theorem window?_text (s : String) : window? (.text s) = DayWindow.ofText? s := by
  rw [window?, Scalar.asText?, Option.bind_some]

theorem window?_eq_some_iff {v : Scalar} :
    window? v = some w ↔ ∃ s, v = .text s ∧ DayWindow.ofText? s = some w := by
  cases v <;> simp [window?, Scalar.asText?]

theorem window?_eq_some_iff_isOf {v : Scalar} :
    window? v = some w ↔ ∃ day, IsDate v day ∧ w.IsOf day := by
  simp only [window?_eq_some_iff, DayWindow.ofText?_eq_some_iff_isOf, IsDate]
  constructor
  · rintro ⟨s, rfl, day, denotes, isOf⟩
    exact ⟨day, ⟨s, rfl, denotes⟩, isOf⟩
  · rintro ⟨day, ⟨s, rfl, denotes⟩, isOf⟩
    exact ⟨s, rfl, day, denotes, isOf⟩

theorem window?_eq_none_iff {v : Scalar} : window? v = none ↔ NoDate v := by
  cases v with
  | text s => simp [NoDate, window?_text, DayWindow.ofText?_eq_none_iff]
  | _ => simp [NoDate, window?, Scalar.asText?]

theorem comparedDay?_eq_some_iff {config : Config} {v : Scalar} :
    comparedDay? config v = some w ↔ config.dateAware = true ∧ window? v = some w := by
  simp [comparedDay?]

theorem comparedDay?_eq_none_iff {config : Config} {v : Scalar} :
    comparedDay? config v = none ↔ (config.dateAware = true → NoDate v) := by
  simp [comparedDay?, window?_eq_none_iff]

theorem scalarOperand_eq_ok {t : Term} (h : scalarOperand t = .ok v) : t.value = some v := by
  unfold scalarOperand at h
  split at h
  · rw [‹t.value = _›, Except.ok.inj h]
  · cases h

theorem requiredDay_eq_ok {o : Operator} (h : requiredDay o v = .ok w) : window? v = some w := by
  unfold requiredDay at h
  split at h
  · rw [‹window? v = _›, Except.ok.inj h]
  · cases h

theorem dayOperand_eq_ok {t : Term} (h : dayOperand t = .ok w) :
    t.value.bind window? = some w := by
  unfold dayOperand at h
  split at h
  · rw [‹t.value = _›, Option.bind_some, requiredDay_eq_ok h]
  · cases h

theorem listOfValues_eq_ok {t : Term} (h : listOfValues t = .ok vs) :
    t.values = some vs ∧ vs ≠ [] := by
  unfold listOfValues at h
  split at h
  · rw [‹t.values = _›, ← Except.ok.inj h]
    exact ⟨rfl, List.cons_ne_nil _ _⟩
  · cases h

theorem dateRange_eq_ok {t : Term} {found : Condition} (h : dateRange t c = .ok found) :
    ∃ first last, t.startDate.bind DayWindow.ofText? = some first ∧
      t.endDate.bind DayWindow.ofText? = some last ∧ found = .within c first.start last.next := by
  unfold dateRange at h
  split at h
  · rename_i start finish hstart hfinish
    simp only [bind_eq_ok, pure_eq_ok] at h
    obtain ⟨first, hfirst, last, hlast, rfl⟩ := h
    rw [hstart, hfinish]
    have started := requiredDay_eq_ok (v := .text start) hfirst
    have finished := requiredDay_eq_ok (v := .text finish) hlast
    exact ⟨first, last, started, finished, rfl⟩
  · cases h

-- ---------------------------------------------------------------------------
-- The condition of a term
-- ---------------------------------------------------------------------------

theorem condition_of_comparesDays {config : Config} {t : Term} {cmp : Comparison}
    (aware : config.dateAware = true) (hop : t.op.ComparesDays cmp)
    (hv : t.value = some (.text s)) (hday : DayWindow.ofText? s = some w) (aliasName : String) :
    t.condition config aliasName = .ok (compareDay ⟨aliasName, t.field.text⟩ w cmp) := by
  have hwindow : window? (.text s) = some w := by rw [window?_text, hday]
  rw [condition_eq]
  cases hop with
  | aware hk =>
    have operand : t.scalarOperand = .ok (.text s) := by simp only [scalarOperand, hv]
    have hcompared : comparedDay? config (.text s) = some w := by
      rw [comparedDay?, if_pos aware, hwindow]
    rw [hk, conditionOfKind, operand, Except.map_ok, compareValue_eq, hcompared]
  | always hk =>
    have operand : t.dayOperand = .ok w := by simp only [dayOperand, hv, requiredDay, hwindow]
    rw [hk, conditionOfKind, operand, Except.map_ok]

/-- What a condition of a term on a column can be, by the kind of the operator. -/
inductive Denotes (config : Config) (c : Column) (t : Term) : Condition → Prop
  | scalar {cmp : Comparison} (hk : t.op.kind = .comparison cmp) (hv : t.value = some v)
      (hday : comparedDay? config v = none) : Denotes config c t (.compare c cmp v)
  | wholeDay {cmp : Comparison} (hk : t.op.kind = .comparison cmp) (hv : t.value = some v)
      (hday : comparedDay? config v = some w) : Denotes config c t (compareDay c w cmp)
  | text (hk : t.op.kind = .text place negated) (hv : t.value = some v) :
      Denotes config c t (.like c negated (place.pattern v.display))
  | among (hk : t.op.kind = .membership negated) (hvs : t.values = some vs) (hne : vs ≠ []) :
      Denotes config c t (.among c negated vs)
  | null (hk : t.op.kind = .null negated) : Denotes config c t (.null c negated)
  | range (hk : t.op.kind = .range) (hfirst : t.startDate.bind DayWindow.ofText? = some first)
      (hlast : t.endDate.bind DayWindow.ofText? = some last) :
      Denotes config c t (.within c first.start last.next)
  | day {cmp : Comparison} (hk : t.op.kind = .day cmp) (hv : t.value.bind window? = some w) :
      Denotes config c t (compareDay c w cmp)
  | flag {b : Bool} (hk : t.op.kind = .flag b) : Denotes config c t (.compare c .eq (Term.flag b))

theorem denotes_of_condition {config : Config} {t : Term} (h : t.condition config a = .ok c) :
    Denotes config ⟨a, t.field.text⟩ t c := by
  rw [condition_eq] at h
  cases hk : t.op.kind with
  | comparison cmp =>
    simp only [hk, conditionOfKind, map_eq_ok] at h
    obtain ⟨v, hv, rfl⟩ := h
    rw [compareValue_eq]
    cases hday : comparedDay? config v with
    | none => exact .scalar hk (scalarOperand_eq_ok hv) hday
    | some w => exact .wholeDay hk (scalarOperand_eq_ok hv) hday
  | text place negated =>
    simp only [hk, conditionOfKind, map_eq_ok] at h
    obtain ⟨v, hv, rfl⟩ := h
    exact .text hk (scalarOperand_eq_ok hv)
  | membership negated =>
    simp only [hk, conditionOfKind, map_eq_ok] at h
    obtain ⟨vs, hvs, rfl⟩ := h
    obtain ⟨hvalues, hne⟩ := listOfValues_eq_ok hvs
    exact .among hk hvalues hne
  | null negated =>
    simp only [hk, conditionOfKind, Except.ok.injEq] at h
    exact h ▸ .null hk
  | range =>
    rw [hk, conditionOfKind] at h
    obtain ⟨first, last, hfirst, hlast, rfl⟩ := dateRange_eq_ok h
    exact .range hk hfirst hlast
  | day cmp =>
    simp only [hk, conditionOfKind, map_eq_ok] at h
    obtain ⟨w, hw, rfl⟩ := h
    exact .day hk (dayOperand_eq_ok hw)
  | flag value =>
    simp only [hk, conditionOfKind, Except.ok.injEq] at h
    exact h ▸ .flag hk

/-- A term is put as a condition exactly if it denotes one, and as that one. -/
theorem condition_eq_ok_iff {config : Config} {t : Term} :
    t.condition config a = .ok c ↔ Denotes config ⟨a, t.field.text⟩ t c := by
  refine ⟨denotes_of_condition, fun h => ?_⟩
  rw [condition_eq]
  cases h with
  | scalar hk hv hday | wholeDay hk hv hday =>
    simp only [hk, conditionOfKind, scalarOperand, hv, Except.map_ok, compareValue_eq, hday]
  | text hk hv => simp only [hk, conditionOfKind, scalarOperand, hv, Except.map_ok]
  | among hk hvs hne =>
    obtain ⟨v, vs, rfl⟩ := List.exists_cons_of_ne_nil hne
    simp only [hk, conditionOfKind, listOfValues, hvs, Except.map_ok]
  | null hk | flag hk => rw [hk, conditionOfKind]
  | range hk hfirst hlast =>
    obtain ⟨start, hstart, hfirst⟩ := Option.bind_eq_some_iff.mp hfirst
    obtain ⟨finish, hfinish, hlast⟩ := Option.bind_eq_some_iff.mp hlast
    rw [← window?_text] at hfirst hlast
    simp only [hk, conditionOfKind, dateRange, hstart, hfinish, requiredDay, hfirst, hlast, ok_bind]
    rfl
  | day hk hv =>
    obtain ⟨v, hv, hw⟩ := Option.bind_eq_some_iff.mp hv
    simp only [hk, conditionOfKind, dayOperand, hv, requiredDay, hw, Except.map_ok]

theorem params_compareDay (d : Dialect) (c : Column) (w : DayWindow) (cmp : Comparison) :
    ((compareDay c w cmp).fragment d).params = dayValues w cmp := by
  cases cmp <;> rfl

theorem column_compareDay (c : Column) (w : DayWindow) (cmp : Comparison) :
    (compareDay c w cmp).column = c := by
  cases cmp <;> rfl

theorem filled_compareDay (c : Column) (w : DayWindow) (cmp : Comparison) :
    (compareDay c w cmp).Filled := by
  cases cmp <;> trivial

namespace Denotes

theorem params {config : Config} {t : Term} (h : Denotes config c t found) (d : Dialect) :
    (found.fragment d).params = t.boundValues config := by
  unfold boundValues
  cases h with
  | scalar hk hv hday => simp only [hk, hv, hday]; rfl
  | wholeDay hk hv hday => simp only [hk, hv, hday, params_compareDay]
  | text hk hv => simp only [hk, hv]; rfl
  | among hk hvs hne => simp only [hk, hvs]; rfl
  | null hk => simp only [hk]; rfl
  | range hk hfirst hlast => simp only [hk, hfirst, hlast]; rfl
  | day hk hv => simp only [hk, hv, params_compareDay]
  | flag hk => simp only [hk]; rfl

theorem column {config : Config} {t : Term} (h : Denotes config c t found) :
    found.column = c := by
  cases h with
  | wholeDay _ _ _ | day _ _ => exact column_compareDay ..
  | _ => rfl

theorem filled {config : Config} {t : Term} (h : Denotes config c t found) : found.Filled := by
  cases h with
  | wholeDay _ _ _ | day _ _ => exact filled_compareDay ..
  | among _ _ hne => exact hne
  | _ => trivial

end Denotes

end Term

end FilterSql.Query
