import FilterSql.Proofs.Query.DateSpelling
import FilterSql.Proofs.Query.FilterMeaning
import Mathlib.Logic.ExistsUnique

/-!
# Comparison with a whole day

`wholeDayLaw_iff`: the SQL texts of the comparisons with a day sort the columns that begin with a
day into those of the day itself, of an earlier and of a later one, with every day but the last of
the year 9999. Its window ends with the text of the year 10000, which has a sign in front and sorts
before every day.
-/

namespace FilterSql.Query

open Sql Text Calendar

-- ---------------------------------------------------------------------------
-- Orders of texts
-- ---------------------------------------------------------------------------

/-- A text is before another one, the same or after it, and the signs accept accordingly. -/
inductive Ordered (x y : String) : Ordering → Prop
  | lt (h : x < y) (ne : x ≠ y) (asymm : ¬ y < x) : Ordered x y .lt
  | eq (h : x = y) : Ordered x y .eq
  | gt (h : y < x) (ne : x ≠ y) (asymm : ¬ x < y) : Ordered x y .gt

theorem ordered_compareOfLessAndEq (x y : String) : Ordered x y (compareOfLessAndEq x y) := by
  unfold compareOfLessAndEq
  split
  · rename_i h
    exact .lt h (String.ne_of_lt h) (String.lt_asymm h)
  · rename_i hlt
    split
    · exact .eq ‹_›
    · rename_i hne
      have hgt : y < x := Classical.byContradiction fun hgt =>
        hne (String.le_antisymm (String.not_lt.mp hgt) (String.not_lt.mp hlt))
      exact .gt hgt hne hlt

namespace Ordered

theorem accepts_eq (h : Ordered x y o) : Store.accepts .eq o = decide (x = y) := by
  cases h <;> simp [Store.accepts, *]

theorem accepts_lt (h : Ordered x y o) : Store.accepts .lt o = decide (x < y) := by
  cases h <;> simp [Store.accepts, *]

theorem accepts_gt (h : Ordered x y o) : Store.accepts .gt o = decide (y < x) := by
  cases h <;> simp [Store.accepts, *]

end Ordered

-- ---------------------------------------------------------------------------
-- The answer of a term
-- ---------------------------------------------------------------------------

/-- Comparisons with texts that denote dates are comparisons with whole days, in the dialect that
binds dates as plain text. -/
def wholeDays : Config := { dialect := .duckdb, dateAware := true }

/-- The text of the condition of a term, read back with its parameters, is true or false of a row
in a store that compares texts by their characters. -/
def Term.Answers (aliasName : String) (t : Term) (row : Row String) (b : Bool) : Prop :=
  ∃ c e, t.condition wholeDays aliasName = .ok c ∧
    readExpr? (c.fragment wholeDays.dialect) = some e ∧
    ∀ tables scope, e.eval textStore tables ((aliasName, row) :: scope) = some b

theorem Term.Answers.unique (hb : Term.Answers a t row b) (hb' : Term.Answers a t row b') :
    b = b' := by
  obtain ⟨c, e, hc, he, heval⟩ := hb
  obtain ⟨c', e', hc', he', heval'⟩ := hb'
  obtain rfl := Except.ok.inj (hc.symm.trans hc')
  obtain rfl := Option.some.inj (he.symm.trans he')
  exact Option.some.inj ((heval (fun _ => []) []).symm.trans (heval' _ _))

def Term.withOperator (t : Term) (op : Operator) : Term := { t with op }

@[simp] theorem Term.withOperator_op (t : Term) (op : Operator) : (t.withOperator op).op = op := rfl

@[simp] theorem Term.withOperator_field (t : Term) (op : Operator) :
    (t.withOperator op).field = t.field := rfl

@[simp] theorem Term.withOperator_value (t : Term) (op : Operator) :
    (t.withOperator op).value = t.value := rfl

def DayWindow.admits (w : DayWindow) (x : String) : Comparison → Bool
  | .eq => !decide (x < w.start) && decide (x < w.next)
  | .ne => !(!decide (x < w.start) && decide (x < w.next))
  | .lt => decide (x < w.start)
  | .ge => !decide (x < w.start)
  | .gt => !decide (x < w.next)
  | .le => decide (x < w.next)

variable {op : Operator} {cmp : Comparison} {t : Term} {w : DayWindow} {row : Row String}

theorem condition_withOperator (hop : op.ComparesDays cmp) (hv : t.value = some (.text o))
    (hday : DayWindow.ofText? o = some w) (aliasName : String) :
    (t.withOperator op).condition wholeDays aliasName =
      .ok (Term.compareDay ⟨aliasName, t.field.text⟩ w cmp) :=
  Term.condition_of_comparesDays (t := t.withOperator op) rfl hop hv hday aliasName

theorem eval_lt {tables : Tables String} {scope : Scope String} {c : Column}
    (hx : scope.value? c = some (some x)) (day : String) :
    (Expr.compare c .lt (.value (.text day))).eval textStore tables scope =
      some (decide (x < day)) := by
  rw [eval_compare textStore .lt _ hx, ← (ordered_compareOfLessAndEq x day).accepts_lt]
  rfl

theorem eval_ge {tables : Tables String} {scope : Scope String} {c : Column}
    (hx : scope.value? c = some (some x)) (day : String) :
    (Expr.compare c .ge (.value (.text day))).eval textStore tables scope =
      some !decide (x < day) := by
  have opposite (o : Ordering) : Store.accepts .ge o = !Store.accepts .lt o := rfl
  rw [eval_compare textStore .ge _ hx, ← (ordered_compareOfLessAndEq x day).accepts_lt, ← opposite]
  rfl

theorem eval_compareDay {tables : Tables String} {scope : Scope String} {c : Column}
    (hx : scope.value? c = some (some x)) (w : DayWindow) (cmp : Comparison)
    (he : allOf ((Term.compareDay c w cmp).exprs wholeDays.dialect) = some e) :
    e.eval textStore tables scope = some (w.admits x cmp) := by
  cases cmp with
  | eq =>
    obtain rfl := Option.some.inj he
    exact (congrArg₂ Truth.and (eval_ge hx _) (eval_lt hx _)).trans (Truth.and_some _ _)
  | ne =>
    obtain rfl := Option.some.inj he
    exact congrArg Truth.not
      ((congrArg₂ Truth.and (eval_ge hx _) (eval_lt hx _)).trans (Truth.and_some _ _))
  | lt | le =>
    obtain rfl := Option.some.inj he
    exact eval_lt hx _
  | gt | ge =>
    obtain rfl := Option.some.inj he
    exact eval_ge hx _

theorem answers_iff (hop : op.ComparesDays cmp) (safe : isSafeIdentifier a = true)
    (hv : t.value = some (.text o)) (hday : DayWindow.ofText? o = some w)
    (hx : row t.field.text = some x) :
    (t.withOperator op).Answers a row b ↔ b = w.admits x cmp := by
  have hc := condition_withOperator hop hv hday a
  have column := Term.column_compareDay ⟨a, t.field.text⟩ w cmp
  have wellFormed : (Term.compareDay ⟨a, t.field.text⟩ w cmp).WellFormed :=
    ⟨by rw [column]; exact ⟨safe, t.field.safe⟩, Term.filled_compareDay ..⟩
  obtain ⟨e, he, hread⟩ := wellFormed.read_fragment wholeDays.dialect
  have answers : (t.withOperator op).Answers a row (w.admits x cmp) := by
    refine ⟨_, e, hc, hread, fun tables scope => eval_compareDay ?_ w cmp he⟩
    rw [value?_innermost, hx]
  exact ⟨fun h => h.unique answers, fun h => h ▸ answers⟩

-- ---------------------------------------------------------------------------
-- Earlier, on the day, later
-- ---------------------------------------------------------------------------

/-- A text that goes on after a date compares with the window of a day as the date does with the
day. -/
theorem admits_of_date {d day : Date} (hd : d.InRange) (hday : day.InRange)
    (hnext : day.next.InRange) (rest : String) (cmp : Comparison) :
    DayWindow.admits ⟨day.text, day.next.text⟩ (d.text ++ rest) cmp =
      Store.accepts cmp (compareOfLessAndEq d.text day.text) := by
  have start : d.text ++ rest < day.text ↔ d.text < day.text := by
    rw [Date.append_lt_text_iff hd hday, Date.text_lt_text_iff hd hday]
  have next : d.text ++ rest < day.next.text ↔ ¬ day.text < d.text := by
    rw [Date.append_lt_text_iff hd hnext, Date.before_next_iff hd.valid hday.valid,
      Date.text_lt_text_iff hday hd]
  have ordered := ordered_compareOfLessAndEq d.text day.text
  generalize compareOfLessAndEq d.text day.text = o at ordered ⊢
  cases ordered with
  | lt h _ asymm => cases cmp <;> simp [DayWindow.admits, Store.accepts, start, next, h, asymm]
  | eq h =>
    rw [h] at start next ⊢
    cases cmp <;> simp [DayWindow.admits, Store.accepts, start, next]
  | gt h _ asymm => cases cmp <;> simp [DayWindow.admits, Store.accepts, start, next, h, asymm]

/-- A text that is a date of the calendar, written `YYYY-MM-DD`. -/
def IsDay (s : String) : Prop := ∃ d : Date, d.InRange ∧ s = d.text

def firstTen (x : String) : String := String.ofList (x.toList.take 10)

/-- What the operators answer of a text that begins with the day `first`. -/
structure DayTrichotomy (answers : Operator → Bool → Prop) (first day : String) : Prop where
  equals : ∀ b, answers .equals b ↔ b = decide (first = day)
  lessThan : ∀ b, answers .lessThan b ↔ b = decide (first < day)
  greaterThan : ∀ b, answers .greaterThan b ↔ b = decide (day < first)
  exactly_one : ∃! op, op ∈ [Operator.equals, .lessThan, .greaterThan] ∧ answers op true
  notEquals : ∀ b, answers .notEquals b ↔ answers .equals !b
  greaterThanOrEqual : ∀ b, answers .greaterThanOrEqual b ↔ answers .lessThan !b
  lessThanOrEqual : ∀ b, answers .lessThanOrEqual b ↔ answers .greaterThan !b
  dateEquals : ∀ b, answers .dateEquals b ↔ answers .equals b
  dateBefore : ∀ b, answers .dateBefore b ↔ answers .lessThan b
  dateAfter : ∀ b, answers .dateAfter b ↔ answers .greaterThan b

/-- The comparisons with the day of a window are a trichotomy of the columns that begin with a day,
and they bind nothing but days. -/
structure WholeDayLaw (aliasName : String) (t : Term) (w : DayWindow) : Prop where
  start_isDay : IsDay w.start
  next_isDay : IsDay w.next
  start_lt_next : w.start < w.next
  params : ∀ op cmp, Operator.ComparesDays op cmp →
    ∃ c, (t.withOperator op).condition wholeDays aliasName = .ok c ∧
      (c.fragment wholeDays.dialect).params = Term.dayValues w cmp
  trichotomy : ∀ row x, row t.field.text = some x → IsDay (firstTen x) →
    DayTrichotomy (fun op => (t.withOperator op).Answers aliasName row) (firstTen x) w.start

def operatorOf : Ordering → Operator
  | .lt => .lessThan
  | .eq => .equals
  | .gt => .greaterThan

theorem dayTrichotomy_of_accepts {answers : Operator → Bool → Prop}
    (h : ∀ op cmp, Operator.ComparesDays op cmp → ∀ b,
      answers op b ↔ b = Store.accepts cmp (compareOfLessAndEq first day)) :
    DayTrichotomy answers first day := by
  have equals := h .equals .eq (.aware rfl)
  have lessThan := h .lessThan .lt (.aware rfl)
  have greaterThan := h .greaterThan .gt (.aware rfl)
  have ordered := ordered_compareOfLessAndEq first day
  generalize compareOfLessAndEq first day = o at *
  have complement (b x : Bool) : b = (!x) ↔ (!b) = x := by cases b <;> cases x <;> decide
  have one : ∃! op, op ∈ [Operator.equals, .lessThan, .greaterThan] ∧ answers op true := by
    refine ⟨operatorOf o, ?_, ?_⟩
    · cases o with
      | lt => exact ⟨by simp [operatorOf], (lessThan true).mpr rfl⟩
      | eq => exact ⟨by simp [operatorOf], (equals true).mpr rfl⟩
      | gt => exact ⟨by simp [operatorOf], (greaterThan true).mpr rfl⟩
    · rintro op ⟨hop, htrue⟩
      simp only [List.mem_cons, List.not_mem_nil, or_false] at hop
      rcases hop with rfl | rfl | rfl
      · have only : ∀ o, true = Store.accepts .eq o → operatorOf o = .equals := by decide
        exact (only o ((equals true).mp htrue)).symm
      · have only : ∀ o, true = Store.accepts .lt o → operatorOf o = .lessThan := by decide
        exact (only o ((lessThan true).mp htrue)).symm
      · have only : ∀ o, true = Store.accepts .gt o → operatorOf o = .greaterThan := by decide
        exact (only o ((greaterThan true).mp htrue)).symm
  exact {
    equals := fun b => ordered.accepts_eq ▸ equals b
    lessThan := fun b => ordered.accepts_lt ▸ lessThan b
    greaterThan := fun b => ordered.accepts_gt ▸ greaterThan b
    exactly_one := one
    notEquals := fun b =>
      (h .notEquals .ne (.aware rfl) b).trans ((complement b _).trans (equals !b).symm)
    greaterThanOrEqual := fun b =>
      (h .greaterThanOrEqual .ge (.aware rfl) b).trans ((complement b _).trans (lessThan !b).symm)
    lessThanOrEqual := fun b =>
      (h .lessThanOrEqual .le (.aware rfl) b).trans ((complement b _).trans (greaterThan !b).symm)
    dateEquals := fun b => (h .dateEquals .eq (.always rfl) b).trans (equals b).symm
    dateBefore := fun b => (h .dateBefore .lt (.always rfl) b).trans (lessThan b).symm
    dateAfter := fun b => (h .dateAfter .gt (.always rfl) b).trans (greaterThan b).symm }

-- ---------------------------------------------------------------------------
-- Which days
-- ---------------------------------------------------------------------------

theorem eq_firstTen_append (x : String) : x = firstTen x ++ String.ofList (x.toList.drop 10) := by
  rw [← String.toList_inj, firstTen, String.toList_append, String.toList_ofList,
    String.toList_ofList, List.take_append_drop]

theorem not_isDay_yearTenThousand : ¬ IsDay Date.last.next.text := by
  rintro ⟨d, hd, hlast⟩
  have length := hd.length_text
  rw [← hlast] at length
  exact absurd length (by decide)

/-- The law holds of every text that denotes a day, in any of its spellings, but for one day. -/
theorem wholeDayLaw_iff (safe : isSafeIdentifier aliasName = true)
    (hv : t.value = some (.text o)) (hday : DayWindow.ofText? o = some w) :
    WholeDayLaw aliasName t w ↔ w.start ≠ "9999-12-31" := by
  obtain ⟨day, inRange, hw⟩ := DayWindow.ofText?_eq_some hday
  subst hw
  constructor
  · intro law hstart
    have hlast : Date.last.InRange := ⟨by decide, by decide, by decide⟩
    obtain rfl : day = Date.last := (Date.text_inj inRange hlast).mp hstart
    exact not_isDay_yearTenThousand law.next_isDay
  · intro hstart
    have hnext : day.next.InRange := inRange.next fun hlast => hstart (hlast ▸ rfl)
    have later : day.Before day.next := by
      rw [Date.before_next_iff inRange.valid inRange.valid]
      simp [Date.Before]
    exact {
      start_isDay := ⟨day, inRange, rfl⟩
      next_isDay := ⟨day.next, hnext, rfl⟩
      start_lt_next := (Date.text_lt_text_iff inRange hnext).mpr later
      params := fun op cmp hop =>
        ⟨_, condition_withOperator hop hv hday aliasName, Term.params_compareDay ..⟩
      trichotomy := by
        rintro row x hx ⟨d, hd, hfirst⟩
        refine dayTrichotomy_of_accepts fun op cmp hop b => ?_
        have admits := admits_of_date hd inRange hnext (String.ofList (x.toList.drop 10)) cmp
        rw [← hfirst, ← eq_firstTen_append] at admits
        rw [answers_iff hop safe hv hday hx, admits] }

/-- The law of a leap day, in another of its spellings. -/
theorem wholeDayLaw_leapDay :
    isSafeIdentifier "t" = true ∧
    DayWindow.ofText? "2/29/2024" = some ⟨"2024-02-29", "2024-03-01"⟩ ∧
    WholeDayLaw "t" { field := ⟨"d", by decide⟩, op := .equals, value := some (.text "2/29/2024") }
      ⟨"2024-02-29", "2024-03-01"⟩ := by
  have safe : isSafeIdentifier "t" = true := by decide
  have hday : DayWindow.ofText? "2/29/2024" = some ⟨"2024-02-29", "2024-03-01"⟩ := by
    decide +kernel
  exact ⟨safe, hday, (wholeDayLaw_iff safe rfl hday).mpr (by decide)⟩

def lastDayTerm : Term :=
  { field := ⟨"day", by decide⟩, op := .equals, value := some (.text "9999-12-31") }

/-- The last day of the year 9999 has no row of its own, and the day before it is earlier and later
at once. -/
theorem not_wholeDayLaw_lastDay :
    DayWindow.ofText? "9999-12-31" = some ⟨"9999-12-31", "+10000-01-01"⟩ ∧
    (lastDayTerm.withOperator .equals).Answers "t" (rowOf [("day", "9999-12-31")]) false ∧
    (lastDayTerm.withOperator .lessThan).Answers "t" (rowOf [("day", "9999-12-30")]) true ∧
    (lastDayTerm.withOperator .greaterThan).Answers "t" (rowOf [("day", "9999-12-30")]) true ∧
    ¬ WholeDayLaw "t" lastDayTerm ⟨"9999-12-31", "+10000-01-01"⟩ := by
  have safe : isSafeIdentifier "t" = true := by decide
  have hday : DayWindow.ofText? "9999-12-31" = some ⟨"9999-12-31", "+10000-01-01"⟩ := by
    decide +kernel
  have answer (op : Operator) (cmp : Comparison) (hop : op.ComparesDays cmp) (x : String)
      (b : Bool) :
      (lastDayTerm.withOperator op).Answers "t" (rowOf [("day", x)]) b ↔
        b = DayWindow.admits ⟨"9999-12-31", "+10000-01-01"⟩ x cmp :=
    answers_iff hop safe rfl hday rfl
  refine ⟨hday, ?_, ?_, ?_, fun law => absurd law.start_lt_next (by decide +kernel)⟩
  · exact (answer .equals .eq (.aware rfl) _ _).mpr (by decide +kernel)
  · exact (answer .lessThan .lt (.aware rfl) _ _).mpr (by decide +kernel)
  · exact (answer .greaterThan .gt (.aware rfl) _ _).mpr (by decide +kernel)

end FilterSql.Query
