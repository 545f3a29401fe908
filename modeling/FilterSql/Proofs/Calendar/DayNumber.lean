import FilterSql.Calendar
import FilterSql.Proofs.Calendar.DayAfter
import Mathlib.Algebra.Order.Group.Int
import Mathlib.Logic.Function.Iterate

/-!
# Dates and their numbers

`ofDayNumber` and `toDayNumber` are inverse to each other, and dates are in the order of their
numbers. `daysAfter_iff` says which date has a number without the formula for it: the one that is
reached from 1 January 1970 by stepping from a date to the next one.
-/

namespace FilterSql.Calendar

namespace Date

/-- Stepping on from `d` for `n` days leads to `e`. If `n` is negative, it leads from `e` to `d`. -/
structure DaysAfter (n : Int) (d e : Date) : Prop where
  valid : e.Valid
  steps : next^[n.toNat] d = next^[(-n).toNat] e

def epoch : Date := ⟨1970, 1, 1⟩

-- ---------------------------------------------------------------------------
-- From a date to its number and back
-- ---------------------------------------------------------------------------

/-- The year of a date, if years start in March. -/
def marchYear (d : Date) : Int := if d.month ≤ 2 then d.year - 1 else d.year

def marchMonth (d : Date) : Int := if d.month ≤ 2 then d.month + 9 else d.month - 3

def marchDay (d : Date) : Int := (153 * d.marchMonth + 2) / 5 + d.day - 1

theorem daysInFebruary_le (year : Int) : daysInMonth year 2 ≤ 29 := by
  simp only [daysInMonth]
  split <;> decide

/-- Only a leap day is the last of 366 days. -/
theorem marchDay_bounds {d : Date} (h : d.Valid) : (0 ≤ d.marchDay ∧ d.marchDay ≤ 365) ∧
    (d.marchDay = 365 → isLeapYear (d.marchYear + 1) = true) := by
  obtain ⟨hmonth, hmonth', hday, hday'⟩ := h
  obtain ⟨year, month, day⟩ := d
  simp only [marchDay, marchMonth, marchYear] at *
  by_cases hfebruary : month = 2
  · subst hfebruary
    simp only [daysInMonth] at hday'
    split at hday' <;> simp_all <;> omega
  · have short := daysInMonth_le year month
    split <;> omega

theorem month_of_marchDay {d : Date} (h : d.Valid) :
    (5 * d.marchDay + 2) / 153 = d.marchMonth := by
  obtain ⟨hmonth, hmonth', hday, hday'⟩ := h
  obtain ⟨year, month, day⟩ := d
  have february := daysInFebruary_le year
  simp only [marchDay, marchMonth] at *
  interval_cases month <;> simp [daysInMonth] at hday' february ⊢ <;> omega

theorem isLeapYear_emod (year : Int) : isLeapYear (year % 400 + 1) = isLeapYear (year + 1) := by
  rw [Bool.eq_iff_iff]
  simp only [isLeapYear, Bool.and_eq_true, Bool.or_eq_true, decide_eq_true_eq]
  omega

section

variable {n year day : Int}

theorem dayOfEra_bounds (hyear : 0 ≤ year ∧ year < 400) (hday : 0 ≤ day ∧ day ≤ 365) :
    0 ≤ daysBeforeMarch year + day ∧ daysBeforeMarch year + day < 146097 := by
  have last : daysBeforeMarch year ≤ 145731 := by
    unfold daysBeforeMarch
    omega
  unfold daysBeforeMarch at last ⊢
  omega

theorem yearOfEra_eq (hyear : 0 ≤ year ∧ year < 400) (hday : 0 ≤ day ∧ day ≤ 365)
    (leap : day = 365 → isLeapYear (year + 1) = true) (h : n = daysBeforeMarch year + day) :
    (n - n / 1460 + n / 36524 - n / 146096) / 365 = year := by
  have h : n = 365 * year + year / 4 - year / 100 + day := by
    unfold daysBeforeMarch at h
    omega
  simp only [isLeapYear, Bool.and_eq_true, Bool.or_eq_true, decide_eq_true_eq] at leap
  -- Only the last day of the block comes after four times the days of a hundred years.
  have centuries : n / 36524 = year / 100 ∧ n / 146096 = 0 ∨ n = 146096 ∧ year = 399 := by
    have quarters : 25 * (year / 100) ≤ year / 4 ∧ year / 4 ≤ 25 * (year / 100) + 24 := by omega
    by_cases hlast : n = 36524 * (year / 100) + 36524
    · have longest : day = 365 := by omega
      have hleap := leap longest
      omega
    · have within : 36524 * (year / 100) ≤ n ∧ n < 36524 * (year / 100) + 36524 := by omega
      omega
  have fours : n / 1460 = year / 4 ∧ day < 365 ∨ n / 1460 = year / 4 + 1 ∧ 0 < day := by omega
  omega

end

theorem toDayNumber_add (d : Date) : d.toDayNumber + 719468 =
    d.marchYear / 400 * 146097 + (daysBeforeMarch (d.marchYear % 400) + d.marchDay) := by
  simp only [toDayNumber, daysBeforeMarch, marchDay, marchMonth, marchYear]
  omega

theorem ofDayNumber_toDayNumber {d : Date} (h : d.Valid) : ofDayNumber d.toDayNumber = d := by
  obtain ⟨hday, leap⟩ := marchDay_bounds h
  have hyear : 0 ≤ d.marchYear % 400 ∧ d.marchYear % 400 < 400 := by omega
  rw [← isLeapYear_emod] at leap
  have bounds := dayOfEra_bounds hyear hday
  have year := yearOfEra_eq hyear hday leap rfl
  have number := toDayNumber_add d
  have era : (d.toDayNumber + 719468) / 146097 = d.marchYear / 400 := by omega
  have rest : (d.toDayNumber + 719468) % 146097 =
    daysBeforeMarch (d.marchYear % 400) + d.marchDay := by omega
  have day : daysBeforeMarch (d.marchYear % 400) + d.marchDay -
      (365 * (d.marchYear % 400) + d.marchYear % 400 / 4 - d.marchYear % 400 / 100) =
      d.marchDay := by
    unfold daysBeforeMarch
    omega
  simp only [ofDayNumber, era, rest, year, day, month_of_marchDay h]
  obtain ⟨hmonth, hmonth', _, _⟩ := h
  cases d
  simp only [mk.injEq, marchDay, marchMonth, marchYear] at *
  split <;> omega

-- ---------------------------------------------------------------------------
-- Every number has a date
-- ---------------------------------------------------------------------------

theorem exists_next_eq {d : Date} (h : d.Valid) : ∃ e : Date, e.Valid ∧ e.next = d := by
  obtain ⟨hmonth, hmonth', hday, hday'⟩ := h
  obtain ⟨year, month, day⟩ := d
  simp only at *
  by_cases hfirst : day = 1
  · subst hfirst
    by_cases hjanuary : month = 1
    · refine ⟨⟨year - 1, 12, 31⟩, by simp [Valid, daysInMonth], ?_⟩
      simp [next, daysInMonth, hjanuary]
    · obtain ⟨month, rfl⟩ := Nat.exists_eq_add_of_le' hmonth
      have length := daysInMonth_pos year month
      refine ⟨⟨year, month, daysInMonth year month⟩, ⟨?_, ?_, length, Nat.le_refl _⟩, ?_⟩
      · simp only
        omega
      · exact Nat.le_of_lt hmonth'
      · simp [next, Nat.lt_of_succ_le hmonth']
  · obtain ⟨day, rfl⟩ := Nat.exists_eq_add_of_le' hday
    refine ⟨⟨year, month, day⟩, ⟨hmonth, hmonth', ?_, Nat.le_of_lt hday'⟩, ?_⟩
    · simp only
      omega
    · simp [next, Nat.lt_of_succ_le hday']

theorem exists_toDayNumber (n : Int) : ∃ d : Date, d.Valid ∧ d.toDayNumber = n := by
  induction n using Int.induction_on with
  | zero => exact ⟨epoch, by decide, by decide⟩
  | succ n ih =>
    obtain ⟨d, valid, hd⟩ := ih
    exact ⟨d.next, valid_next valid, by rw [toDayNumber_next valid, hd]⟩
  | pred n ih =>
    obtain ⟨d, valid, hd⟩ := ih
    obtain ⟨e, valid', rfl⟩ := exists_next_eq valid
    rw [toDayNumber_next valid'] at hd
    exact ⟨e, valid', by omega⟩

theorem ofDayNumber_spec (n : Int) : (ofDayNumber n).Valid ∧ (ofDayNumber n).toDayNumber = n := by
  obtain ⟨d, valid, rfl⟩ := exists_toDayNumber n
  rw [ofDayNumber_toDayNumber valid]
  exact ⟨valid, rfl⟩

theorem valid_ofDayNumber (n : Int) : (ofDayNumber n).Valid := (ofDayNumber_spec n).1

@[simp] theorem toDayNumber_ofDayNumber (n : Int) : (ofDayNumber n).toDayNumber = n :=
  (ofDayNumber_spec n).2

theorem ofDayNumber_eq_iff {d : Date} : ofDayNumber n = d ↔ d.Valid ∧ d.toDayNumber = n := by
  constructor
  · rintro rfl
    exact ofDayNumber_spec n
  · rintro ⟨valid, rfl⟩
    exact ofDayNumber_toDayNumber valid

theorem next_ofDayNumber (n : Int) : (ofDayNumber n).next = ofDayNumber (n + 1) := by
  have valid := valid_ofDayNumber n
  rw [eq_comm, ofDayNumber_eq_iff, toDayNumber_next valid, toDayNumber_ofDayNumber]
  exact ⟨valid_next valid, rfl⟩

theorem iterate_next_ofDayNumber (k : Nat) (n : Int) :
    next^[k] (ofDayNumber n) = ofDayNumber (n + k) := by
  induction k generalizing n with
  | zero => simp
  | succ k ih =>
    rw [Function.iterate_succ_apply, next_ofDayNumber, ih]
    congr 1
    omega

theorem daysAfter_iff {n : Int} {d e : Date} (h : d.Valid) :
    DaysAfter n d e ↔ e = ofDayNumber (d.toDayNumber + n) := by
  obtain ⟨m, rfl⟩ : ∃ m, ofDayNumber m = d := ⟨_, ofDayNumber_toDayNumber h⟩
  rw [toDayNumber_ofDayNumber]
  constructor
  · rintro ⟨valid, steps⟩
    obtain ⟨m', rfl⟩ : ∃ m', ofDayNumber m' = e := ⟨_, ofDayNumber_toDayNumber valid⟩
    rw [iterate_next_ofDayNumber, iterate_next_ofDayNumber] at steps
    have numbers := congrArg toDayNumber steps
    rw [toDayNumber_ofDayNumber, toDayNumber_ofDayNumber] at numbers
    congr 1
    omega
  · rintro rfl
    refine ⟨valid_ofDayNumber _, ?_⟩
    rw [iterate_next_ofDayNumber, iterate_next_ofDayNumber]
    congr 1
    omega

theorem daysAfter_epoch_iff {n : Int} {d : Date} : DaysAfter n epoch d ↔ d = ofDayNumber n := by
  have zero : epoch.toDayNumber = 0 := by decide
  rw [daysAfter_iff (by decide), zero, Int.zero_add]

-- ---------------------------------------------------------------------------
-- The order of the numbers
-- ---------------------------------------------------------------------------

theorem Before.trans {a b c : Date} (h : a.Before b) (h' : b.Before c) : a.Before c := by
  simp only [Before] at *
  omega

theorem Before.irrefl (a : Date) : ¬ a.Before a := by
  simp only [Before]
  omega

theorem not_before_of_le {m n : Int} (h : m ≤ n) :
    ¬ (ofDayNumber n).Before (ofDayNumber m) := by
  induction n, h using Int.leInduction with
  | base => exact Before.irrefl _
  | succ n _ ih =>
    intro earlier
    have later := (dayAfter_next (valid_ofDayNumber n)).later
    rw [next_ofDayNumber] at later
    exact ih (later.trans earlier)

theorem before_ofDayNumber_iff (m n : Int) :
    (ofDayNumber m).Before (ofDayNumber n) ↔ m < n := by
  constructor
  · intro h
    by_contra hle
    exact not_before_of_le (Int.not_lt.mp hle) h
  · intro h
    have hnext : ofDayNumber n = (ofDayNumber (n - 1)).next := by
      rw [next_ofDayNumber, Int.sub_add_cancel]
    rw [hnext, before_next_iff (valid_ofDayNumber m) (valid_ofDayNumber _)]
    exact not_before_of_le (Int.le_sub_one_of_lt h)

end Date

-- ---------------------------------------------------------------------------
-- The days that are covered
-- ---------------------------------------------------------------------------

theorem firstDay_eq : firstDay = -96465292 := by decide

theorem lastDay_eq : lastDay = 95026236 := by decide

theorem covered_iff_year (day : Int) : Covered day ↔
    -262143 ≤ (Date.ofDayNumber day).year ∧ (Date.ofDayNumber day).year ≤ 262142 := by
  have first : Date.ofDayNumber firstDay = ⟨-262143, 1, 1⟩ := by decide
  have last : Date.ofDayNumber lastDay = ⟨262142, 12, 31⟩ := by decide
  have fromFirst := Date.before_ofDayNumber_iff day firstDay
  have toLast := Date.before_ofDayNumber_iff lastDay day
  obtain ⟨hmonth, hmonth', hday, hday'⟩ := Date.valid_ofDayNumber day
  have short := Date.daysInMonth_le (Date.ofDayNumber day).year (Date.ofDayNumber day).month
  rw [first] at fromFirst
  rw [last] at toLast
  simp only [Date.Before] at fromFirst toLast
  unfold Covered
  omega

end FilterSql.Calendar
