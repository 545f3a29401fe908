import FilterSql.Proofs.Calendar.DateText
import Mathlib.Tactic.IntervalCases

/-!
# The day after

`dayAfter_next`: the next date is the first of the later ones, and its day number is greater by one.
The day numbers know of leap years only through `daysBeforeMarch`, which counts them without looking
at the length of a month.
-/

namespace FilterSql.Calendar.Date

/-- The date `e` comes right after the date `d`. -/
structure DayAfter (e d : Date) : Prop where
  valid : e.Valid
  later : d.Before e
  first : ∀ other : Date, other.Valid → d.Before other → ¬ other.Before e
  number : e.toDayNumber = d.toDayNumber + 1

-- ---------------------------------------------------------------------------
-- Day numbers
-- ---------------------------------------------------------------------------

/-- The days of all years up to the March of a year, with a leap day in every fourth year, of the
centuries only in every fourth. -/
def daysBeforeMarch (year : Int) : Int := 365 * year + year / 4 - year / 100 + year / 400

theorem toDayNumber_eq (d : Date) : d.toDayNumber =
    daysBeforeMarch (if d.month ≤ 2 then d.year - 1 else d.year) +
      (153 * (if d.month ≤ 2 then d.month + 9 else d.month - 3 : Int) + 2) / 5 + d.day -
        719469 := by
  simp only [toDayNumber, daysBeforeMarch]
  generalize (if d.month ≤ 2 then d.year - 1 else d.year) = year
  omega

theorem daysBeforeMarch_eq (year : Int) :
    daysBeforeMarch year = daysBeforeMarch (year - 1) + 337 + daysInMonth year 2 := by
  simp only [daysInMonth, daysBeforeMarch]
  cases hleap : isLeapYear year with
  | false =>
    simp only [isLeapYear, Bool.and_eq_false_iff, Bool.or_eq_false_iff, decide_eq_false_iff_not]
      at hleap
    simp only [Bool.false_eq_true, if_false]
    omega
  | true =>
    simp only [isLeapYear, Bool.and_eq_true, Bool.or_eq_true, decide_eq_true_eq] at hleap
    simp only [if_true]
    omega

theorem toDayNumber_next {d : Date} (h : d.Valid) : d.next.toDayNumber = d.toDayNumber + 1 := by
  rw [toDayNumber_eq, toDayNumber_eq]
  obtain ⟨-, hnext⟩ | ⟨hday, hmonth, hnext⟩ | ⟨hday, hmonth, hnext⟩ := next_cases d h
  · rw [hnext]
    simp only
    omega
  · rw [hnext]
    by_cases hfebruary : d.month = 2
    · -- The year that starts in March ends here.
      have length := daysBeforeMarch_eq d.year
      rw [hfebruary] at hday ⊢
      simp [hday]
      omega
    · have hpos : 1 ≤ d.month := h.1
      generalize d.month = month at *
      interval_cases month <;> simp [daysInMonth] at hday hfebruary ⊢ <;> omega
  · rw [hnext]
    simp [hday, hmonth]
    omega

theorem dayAfter_next {d : Date} (h : d.Valid) : d.next.DayAfter d where
  valid := valid_next h
  later := (before_next_iff h h).mpr (by simp [Before])
  first := fun _ valid later => (not_congr (before_next_iff valid h)).mpr (not_not_intro later)
  number := toDayNumber_next h

theorem DayAfter.eq_next {d e : Date} (valid : d.Valid) (h : e.DayAfter d) : e = d.next := by
  have next := dayAfter_next valid
  have notLater := h.first d.next next.valid next.later
  have notEarlier := next.first e h.valid h.later
  obtain ⟨year, month, day⟩ := e
  generalize d.next = other at notLater notEarlier ⊢
  obtain ⟨year', month', day'⟩ := other
  simp only [Before, mk.injEq] at notLater notEarlier ⊢
  omega

end FilterSql.Calendar.Date
