import FilterSql.Proofs.Cell.Conversion
import FilterSql.Proofs.Query.AcceptedDates
import FilterSql.Proofs.Query.DateForm

/-!
# Dates of results in filters

`dates_as_operands`: the text of a date in a result is an operand that denotes the same day, whose
window ends with the text of the day after. Different days have different texts, and in the years
0 to 9999 the texts are in the order of the days. Every day that an operand can denote is the date
of one cell.
-/

namespace FilterSql

open Calendar Query

-- ---------------------------------------------------------------------------
-- Dates by their texts
-- ---------------------------------------------------------------------------

namespace Calendar.Date

theorem numbersIn_text (d : Date) :
    numbersIn (d.text.toList ++ ['T']) = [d.year.natAbs, d.month, d.day] := by
  have nothing : numbersIn [] = [] := by decide
  have parts : d.text.toList ++ ['T'] = (yearText d.year).toList ++ '-' ::
      ((padded 2 d.month).toList ++ '-' :: ((padded 2 d.day).toList ++ ['T'])) := by
    simp [text, String.toList_append]
  simp (disch := decide) only [parts, numbersIn_yearText, numbersIn_padded, nothing]

theorem head?_text (d : Date) : d.text.toList.head? = some '-' ↔ d.year < 0 := by
  rw [text, String.append_assoc, String.append_assoc, String.append_assoc, String.toList_append,
    head?_yearText]

theorem text_injective : Function.Injective text := by
  intro a b h
  have numbers : numbersIn (a.text.toList ++ ['T']) = numbersIn (b.text.toList ++ ['T']) := by
    rw [h]
  have sign : a.year < 0 ↔ b.year < 0 := by
    rw [← head?_text, ← head?_text, h]
  simp only [numbersIn_text, List.cons.injEq, and_true] at numbers
  obtain ⟨year, month, day⟩ := numbers
  cases a
  cases b
  simp only [mk.injEq] at *
  omega

theorem year_next_le {d : Date} (h : d.Valid) : d.next.year ≤ d.year + 1 := by
  obtain ⟨-, hnext⟩ | ⟨-, -, hnext⟩ | ⟨-, -, hnext⟩ := next_cases d h <;> simp [hnext]

end Calendar.Date

namespace Cell

-- ---------------------------------------------------------------------------
-- The date of a cell
-- ---------------------------------------------------------------------------

/-- The days of the cell lead to a date whose year has four digits. -/
structure HasDate (days : Int32) (d : Date) : Prop where
  after : Date.DaysAfter days.toInt .epoch d
  year : 0 ≤ d.year ∧ d.year ≤ 9999

theorem HasDate.inRange (h : HasDate days d) : d.InRange := ⟨h.after.valid, h.year.1, h.year.2⟩

theorem HasDate.eq (h : HasDate days d) : d = .ofDayNumber days.toInt :=
  Date.daysAfter_epoch_iff.mp h.after

theorem toJson?_date_eq_some_iff : toJson? (.date days) = some (.string t) ↔
    Covered days.toInt ∧ (Date.ofDayNumber days.toInt).text = t := by
  rw [toJson?_date]
  split <;> simp [*]

theorem HasDate.toJson?_eq (h : HasDate days d) : toJson? (.date days) = some (.string d.text) := by
  obtain ⟨low, high⟩ := h.year
  rw [toJson?_date_eq_some_iff, covered_iff_year, ← h.eq]
  exact ⟨by omega, rfl⟩

/-- The calendar goes on after the years of four digits. -/
theorem HasDate.covered_next (h : HasDate days d) : Covered (days.toInt + 1) := by
  have next : d.next = .ofDayNumber (days.toInt + 1) := by
    rw [h.eq, Date.next_ofDayNumber]
  have after := Date.year_next_le h.after.valid
  have before : d.Before d.next := (Date.dayAfter_next h.after.valid).later
  obtain ⟨low, high⟩ := h.year
  rw [covered_iff_year, ← next]
  simp only [Date.Before] at before
  omega

theorem toInt_add_one {days : Int32} (h : Covered (days.toInt + 1)) :
    (days + 1).toInt = days.toInt + 1 := by
  have last := lastDay_eq
  have one : (1 : Int32).toInt = 1 := by decide
  have least := days.le_toInt
  obtain ⟨-, highest⟩ := h
  rw [Int32.toInt_add, one]
  exact Int.bmod_eq_of_le (by omega) (by omega)

theorem HasDate.toJson?_next (h : HasDate days d) :
    toJson? (.date (days + 1)) = some (.string d.next.text) := by
  rw [toJson?_date_eq_some_iff, toInt_add_one h.covered_next, ← Date.next_ofDayNumber, ← h.eq]
  exact ⟨h.covered_next, rfl⟩

theorem exists_days (h : Covered day) : ∃ days : Int32, days.toInt = day := by
  have first := firstDay_eq
  have last := lastDay_eq
  obtain ⟨low, high⟩ := h
  exact ⟨.ofInt day, Int32.toInt_ofInt_of_le (by omega) (by omega)⟩

theorem exists_hasDate {d : Date} (h : d.InRange) : ∃ days, HasDate days d := by
  have low := h.year_nonneg
  have high := h.year_le
  have number := Date.ofDayNumber_toDayNumber h.valid
  have covered : Covered d.toDayNumber := by
    rw [covered_iff_year, number]
    omega
  obtain ⟨days, hdays⟩ := exists_days covered
  exact ⟨days, Date.daysAfter_epoch_iff.mpr (by rw [hdays, number]), low, high⟩

theorem date_inj (hm : toJson? (.date m) = some (.string t))
    (hn : toJson? (.date n) = some (.string t)) : m = n := by
  obtain ⟨-, hm⟩ := toJson?_date_eq_some_iff.mp hm
  obtain ⟨-, hn⟩ := toJson?_date_eq_some_iff.mp hn
  have dates := congrArg Date.toDayNumber (Date.text_injective (hm.trans hn.symm))
  rw [Date.toDayNumber_ofDayNumber, Date.toDayNumber_ofDayNumber] at dates
  exact Int32.toInt_inj.mp dates

theorem date_lt_iff (hd : HasDate m d) (he : HasDate n e) : d.text < e.text ↔ m < n := by
  rw [Date.text_lt_text_iff hd.inRange he.inRange, hd.eq, he.eq, Date.before_ofDayNumber_iff,
    Int32.lt_iff_toInt_lt]

-- ---------------------------------------------------------------------------
-- Back into a filter
-- ---------------------------------------------------------------------------

/-- A date that is shown in a result can be asked for as it is shown. -/
theorem dates_as_operands :
    (∀ n d, HasDate n d → ∃ t next,
      toJson? (.date n) = some (.string t) ∧ toJson? (.date (n + 1)) = some (.string next) ∧
      WrittenAs d t ∧ isCanonicalDate t = true ∧ normalizeDate? t = some t ∧
      DayWindow.ofText? t = some ⟨t, next⟩) ∧
    (∀ m n t, toJson? (.date m) = some (.string t) → toJson? (.date n) = some (.string t) →
      m = n) ∧
    (∀ m n d e t u, HasDate m d → HasDate n e → toJson? (.date m) = some (.string t) →
      toJson? (.date n) = some (.string u) → (t < u ↔ m < n)) ∧
    ∀ s w, DayWindow.ofText? s = some w → ∃! n, toJson? (.date n) = some (.string w.start) := by
  refine ⟨fun n d h => ?_, fun m n t => date_inj, fun m n d e t u hd he ht hu => ?_,
    fun s w hw => ?_⟩
  · have canonical := (calendarDate?_text h.inRange).1
    refine ⟨_, _, h.toJson?_eq, h.toJson?_next, writtenAs_text h.inRange, canonical,
      normalizeDate?_of_isCanonicalDate canonical, ?_⟩
    exact DayWindow.ofText?_eq_some_iff.mpr ⟨d, denotesDate_text h.inRange, rfl⟩
  · obtain rfl := Json.string.inj (Option.some.inj (hd.toJson?_eq.symm.trans ht))
    obtain rfl := Json.string.inj (Option.some.inj (he.toJson?_eq.symm.trans hu))
    exact date_lt_iff hd he
  · obtain ⟨d, inRange, rfl⟩ := DayWindow.ofText?_eq_some hw
    obtain ⟨n, h⟩ := exists_hasDate inRange
    exact ⟨n, h.toJson?_eq, fun m hm => date_inj hm h.toJson?_eq⟩

/-- The last date with four digits is an operand too, and no other cell has its text. -/
theorem dates_as_operands_lastDay :
    HasDate 2932896 .last ∧ toJson? (.date 2932896) = some (.string "9999-12-31") ∧
    (∃ next, toJson? (.date 2932897) = some (.string next) ∧
      DayWindow.ofText? "9999-12-31" = some ⟨"9999-12-31", next⟩) ∧
    ∃! n, toJson? (.date n) = some (.string "9999-12-31") := by
  have date : HasDate 2932896 .last :=
    ⟨Date.daysAfter_epoch_iff.mpr (by decide), by decide, by decide⟩
  have text : toJson? (.date 2932896) = some (.string "9999-12-31") := date.toJson?_eq
  obtain ⟨operands, -, -, accepted⟩ := dates_as_operands
  obtain ⟨t, next, ht, hnext, -, -, -, hw⟩ := operands 2932896 .last date
  obtain rfl := Json.string.inj (Option.some.inj (text.symm.trans ht))
  exact ⟨date, text, ⟨next, hnext, hw⟩, accepted _ _ hw⟩

end Cell

end FilterSql
