import FilterSql.Proofs.Calendar.DayAfter
import FilterSql.Proofs.Query.DateSpelling

/-!
# Which texts are dates

`DayWindow.accepts_dates`: a text has a window exactly if it denotes a date of the calendar in one
of the three spellings. The window goes from the date to the one after it, both written
`YYYY-MM-DD`, but for the end of the year 9999. Digits of other scripts have their place in a
spelling, but denote nothing.
-/

namespace FilterSql.Query

open Text Calendar

/-- The text is the date as `YYYY-MM-DD`, in ASCII digits. -/
def WrittenAs (d : Date) (s : String) : Prop :=
  ∃ year month day, s.toList = ['-'].intercalate [year, month, day] ∧
    year.length = 4 ∧ month.length = 2 ∧ day.length = 2 ∧
    AllDigits year ∧ AllDigits month ∧ AllDigits day ∧
    d = ⟨digitsValue year, digitsValue month, digitsValue day⟩

/-- The window is that of the date `d`, as far as the day after it has a year of four digits. -/
structure DayWindow.IsOf (w : DayWindow) (d : Date) : Prop where
  year : 0 ≤ d.year ∧ d.year ≤ 9999
  start : WrittenAs d w.start
  next : ∃ e : Date, e.DayAfter d ∧
    (WrittenAs e w.next ∨ d = ⟨9999, 12, 31⟩ ∧ w.next = "+10000-01-01")

theorem writtenAs_text {d : Date} (h : d.InRange) : WrittenAs d d.text := by
  have digits := DateDigits.ofDate h
  refine ⟨_, _, _, toList_text_eq_intercalate h, h.length_year, h.valid.length_month,
    h.valid.length_day, digits.yearDigits, digits.monthDigits, digits.dayDigits, ?_⟩
  simp [Int.toNat_of_nonneg h.year_nonneg]

theorem DayWindow.isOf_date {d : Date} (h : d.InRange) :
    DayWindow.IsOf ⟨d.text, d.next.text⟩ d := by
  refine ⟨⟨h.year_nonneg, h.year_le⟩, writtenAs_text h, d.next, d.dayAfter_next h.valid, ?_⟩
  by_cases hlast : d = Date.last
  · subst hlast
    exact .inr ⟨rfl, by decide +kernel⟩
  · exact .inl (writtenAs_text (h.next hlast))

theorem WrittenAs.eq_text {d : Date} {s : String} (h : WrittenAs d s) (valid : d.Valid) :
    s = d.text := by
  obtain ⟨year, month, day, hs, hyear, hmonth, hday, yearDigits, monthDigits, dayDigits, rfl⟩ := h
  have text := (Date.toList_text_of_digits hyear hmonth hday
    ((yearDigits.append monthDigits).append dayDigits) valid).2
  rw [← String.toList_inj, hs, text]
  simp

theorem DayWindow.IsOf.eq {w : DayWindow} {d : Date} (h : w.IsOf d) (valid : d.Valid) :
    w = ⟨d.text, d.next.text⟩ := by
  obtain ⟨start, next⟩ := w
  obtain ⟨e, after, written⟩ := h.next
  obtain rfl := after.eq_next valid
  have hstart : start = d.text := h.start.eq_text valid
  have hnext : next = d.next.text := by
    rcases written with written | ⟨rfl, rfl⟩
    · exact written.eq_text after.valid
    · decide +kernel
  rw [hstart, hnext]

theorem DayWindow.ofText?_eq_some_iff_isOf {s : String} {w : DayWindow} :
    DayWindow.ofText? s = some w ↔ ∃ d, DenotesDate s d ∧ w.IsOf d := by
  rw [DayWindow.ofText?_eq_some_iff]
  constructor
  · rintro ⟨d, denotes, rfl⟩
    exact ⟨d, denotes, isOf_date (denotesDate_iff.mp denotes).1⟩
  · rintro ⟨d, denotes, isOf⟩
    exact ⟨d, denotes, isOf.eq denotes.valid⟩

-- ---------------------------------------------------------------------------
-- Digits of other scripts
-- ---------------------------------------------------------------------------

theorem not_denotesDate_of_foreign_digit {s : String} (hc : c ∈ trimChars s.toList)
    (decimal : isDecimalDigit c = true) (foreign : isAsciiDigit c = false) (d : Date) :
    ¬ DenotesDate s d := by
  rintro ⟨-, year, month, day, spelling, digits, -⟩
  rcases spelling.mem_cases hc with part | rfl | rfl
  · have ascii : isAsciiDigit c = true := by
      rcases part with h | h | h
      · exact digits.yearDigits c h
      · exact digits.monthDigits c h
      · exact digits.dayDigits c h
    rw [ascii] at foreign
    cases foreign
  · exact absurd decimal (by decide)
  · exact absurd decimal (by decide)

-- ---------------------------------------------------------------------------
-- All texts
-- ---------------------------------------------------------------------------

/-- The dates of the calendar are accepted, in their three spellings, and nothing else. The window
of a date goes on to the day after it. A text with a digit of another script is not accepted,
whether the digits are where those of a date would be or not. -/
theorem DayWindow.accepts_dates (s : String) :
    ((∃ w, DayWindow.ofText? s = some w) ↔ ∃ d, DenotesDate s d) ∧
    (∀ d, DenotesDate s d → ∃ w, DayWindow.ofText? s = some w ∧ w.IsOf d) ∧
    ∀ c ∈ trimChars s.toList, isDecimalDigit c = true → isAsciiDigit c = false →
      DayWindow.ofText? s = none := by
  have window (d : Date) (h : DenotesDate s d) :
      DayWindow.ofText? s = some ⟨d.text, d.next.text⟩ ∧ DayWindow.IsOf ⟨d.text, d.next.text⟩ d :=
    ⟨DayWindow.ofText?_eq_some_iff.mpr ⟨d, h, rfl⟩, isOf_date (denotesDate_iff.mp h).1⟩
  refine ⟨⟨?_, ?_⟩, fun d h => ⟨_, window d h⟩, fun c hc decimal foreign => ?_⟩
  · rintro ⟨w, hw⟩
    obtain ⟨d, denotes, -⟩ := DayWindow.ofText?_eq_some_iff.mp hw
    exact ⟨d, denotes⟩
  · rintro ⟨d, h⟩
    exact ⟨_, (window d h).1⟩
  · exact DayWindow.ofText?_eq_none_iff.mpr (not_denotesDate_of_foreign_digit hc decimal foreign)

/-- Of the centuries only every fourth has a leap day. -/
example : DayWindow.ofText? " 29-2-2000\n" = some ⟨"2000-02-29", "2000-03-01"⟩ ∧
    DayWindow.ofText? "29-2-1900" = none := by
  decide +kernel

/-- Arabic digits make up the parts of a date, but no date. -/
example : normalizeDate? "٢٠٢٤-١-٥" = some "٢٠٢٤-0١-0٥" ∧ isCanonicalDate "٢٠٢٤-0١-0٥" = true ∧
    DayWindow.ofText? "٢٠٢٤-١-٥" = none := by
  decide +kernel

end FilterSql.Query
