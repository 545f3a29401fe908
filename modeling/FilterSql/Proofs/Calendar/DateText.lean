import FilterSql.Calendar
import FilterSql.Proofs.Text.Digits

/-!
# Dates as texts

In the years 0 to 9999 dates sort as texts as they do in the calendar: `Date.text_lt_text_iff`. The
next date is the least later one, `Date.before_next_iff`, and it stays among these years except
after the last day of the year 9999, which is followed by a text that sorts before all of them.
-/

namespace FilterSql.Calendar

open Text

-- ---------------------------------------------------------------------------
-- Padded numbers
-- ---------------------------------------------------------------------------

theorem toList_padded (width n : Nat) : (padded width n).toList =
    List.replicate (width - (Nat.toDigits 10 n).length) '0' ++ Nat.toDigits 10 n := by
  rw [padded, String.toList_ofList]

theorem allDigits_padded (width n : Nat) : AllDigits (padded width n).toList := by
  rw [toList_padded]
  refine AllDigits.append (fun c hc => ?_) (allDigits_toDigits n)
  rw [List.eq_of_mem_replicate hc]
  decide

theorem length_padded {width : Nat} (hwidth : 0 < width) (h : n < 10 ^ width) :
    (padded width n).toList.length = width := by
  have short := (Nat.length_toDigits_le_iff (by decide) hwidth).mpr h
  rw [toList_padded, List.length_append, List.length_replicate]
  omega

@[simp] theorem digitsValue_padded (width n : Nat) : digitsValue (padded width n).toList = n := by
  rw [toList_padded, digitsValue_eq, Nat.ofDigitChars_append, Nat.ofDigitChars_replicate_zero,
    Nat.mul_zero, Nat.ofDigitChars_ten_toDigits]

theorem padded_digitsValue (h : AllDigits cs) (hne : 0 < cs.length) :
    (padded cs.length (digitsValue cs)).toList = cs := by
  have length := length_padded hne (digitsValue_lt h)
  rw [digits_eq_iff length (allDigits_padded _ _) h, digitsValue_padded]

namespace Date

-- ---------------------------------------------------------------------------
-- The order of dates
-- ---------------------------------------------------------------------------

/-- A date of the calendar in the years 0 to 9999, whose text is `YYYY-MM-DD`. -/
structure InRange (d : Date) : Prop where
  valid : d.Valid
  year_nonneg : 0 ≤ d.year
  year_le : d.year ≤ 9999

def Before (a b : Date) : Prop :=
  a.year < b.year ∨ a.year = b.year ∧
    (a.month < b.month ∨ a.month = b.month ∧ a.day < b.day)

def last : Date := ⟨9999, 12, 31⟩

theorem daysInMonth_le (year : Int) (month : Nat) : daysInMonth year month ≤ 31 := by
  unfold daysInMonth
  split <;> (try split) <;> decide

theorem daysInMonth_pos (year : Int) (month : Nat) : 1 ≤ daysInMonth year month := by
  unfold daysInMonth
  split <;> (try split) <;> decide

theorem daysInMonth_december (year : Int) : daysInMonth year 12 = 31 := rfl

theorem next_cases (d : Date) (h : d.Valid) :
    (d.day < daysInMonth d.year d.month ∧ d.next = ⟨d.year, d.month, d.day + 1⟩) ∨
    (d.day = daysInMonth d.year d.month ∧ d.month < 12 ∧ d.next = ⟨d.year, d.month + 1, 1⟩) ∨
    (d.day = 31 ∧ d.month = 12 ∧ d.next = ⟨d.year + 1, 1, 1⟩) := by
  obtain ⟨-, hmonth, -, hday⟩ := h
  unfold next
  split
  · exact .inl ⟨‹_›, rfl⟩
  · have hlast : d.day = daysInMonth d.year d.month := by omega
    split
    · exact .inr (.inl ⟨hlast, ‹_›, rfl⟩)
    · have hdecember : d.month = 12 := by omega
      rw [hdecember, daysInMonth_december] at hlast
      exact .inr (.inr ⟨hlast, hdecember, rfl⟩)

theorem before_next_iff {a b : Date} (ha : a.Valid) (hb : b.Valid) :
    a.Before b.next ↔ ¬ b.Before a := by
  obtain ⟨amonth, amonth', aday, aday'⟩ := ha
  -- In a month of its own a date is not later than the last day of it.
  have same : a.year = b.year → a.month = b.month → a.day ≤ daysInMonth b.year b.month := by
    intro hyear hmonth
    rwa [← hyear, ← hmonth]
  obtain ⟨hday, hnext⟩ | ⟨hday, hmonth, hnext⟩ | ⟨hday, hmonth, hnext⟩ := next_cases b hb
  · rw [hnext]
    simp only [Before]
    omega
  · rw [hnext]
    simp only [Before]
    omega
  · rw [hmonth, daysInMonth_december] at same
    rw [hnext]
    simp only [Before]
    omega

theorem valid_next {d : Date} (h : d.Valid) : d.next.Valid := by
  have ⟨hmonth, hmonth', _, _⟩ := h
  obtain ⟨hlt, hnext⟩ | ⟨-, hlt, hnext⟩ | ⟨-, -, hnext⟩ := next_cases d h
  · rw [hnext]
    exact ⟨hmonth, hmonth', by simp, hlt⟩
  · rw [hnext]
    exact ⟨by simp, hlt, Nat.le_refl 1, daysInMonth_pos _ _⟩
  · rw [hnext]
    exact ⟨Nat.le_refl 1, by simp, Nat.le_refl 1, daysInMonth_pos _ _⟩

/-- Only the last date of all is followed by one with a longer year. -/
theorem InRange.next {d : Date} (h : d.InRange) (hlast : d ≠ last) : d.next.InRange := by
  refine ⟨valid_next h.valid, ?_, ?_⟩
  · have low := h.year_nonneg
    obtain ⟨-, hnext⟩ | ⟨-, -, hnext⟩ | ⟨-, -, hnext⟩ := next_cases d h.valid
    · rw [hnext]
      exact low
    · rw [hnext]
      exact low
    · rw [hnext]
      simp only
      omega
  · have high := h.year_le
    obtain ⟨-, hnext⟩ | ⟨-, -, hnext⟩ | ⟨hday, hmonth, hnext⟩ := next_cases d h.valid
    · rw [hnext]
      exact high
    · rw [hnext]
      exact high
    · have hyear : d.year ≠ 9999 := by
        intro hyear
        exact hlast (by cases d; simp_all [last])
      rw [hnext]
      simp only
      omega

-- ---------------------------------------------------------------------------
-- The order of their texts
-- ---------------------------------------------------------------------------

theorem InRange.toList_text {d : Date} (h : d.InRange) :
    d.text.toList = (padded 4 d.year.toNat).toList ++
      '-' :: ((padded 2 d.month).toList ++ '-' :: (padded 2 d.day).toList) := by
  simp [text, yearText, h.year_nonneg, h.year_le, String.toList_append]

theorem InRange.length_year {d : Date} (h : d.InRange) :
    (padded 4 d.year.toNat).toList.length = 4 := by
  have high := h.year_le
  exact length_padded (by decide) (by omega)

theorem Valid.length_month {d : Date} (h : d.Valid) :
    (padded 2 d.month).toList.length = 2 :=
  length_padded (by decide) (Nat.lt_of_le_of_lt h.2.1 (by decide))

theorem Valid.length_day {d : Date} (h : d.Valid) : (padded 2 d.day).toList.length = 2 := by
  have short := Nat.le_trans h.2.2.2 (daysInMonth_le d.year d.month)
  exact length_padded (by decide) (Nat.lt_of_le_of_lt short (by decide))

theorem InRange.length_text {d : Date} (h : d.InRange) : d.text.toList.length = 10 := by
  simp [h.toList_text, h.length_year, h.valid.length_month, h.valid.length_day]

theorem toList_text_of_digits {y m day : List Char} (hyear : y.length = 4) (hmonth : m.length = 2)
    (hday : day.length = 2) (all : AllDigits (y ++ m ++ day))
    (valid : Date.Valid ⟨digitsValue y, digitsValue m, digitsValue day⟩) :
    Date.InRange ⟨digitsValue y, digitsValue m, digitsValue day⟩ ∧
      (Date.text ⟨digitsValue y, digitsValue m, digitsValue day⟩).toList =
        y ++ '-' :: (m ++ '-' :: day) := by
  have yearDigits : AllDigits y := fun c hc => all c (by simp [hc])
  have monthDigits : AllDigits m := fun c hc => all c (by simp [hc])
  have dayDigits : AllDigits day := fun c hc => all c (by simp [hc])
  have bound := digitsValue_lt yearDigits
  have year := padded_digitsValue yearDigits (by omega)
  have month := padded_digitsValue monthDigits (by omega)
  have date := padded_digitsValue dayDigits (by omega)
  rw [hyear] at bound year
  rw [hmonth] at month
  rw [hday] at date
  have inRange : Date.InRange ⟨digitsValue y, digitsValue m, digitsValue day⟩ :=
    ⟨valid, by simp, by simp only; omega⟩
  refine ⟨inRange, ?_⟩
  rw [inRange.toList_text]
  simp [year, month, date]

theorem padded_lt_padded_iff {width : Nat} (ha : (padded width m).toList.length = width)
    (hb : (padded width n).toList.length = width) :
    (padded width m).toList < (padded width n).toList ↔ m < n := by
  rw [digits_lt_iff (ha.trans hb.symm) (allDigits_padded _ _) (allDigits_padded _ _),
    digitsValue_padded, digitsValue_padded]

theorem padded_eq_padded_iff {width : Nat} (ha : (padded width m).toList.length = width)
    (hb : (padded width n).toList.length = width) :
    (padded width m).toList = (padded width n).toList ↔ m = n := by
  rw [digits_eq_iff (ha.trans hb.symm) (allDigits_padded _ _) (allDigits_padded _ _),
    digitsValue_padded, digitsValue_padded]

theorem text_lt_text_iff {a b : Date} (ha : a.InRange) (hb : b.InRange) :
    a.text < b.text ↔ a.Before b := by
  have low := ha.year_nonneg
  have low' := hb.year_nonneg
  have dash (xs ys : List Char) : '-' :: xs < '-' :: ys ↔ xs < ys := by simp
  rw [String.lt_iff, ha.toList_text, hb.toList_text,
    append_lt_append_iff (ha.length_year.trans hb.length_year.symm), dash,
    append_lt_append_iff (ha.valid.length_month.trans hb.valid.length_month.symm), dash,
    padded_lt_padded_iff ha.length_year hb.length_year,
    padded_eq_padded_iff ha.length_year hb.length_year,
    padded_lt_padded_iff ha.valid.length_month hb.valid.length_month,
    padded_eq_padded_iff ha.valid.length_month hb.valid.length_month,
    padded_lt_padded_iff ha.valid.length_day hb.valid.length_day]
  unfold Before
  omega

theorem text_inj {a b : Date} (ha : a.InRange) (hb : b.InRange) : a.text = b.text ↔ a = b := by
  refine ⟨fun h => ?_, congrArg text⟩
  have before : ¬ a.Before b := fun hab => String.ne_of_lt ((text_lt_text_iff ha hb).mpr hab) h
  have after : ¬ b.Before a := fun hba => String.ne_of_lt ((text_lt_text_iff hb ha).mpr hba) h.symm
  cases a
  cases b
  simp only [Before, mk.injEq] at *
  omega

/-- Where a text is a date in its first ten characters, only these count against another date. -/
theorem append_lt_text_iff {a b : Date} (ha : a.InRange) (hb : b.InRange) (rest : String) :
    a.text ++ rest < b.text ↔ a.Before b := by
  have lengths := ha.length_text.trans hb.length_text.symm
  rw [← text_lt_text_iff ha hb, String.lt_iff, String.toList_append, ← b.text.toList.append_nil,
    append_lt_append_iff lengths, String.lt_iff]
  simp

end Date

end FilterSql.Calendar
