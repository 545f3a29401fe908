import FilterSql.Proofs.Calendar.DateText
import FilterSql.Query.DateText

/-!
# Spellings of dates

`DenotesDate s d`: the text `s` is the date `d` in one of the three spellings, in ASCII digits.
`DayWindow.ofText?_eq_some_iff`: the texts that have a window are those that denote a date, and the
window reaches from the text of this date to that of the next one.
-/

namespace FilterSql.Query

open Text Calendar

/-- A year, a month and a day in one of the orders in which they are written. -/
inductive Spelling (year month day : List Char) : List Char → Prop
  | yearFirst : Spelling year month day (['-'].intercalate [year, month, day])
  | dayFirst : Spelling year month day (['-'].intercalate [day, month, year])
  | monthFirst : Spelling year month day (['/'].intercalate [month, day, year])

structure DateDigits (year month day : List Char) : Prop where
  yearLength : year.length = 4
  monthLength : month.length = 1 ∨ month.length = 2
  dayLength : day.length = 1 ∨ day.length = 2
  yearDigits : AllDigits year
  monthDigits : AllDigits month
  dayDigits : AllDigits day

def AllDecimal (cs : List Char) : Prop := ∀ c ∈ cs, isDecimalDigit c = true

/-- As many digits as a date has, of whatever script. -/
structure DateFigures (year month day : List Char) : Prop where
  yearLength : year.length = 4
  monthLength : month.length = 1 ∨ month.length = 2
  dayLength : day.length = 1 ∨ day.length = 2
  yearDecimal : AllDecimal year
  monthDecimal : AllDecimal month
  dayDecimal : AllDecimal day

/-- The text is the date in one of the three spellings, white space around it aside. -/
structure DenotesDate (s : String) (d : Date) : Prop where
  valid : d.Valid
  spelled : ∃ year month day, Spelling year month day (trimChars s.toList) ∧
    DateDigits year month day ∧ d = ⟨digitsValue year, digitsValue month, digitsValue day⟩

-- ---------------------------------------------------------------------------
-- Digits
-- ---------------------------------------------------------------------------

theorem allDecimal_of_allDigits (h : AllDigits cs) : AllDecimal cs :=
  fun c hc => isDecimalDigit_of_isAsciiDigit (h c hc)

theorem DateDigits.figures (h : DateDigits year month day) : DateFigures year month day where
  yearLength := h.yearLength
  monthLength := h.monthLength
  dayLength := h.dayLength
  yearDecimal := allDecimal_of_allDigits h.yearDigits
  monthDecimal := allDecimal_of_allDigits h.monthDigits
  dayDecimal := allDecimal_of_allDigits h.dayDigits

theorem not_mem_of_allDecimal (h : AllDecimal cs) (hc : isDecimalDigit c = false) : c ∉ cs := by
  intro hmem
  rw [h c hmem] at hc
  cases hc

theorem splitOn_of_allDecimal {separator : Char} (hseparator : isDecimalDigit separator = false)
    (ha : AllDecimal a) (hb : AllDecimal b) (hc : AllDecimal c) :
    ([separator].intercalate [a, b, c]).splitOn separator = [a, b, c] := by
  refine List.splitOn_intercalate separator ?_ (by simp)
  simp [not_mem_of_allDecimal ha hseparator, not_mem_of_allDecimal hb hseparator,
    not_mem_of_allDecimal hc hseparator]

theorem Spelling.mem_cases (h : Spelling year month day cs) (hc : c ∈ cs) :
    (c ∈ year ∨ c ∈ month ∨ c ∈ day) ∨ c = '-' ∨ c = '/' := by
  cases h with
  | yearFirst | dayFirst | monthFirst =>
    simp only [List.intercalate_cons_cons, List.intercalate_singleton, List.mem_append,
      List.mem_singleton] at hc
    tauto

theorem isWhiteSpace_of_isDecimalDigit {c : Char} (h : isDecimalDigit c = true) :
    isWhiteSpace c = false := by
  have apart : ∀ start ∈ decimalZeros, ∀ r ∈ whiteSpaceRanges,
      start + 9 < r.first ∨ r.last < start := by decide
  simp only [isDecimalDigit, List.any_eq_true, Bool.and_eq_true, decide_eq_true_eq] at h
  obtain ⟨start, hstart, low, high⟩ := h
  refine List.any_eq_false.mpr fun r hr hmem => ?_
  simp only [CodeRange.mem, Bool.and_eq_true, decide_eq_true_eq] at hmem
  have between := apart start hstart r hr
  omega

theorem Spelling.visible (h : Spelling year month day cs) (figures : DateFigures year month day) :
    ∀ c ∈ cs, isWhiteSpace c = false := by
  intro c hc
  rcases h.mem_cases hc with (hc | hc | hc) | rfl | rfl
  · exact isWhiteSpace_of_isDecimalDigit (figures.yearDecimal c hc)
  · exact isWhiteSpace_of_isDecimalDigit (figures.monthDecimal c hc)
  · exact isWhiteSpace_of_isDecimalDigit (figures.dayDecimal c hc)
  · decide
  · decide

namespace DateText

theorem isDigits_iff : isDigits n cs = true ↔ cs.length = n ∧ AllDecimal cs := by
  simp [isDigits, AllDecimal]

theorem isDayOrMonth_iff :
    isDayOrMonth cs = true ↔ (cs.length = 1 ∨ cs.length = 2) ∧ AllDecimal cs := by
  simp [isDayOrMonth, isDigits_iff, or_and_right]

theorem length_twoDigits (h : cs.length = 1 ∨ cs.length = 2) : (twoDigits cs).length = 2 := by
  rw [twoDigits, List.length_append, List.length_replicate]
  omega

@[simp] theorem digitsValue_twoDigits (cs : List Char) :
    digitsValue (twoDigits cs) = digitsValue cs := by
  rw [digitsValue_eq, twoDigits, Nat.ofDigitChars_append, Nat.ofDigitChars_replicate_zero,
    Nat.mul_zero, ← digitsValue_eq]

theorem allDigits_twoDigits : AllDigits (twoDigits cs) ↔ AllDigits cs := by
  constructor
  · intro h c hc
    exact h c (List.mem_append_right _ hc)
  · intro h
    refine AllDigits.append (fun c hc => ?_) h
    rw [List.eq_of_mem_replicate hc]
    decide

-- ---------------------------------------------------------------------------
-- Parts of a text
-- ---------------------------------------------------------------------------

theorem parts?_eq_some (h : parts? cs = some p) :
    Spelling p.year p.month p.day cs ∧ DateFigures p.year p.month p.day := by
  have dashes : ['-'].intercalate (cs.splitOn '-') = cs := List.intercalate_splitOn '-'
  have slashes : ['/'].intercalate (cs.splitOn '/') = cs := List.intercalate_splitOn '/'
  unfold parts? at h
  split at h
  · rename_i a b c hparts
    rw [hparts] at dashes
    split at h
    · rename_i hdigits
      simp only [Bool.and_eq_true, isDigits_iff, isDayOrMonth_iff] at hdigits
      obtain ⟨⟨⟨ha, ha'⟩, hb, hb'⟩, hc, hc'⟩ := hdigits
      obtain rfl := Option.some.inj h
      exact ⟨dashes ▸ .yearFirst, ha, hb, hc, ha', hb', hc'⟩
    · split at h
      · rename_i hdigits
        simp only [Bool.and_eq_true, isDigits_iff, isDayOrMonth_iff] at hdigits
        obtain ⟨⟨⟨ha, ha'⟩, hb, hb'⟩, hc, hc'⟩ := hdigits
        obtain rfl := Option.some.inj h
        exact ⟨dashes ▸ .dayFirst, hc, hb, ha, hc', hb', ha'⟩
      · cases h
  · split at h
    · rename_i a b c hparts
      rw [hparts] at slashes
      split at h
      · rename_i hdigits
        simp only [Bool.and_eq_true, isDigits_iff, isDayOrMonth_iff] at hdigits
        obtain ⟨⟨⟨ha, ha'⟩, hb, hb'⟩, hc, hc'⟩ := hdigits
        obtain rfl := Option.some.inj h
        exact ⟨slashes ▸ .monthFirst, hc, ha, hb, hc', ha', hb'⟩
      · cases h
    · cases h

theorem parts?_of_spelling (figures : DateFigures year month day)
    (h : Spelling year month day cs) : parts? cs = some ⟨year, month, day⟩ := by
  have year_ok : isDigits 4 year = true :=
    isDigits_iff.mpr ⟨figures.yearLength, figures.yearDecimal⟩
  have month_ok : isDayOrMonth month = true :=
    isDayOrMonth_iff.mpr ⟨figures.monthLength, figures.monthDecimal⟩
  have day_ok : isDayOrMonth day = true :=
    isDayOrMonth_iff.mpr ⟨figures.dayLength, figures.dayDecimal⟩
  have dash : isDecimalDigit '-' = false := by decide
  cases h with
  | yearFirst =>
    have split := splitOn_of_allDecimal dash figures.yearDecimal figures.monthDecimal
      figures.dayDecimal
    simp only [parts?, split]
    simp [year_ok, month_ok, day_ok]
  | dayFirst =>
    have split := splitOn_of_allDecimal dash figures.dayDecimal figures.monthDecimal
      figures.yearDecimal
    -- What is first is too short to be a year.
    have short : isDigits 4 day = false := by
      have length := figures.dayLength
      refine Bool.eq_false_iff.mpr fun h => ?_
      have four := (isDigits_iff.mp h).1
      omega
    simp only [parts?, split]
    simp [short, year_ok, month_ok, day_ok]
  | monthFirst =>
    have whole : (['/'].intercalate [month, day, year]).splitOn '-' =
        [['/'].intercalate [month, day, year]] :=
      List.splitOn_eq_singleton (by
        simp [List.intercalate, not_mem_of_allDecimal figures.yearDecimal dash,
          not_mem_of_allDecimal figures.monthDecimal dash,
          not_mem_of_allDecimal figures.dayDecimal dash])
    have slash : isDecimalDigit '/' = false := by decide
    have split := splitOn_of_allDecimal slash figures.monthDecimal figures.dayDecimal
      figures.yearDecimal
    simp only [parts?, whole, split]
    simp [year_ok, month_ok, day_ok]

theorem normalizeChars_of_spelling (figures : DateFigures year month day)
    (h : Spelling year month day cs) :
    normalizeChars cs = Parts.canonical ⟨year, month, day⟩ := by
  rw [normalizeChars, parts?_of_spelling figures h]

end DateText

open DateText

-- ---------------------------------------------------------------------------
-- The canonical spelling
-- ---------------------------------------------------------------------------

theorem DateDigits.canonical (digits : DateDigits year month day)
    (valid : Date.Valid ⟨digitsValue year, digitsValue month, digitsValue day⟩) :
    Date.InRange ⟨digitsValue year, digitsValue month, digitsValue day⟩ ∧
      (Date.text ⟨digitsValue year, digitsValue month, digitsValue day⟩).toList =
        Parts.canonical ⟨year, month, day⟩ := by
  have padded : AllDigits (year ++ twoDigits month ++ twoDigits day) :=
    (digits.yearDigits.append (allDigits_twoDigits.mpr digits.monthDigits)).append
      (allDigits_twoDigits.mpr digits.dayDigits)
  have text := Date.toList_text_of_digits digits.yearLength (length_twoDigits digits.monthLength)
    (length_twoDigits digits.dayLength) padded (by simpa using valid)
  simpa [Parts.canonical] using text

theorem DateDigits.ofDate {d : Date} (h : d.InRange) :
    DateDigits (padded 4 d.year.toNat).toList (padded 2 d.month).toList
      (padded 2 d.day).toList where
  yearLength := h.length_year
  monthLength := .inr h.valid.length_month
  dayLength := .inr h.valid.length_day
  yearDigits := allDigits_padded _ _
  monthDigits := allDigits_padded _ _
  dayDigits := allDigits_padded _ _

theorem toList_text_eq_intercalate {d : Date} (h : d.InRange) : d.text.toList =
    ['-'].intercalate
      [(padded 4 d.year.toNat).toList, (padded 2 d.month).toList, (padded 2 d.day).toList] := by
  rw [h.toList_text]
  simp

theorem denotesDate_of_trimChars {s : String} {d : Date} (h : d.InRange)
    (htext : trimChars s.toList = d.text.toList) : DenotesDate s d := by
  refine ⟨h.valid, _, _, _, ?_, .ofDate h, ?_⟩
  · rw [htext, toList_text_eq_intercalate h]
    exact .yearFirst
  · simp [Int.toNat_of_nonneg h.year_nonneg]

theorem dateDigits_of_canonical {d : Date} (h : d.InRange)
    (figures : DateFigures p.year p.month p.day) (heq : Parts.canonical p = d.text.toList) :
    DateDigits p.year p.month p.day ∧
      d = ⟨digitsValue p.year, digitsValue p.month, digitsValue p.day⟩ := by
  obtain ⟨hyear, hmonth, hday, -, -, -⟩ := figures
  have ofDate := DateDigits.ofDate h
  rw [h.toList_text, Parts.canonical, List.append_assoc] at heq
  obtain ⟨year, rest⟩ := List.append_inj heq (hyear.trans h.length_year.symm)
  obtain ⟨month, rest⟩ := List.append_inj (List.cons.inj rest).2
    ((length_twoDigits hmonth).trans h.valid.length_month.symm)
  have day := (List.cons.inj rest).2
  refine ⟨⟨hyear, hmonth, hday, ?_, ?_, ?_⟩, ?_⟩
  · exact year ▸ ofDate.yearDigits
  · exact allDigits_twoDigits.mp (month ▸ ofDate.monthDigits)
  · exact allDigits_twoDigits.mp (day ▸ ofDate.dayDigits)
  · rw [← digitsValue_twoDigits p.month, ← digitsValue_twoDigits p.day, year, month, day]
    simp [Int.toNat_of_nonneg h.year_nonneg]

theorem normalizeDate?_eq_some_iff : normalizeDate? s = some t ↔
    trim s ≠ "" ∧ t = String.ofList (normalizeChars (trimChars s.toList)) := by
  simp only [normalizeDate?, Option.map_eq_some_iff, trimmed?_eq_some_iff]
  constructor
  · rintro ⟨_, ⟨rfl, nonblank⟩, rfl⟩
    exact ⟨nonblank, by rw [toList_trim]⟩
  · rintro ⟨nonblank, rfl⟩
    exact ⟨_, ⟨rfl, nonblank⟩, by rw [toList_trim]⟩

theorem Spelling.trim_ne_empty (figures : DateFigures year month day)
    (h : Spelling year month day (trimChars s.toList)) : trim s ≠ "" := by
  intro blank
  have parts := parts?_of_spelling figures h
  rw [← toList_trim, blank] at parts
  cases parts

/-- A text denotes a date exactly if it is rewritten to the text of the date. -/
theorem denotesDate_iff {s : String} {d : Date} :
    DenotesDate s d ↔ d.InRange ∧ normalizeDate? s = some d.text := by
  constructor
  · rintro ⟨valid, year, month, day, spelling, digits, rfl⟩
    obtain ⟨inRange, text⟩ := digits.canonical valid
    refine ⟨inRange, normalizeDate?_eq_some_iff.mpr
      ⟨spelling.trim_ne_empty digits.figures, ?_⟩⟩
    rw [normalizeChars_of_spelling digits.figures spelling, ← text, String.ofList_toList]
  · rintro ⟨inRange, h⟩
    obtain ⟨-, htext⟩ := normalizeDate?_eq_some_iff.mp h
    rw [← String.toList_inj, String.toList_ofList, normalizeChars, eq_comm] at htext
    cases hparts : parts? (trimChars s.toList) with
    | none =>
      rw [hparts] at htext
      exact denotesDate_of_trimChars inRange htext
    | some p =>
      rw [hparts] at htext
      obtain ⟨spelling, figures⟩ := parts?_eq_some hparts
      obtain ⟨digits, hd⟩ := dateDigits_of_canonical inRange figures htext
      exact ⟨inRange.valid, _, _, _, spelling, digits, hd⟩

-- ---------------------------------------------------------------------------
-- Windows
-- ---------------------------------------------------------------------------

/-- Four, two and two digits, of whatever script. -/
theorem isCanonicalDate_iff : isCanonicalDate s = true ↔ ∃ year month day,
    s.toList = ['-'].intercalate [year, month, day] ∧ DateFigures year month day ∧
      month.length = 2 ∧ day.length = 2 := by
  constructor
  · intro h
    have whole : ['-'].intercalate (s.toList.splitOn '-') = s.toList :=
      List.intercalate_splitOn '-'
    unfold isCanonicalDate at h
    split at h
    · rename_i year month day hparts
      rw [hparts] at whole
      simp only [Bool.and_eq_true, isDigits_iff] at h
      obtain ⟨⟨⟨hyear, hyear'⟩, hmonth, hmonth'⟩, hday, hday'⟩ := h
      exact ⟨year, month, day, whole.symm,
        ⟨hyear, .inr hmonth, .inr hday, hyear', hmonth', hday'⟩, hmonth, hday⟩
    · cases h
  · rintro ⟨year, month, day, whole, figures, hmonth, hday⟩
    have split := splitOn_of_allDecimal (by decide : isDecimalDigit '-' = false)
      figures.yearDecimal figures.monthDecimal figures.dayDecimal
    simp only [isCanonicalDate, whole, split, Bool.and_eq_true, isDigits_iff]
    exact ⟨⟨⟨figures.yearLength, figures.yearDecimal⟩, hmonth, figures.monthDecimal⟩, hday,
      figures.dayDecimal⟩

theorem calendarDate?_eq_some (canonical : isCanonicalDate s = true)
    (h : calendarDate? s = some d) : d.InRange ∧ s = d.text := by
  obtain ⟨y, m, day, whole, figures, hm, hday⟩ := isCanonicalDate_iff.mp canonical
  have split := splitOn_of_allDecimal (by decide : isDecimalDigit '-' = false)
    figures.yearDecimal figures.monthDecimal figures.dayDecimal
  simp only [calendarDate?, whole, split, Option.ite_none_right_eq_some, Option.some.injEq] at h
  obtain ⟨digits, valid, rfl⟩ := h
  have all : AllDigits (y ++ m ++ day) := List.all_eq_true.mp digits
  obtain ⟨inRange, text⟩ := Date.toList_text_of_digits figures.yearLength hm hday all valid
  refine ⟨inRange, ?_⟩
  rw [← String.toList_inj, whole, text]
  simp [List.intercalate]

theorem calendarDate?_text {d : Date} (h : d.InRange) :
    isCanonicalDate d.text = true ∧ calendarDate? d.text = some d := by
  have digits := DateDigits.ofDate h
  have figures := digits.figures
  have whole := toList_text_eq_intercalate h
  refine ⟨isCanonicalDate_iff.mpr ⟨_, _, _, whole, figures, h.valid.length_month,
    h.valid.length_day⟩, ?_⟩
  have split := splitOn_of_allDecimal (by decide : isDecimalDigit '-' = false)
    figures.yearDecimal figures.monthDecimal figures.dayDecimal
  have all := (digits.yearDigits.append digits.monthDigits).append digits.dayDigits
  simp only [calendarDate?, whole, split, List.all_eq_true.mpr all, if_true]
  simp [Int.toNat_of_nonneg h.year_nonneg, h.valid]

/-- The texts that have a window are those that denote a date. -/
theorem DayWindow.ofText?_eq_some_iff : DayWindow.ofText? s = some w ↔
    ∃ d, DenotesDate s d ∧ w = ⟨d.text, d.next.text⟩ := by
  simp only [DayWindow.ofText?, Option.bind_eq_bind, Option.bind_eq_some_iff, denotesDate_iff]
  constructor
  · rintro ⟨start, hstart, h⟩
    split at h
    · cases h
    · rename_i canonical
      obtain ⟨d, hd, h⟩ := Option.bind_eq_some_iff.mp h
      obtain ⟨inRange, rfl⟩ := calendarDate?_eq_some (by simpa using canonical) hd
      exact ⟨d, ⟨inRange, hstart⟩, (Option.some.inj h).symm⟩
  · rintro ⟨d, ⟨inRange, hstart⟩, rfl⟩
    obtain ⟨canonical, hd⟩ := calendarDate?_text inRange
    exact ⟨d.text, hstart, by simp [canonical, hd]⟩

theorem DayWindow.ofText?_eq_some (h : DayWindow.ofText? o = some w) :
    ∃ d : Date, d.InRange ∧ w = ⟨d.text, d.next.text⟩ := by
  obtain ⟨d, denotes, rfl⟩ := DayWindow.ofText?_eq_some_iff.mp h
  exact ⟨d, (denotesDate_iff.mp denotes).1, rfl⟩

theorem denotesDate_text {d : Date} (h : d.InRange) : DenotesDate d.text d := by
  have visible : ∀ c ∈ d.text.toList, isWhiteSpace c = false := by
    rw [toList_text_eq_intercalate h]
    exact Spelling.yearFirst.visible (DateDigits.ofDate h).figures
  exact denotesDate_of_trimChars h (trimChars_of_visible visible)

/-- A text that denotes a day is rewritten to the start of its window, which denotes that day too. -/
theorem DayWindow.ofText?_start (h : DayWindow.ofText? s = some w) :
    normalizeDate? s = some w.start ∧ DayWindow.ofText? w.start = some w := by
  obtain ⟨d, denotes, rfl⟩ := DayWindow.ofText?_eq_some_iff.mp h
  obtain ⟨inRange, hstart⟩ := denotesDate_iff.mp denotes
  exact ⟨hstart, DayWindow.ofText?_eq_some_iff.mpr ⟨d, denotesDate_text inRange, rfl⟩⟩

theorem DayWindow.ofText?_eq_none_iff : DayWindow.ofText? s = none ↔ ∀ d, ¬ DenotesDate s d := by
  constructor
  · intro h d hd
    cases h.symm.trans (DayWindow.ofText?_eq_some_iff.mpr ⟨d, hd, rfl⟩)
  · intro h
    refine Option.eq_none_iff_forall_ne_some.mpr fun w hw => ?_
    obtain ⟨d, hd, -⟩ := DayWindow.ofText?_eq_some_iff.mp hw
    exact h d hd

end FilterSql.Query
