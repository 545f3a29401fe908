import FilterSql.Proofs.Calendar.DayNumber

/-!
# Moments

A moment is a date and a time of day. Every number of microseconds since the start of 1970 belongs
to exactly one, `Moment.at_iff`, whose text is written where the year is covered,
`instantText?_eq`, and from whose text the number is read back, `microsOfText?_text`.
-/

namespace FilterSql.Calendar

open Text

@[ext]
structure Moment where
  date : Date
  hour : Fin 24
  minute : Fin 60
  second : Fin 60
  micro : Fin 1000000

def clockMicros (days : Int) (hour minute second micro : Nat) : Int :=
  (((days * 24 + hour) * 60 + minute) * 60 + second) * 1000000 + micro

namespace Moment

/-- The moment is so many microseconds after the start of 1 January 1970, or before it, if there are
less than zero. -/
def At (t : Moment) (micros : Int) : Prop := ∃ days, Date.DaysAfter days .epoch t.date ∧
  micros = clockMicros days t.hour t.minute t.second t.micro

def text (t : Moment) : String :=
  t.date.text ++ "T" ++ padded 2 t.hour ++ ":" ++ padded 2 t.minute ++ ":" ++ padded 2 t.second ++
    "." ++ padded 6 t.micro ++ "Z"

/-- Below zero the date is an earlier one: the time of day counts from its start. -/
def ofMicros (micros : Int) : Moment where
  date := .ofDayNumber (micros / microsPerDay)
  hour := .ofNat 24 (micros / 3600000000 % 24).toNat
  minute := .ofNat 60 (micros / 60000000 % 60).toNat
  second := .ofNat 60 (micros / 1000000 % 60).toNat
  micro := .ofNat 1000000 (micros % 1000000).toNat

theorem at_iff (t : Moment) (micros : Int) : t.At micros ↔ t = ofMicros micros := by
  simp only [At, Date.daysAfter_epoch_iff]
  obtain ⟨date, ⟨hour, _⟩, ⟨minute, _⟩, ⟨second, _⟩, ⟨micro, _⟩⟩ := t
  simp only [Moment.ext_iff, ofMicros, Fin.ext_iff, Fin.ofNat, clockMicros, microsPerDay,
    microsPerSecond]
  constructor
  · rintro ⟨days, rfl, rfl⟩
    refine ⟨?_, ?_, ?_, ?_, ?_⟩
    · congr 1
      omega
    all_goals omega
  · rintro ⟨rfl, rfl, rfl, rfl, rfl⟩
    refine ⟨_, rfl, ?_⟩
    omega

end Moment

theorem timeText_eq (micros : Int) : timeText (micros % microsPerDay).toNat =
    padded 2 (Moment.ofMicros micros).hour ++ ":" ++ padded 2 (Moment.ofMicros micros).minute ++
      ":" ++ padded 2 (Moment.ofMicros micros).second ++ "." ++
      padded 6 (Moment.ofMicros micros).micro := by
  obtain ⟨rest, hrest⟩ : ∃ rest : Nat, micros % microsPerDay = rest :=
    Int.eq_ofNat_of_zero_le (Int.emod_nonneg _ (by decide))
  simp only [microsPerDay, microsPerSecond] at hrest
  have hour : rest / 1000000 / 3600 = (Moment.ofMicros micros).hour := by
    simp only [Moment.ofMicros, Fin.ofNat]
    omega
  have minute : rest / 1000000 / 60 % 60 = (Moment.ofMicros micros).minute := by
    simp only [Moment.ofMicros, Fin.ofNat]
    omega
  have second : rest / 1000000 % 60 = (Moment.ofMicros micros).second := by
    simp only [Moment.ofMicros, Fin.ofNat]
    omega
  have micro : rest % 1000000 = (Moment.ofMicros micros).micro := by
    simp only [Moment.ofMicros, Fin.ofNat]
    omega
  simp only [timeText, microsPerDay, microsPerSecond, hrest, Int.toNat_natCast, hour, minute,
    second, micro]

theorem instantText?_eq (micros : Int) : instantText? micros =
    if -262143 ≤ (Moment.ofMicros micros).date.year ∧ (Moment.ofMicros micros).date.year ≤ 262142
    then some (Moment.ofMicros micros).text else none := by
  have date : (Moment.ofMicros micros).date = .ofDayNumber (micros / microsPerDay) := rfl
  simp only [instantText?, dayText?, covered_iff_year, timeText_eq, date]
  split
  · simp [Moment.text, date, String.append_assoc]
  · rfl

-- ---------------------------------------------------------------------------
-- Reading
-- ---------------------------------------------------------------------------

/-- The numbers in a text, which are its longest rows of digits. -/
def numbersIn (cs : List Char) : List Nat :=
  ((cs.splitOnP (!isAsciiDigit ·)).filter (!·.isEmpty)).map digitsValue

theorem numbersIn_cons (h : isAsciiDigit c = false) (cs : List Char) :
    numbersIn (c :: cs) = numbersIn cs := by
  simp [numbersIn, List.splitOnP_cons_eq_if_modifyHead, h]

theorem numbersIn_padded (width n : Nat) (h : isAsciiDigit c = false) (cs : List Char) :
    numbersIn ((padded width n).toList ++ c :: cs) = n :: numbersIn cs := by
  have digits : ∀ d ∈ (padded width n).toList, (!isAsciiDigit d) = false := by
    intro d hd
    simp [allDigits_padded width n d hd]
  have nonempty : (padded width n).toList ≠ [] := by
    simp [toList_padded]
  simp [numbersIn, List.splitOnP_append_cons_of_forall_mem digits c (by simp [h]), nonempty]

/-- The microseconds since the start of 1970 that a text states as a year, which may have a sign, a
month, a day, an hour, a minute, a second and a microsecond. -/
def microsOfText? (text : String) : Option Int :=
  match numbersIn text.toList with
  | [year, month, day, hour, minute, second, micro] =>
    let signed : Int := if text.toList.head? = some '-' then -year else year
    some (clockMicros (Date.toDayNumber ⟨signed, month, day⟩) hour minute second micro)
  | _ => none

theorem numbersIn_yearText (year : Int) (h : isAsciiDigit c = false) (cs : List Char) :
    numbersIn ((yearText year).toList ++ c :: cs) = year.natAbs :: numbersIn cs := by
  unfold yearText
  split
  · have plain : year.toNat = year.natAbs := by omega
    rw [plain, numbersIn_padded _ _ h]
  · have minus : isAsciiDigit '-' = false := by decide
    have plus : isAsciiDigit '+' = false := by decide
    split <;> simp [numbersIn_cons, numbersIn_padded _ _ h, minus, plus]

/-- Only a year before the year 0 starts with a minus sign. -/
theorem head?_yearText (year : Int) (cs : List Char) :
    ((yearText year).toList ++ cs).head? = some '-' ↔ year < 0 := by
  unfold yearText
  split
  · have digits := allDigits_padded 4 year.toNat
    cases hyear : (padded 4 year.toNat).toList with
    | nil => simp [toList_padded] at hyear
    | cons first rest =>
      have digit := digits first (by simp [hyear])
      refine iff_of_false (fun h => ?_) (by omega)
      obtain rfl : first = '-' := by simpa using h
      exact absurd digit (by decide)
  · split <;> simp [*]

theorem Moment.toList_text (t : Moment) : t.text.toList =
    (yearText t.date.year).toList ++ '-' :: ((padded 2 t.date.month).toList ++
      '-' :: ((padded 2 t.date.day).toList ++ 'T' :: ((padded 2 t.hour).toList ++
      ':' :: ((padded 2 t.minute).toList ++ ':' :: ((padded 2 t.second).toList ++
      '.' :: ((padded 6 t.micro).toList ++ ['Z'])))))) := by
  simp [Moment.text, Date.text, String.toList_append]

theorem Moment.numbersIn_text (t : Moment) : numbersIn t.text.toList =
    [t.date.year.natAbs, t.date.month, t.date.day, t.hour.val, t.minute.val, t.second.val,
      t.micro.val] := by
  have nothing : numbersIn [] = [] := by decide
  simp (disch := decide) only [toList_text, numbersIn_yearText, numbersIn_padded, nothing]

theorem microsOfText?_text {t : Moment} (h : t.At micros) : microsOfText? t.text = some micros := by
  have number : clockMicros t.date.toDayNumber t.hour t.minute t.second t.micro = micros := by
    obtain ⟨days, after, rfl⟩ := h
    rw [Date.daysAfter_epoch_iff.mp after, Date.toDayNumber_ofDayNumber]
  have sign : (if t.text.toList.head? = some '-' then -(t.date.year.natAbs : Int)
      else t.date.year.natAbs) = t.date.year := by
    simp only [Moment.toList_text, head?_yearText]
    split <;> omega
  simp only [microsOfText?, t.numbersIn_text, sign, number]

end FilterSql.Calendar
