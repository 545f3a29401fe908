/-!
# The Gregorian calendar

Dates of the proleptic Gregorian calendar and their day numbers, counted from 1 January 1970. Years
may be zero or negative.
-/

namespace FilterSql.Calendar

structure Date where
  year : Int
  month : Nat
  day : Nat
  deriving DecidableEq, Repr

def isLeapYear (year : Int) : Bool := year % 4 = 0 && (year % 100 ≠ 0 || year % 400 = 0)

def daysInMonth (year : Int) : Nat → Nat
  | 2 => if isLeapYear year then 29 else 28
  | 4 | 6 | 9 | 11 => 30
  | _ => 31

namespace Date

def Valid (d : Date) : Prop :=
  1 ≤ d.month ∧ d.month ≤ 12 ∧ 1 ≤ d.day ∧ d.day ≤ daysInMonth d.year d.month

instance (d : Date) : Decidable d.Valid := by unfold Valid; infer_instance

def next (d : Date) : Date :=
  if d.day < daysInMonth d.year d.month then { d with day := d.day + 1 }
  else if d.month < 12 then ⟨d.year, d.month + 1, 1⟩
  else ⟨d.year + 1, 1, 1⟩

/-- The day number. Years are taken to start in March, so that a leap day is the last of its year;
a block of 400 years has 146097 days. -/
def toDayNumber (d : Date) : Int :=
  let year := if d.month ≤ 2 then d.year - 1 else d.year
  let era := year / 400
  let yearOfEra := year % 400
  let monthOfYear : Int := if d.month ≤ 2 then d.month + 9 else d.month - 3
  let dayOfYear := (153 * monthOfYear + 2) / 5 + d.day - 1
  let dayOfEra := yearOfEra * 365 + yearOfEra / 4 - yearOfEra / 100 + dayOfYear
  era * 146097 + dayOfEra - 719468

def ofDayNumber (n : Int) : Date :=
  let era := (n + 719468) / 146097
  let dayOfEra := (n + 719468) % 146097
  -- Without its leap days a block would have 365 days in every year.
  let yearOfEra := (dayOfEra - dayOfEra / 1460 + dayOfEra / 36524 - dayOfEra / 146096) / 365
  let dayOfYear := dayOfEra - (365 * yearOfEra + yearOfEra / 4 - yearOfEra / 100)
  -- From March on, every five months have 153 days.
  let monthOfYear := (5 * dayOfYear + 2) / 153
  let day := dayOfYear - (153 * monthOfYear + 2) / 5 + 1
  let month := if monthOfYear < 10 then monthOfYear + 3 else monthOfYear - 9
  ⟨yearOfEra + era * 400 + (if month ≤ 2 then 1 else 0), month.toNat, day.toNat⟩

end Date

def padded (width n : Nat) : String :=
  let ds := Nat.toDigits 10 n
  String.ofList (List.replicate (width - ds.length) '0' ++ ds)

/-- Four digits, with a sign outside the years 0 to 9999: `0044`, `-0001`, `+10000`. -/
def yearText (year : Int) : String :=
  if 0 ≤ year ∧ year ≤ 9999 then padded 4 year.toNat
  else (if year < 0 then "-" else "+") ++ padded 4 year.natAbs

def Date.text (d : Date) : String :=
  yearText d.year ++ "-" ++ padded 2 d.month ++ "-" ++ padded 2 d.day

example : Date.ofDayNumber 0 = ⟨1970, 1, 1⟩ := by decide

example : (⟨2000, 2, 29⟩ : Date).toDayNumber = 11016 := by decide

/-! ## Days and instants as text

Both are counted from the start of 1 January 1970, an instant in microseconds. Only the years from
-262143 to 262142 are covered; a day or an instant outside of them has no text. -/

def firstDay : Int := (⟨-262143, 1, 1⟩ : Date).toDayNumber

def lastDay : Int := (⟨262142, 12, 31⟩ : Date).toDayNumber

def Covered (day : Int) : Prop := firstDay ≤ day ∧ day ≤ lastDay

instance (day : Int) : Decidable (Covered day) := by unfold Covered; infer_instance

def dayText? (day : Int) : Option String :=
  if Covered day then some (Date.ofDayNumber day).text else none

def microsPerSecond : Nat := 1000000

def microsPerDay : Nat := 86400 * microsPerSecond

def timeText (micros : Nat) : String :=
  let seconds := micros / microsPerSecond
  padded 2 (seconds / 3600) ++ ":" ++ padded 2 (seconds / 60 % 60) ++ ":" ++
    padded 2 (seconds % 60) ++
    "." ++ padded 6 (micros % microsPerSecond)

/-- `YYYY-MM-DDTHH:MM:SS.ffffffZ`. -/
def instantText? (micros : Int) : Option String :=
  (dayText? (micros / microsPerDay)).map fun day =>
    day ++ "T" ++ timeText (micros % microsPerDay).toNat ++ "Z"

end FilterSql.Calendar
