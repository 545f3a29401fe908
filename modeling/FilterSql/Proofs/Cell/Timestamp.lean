import FilterSql.Cell.Json
import FilterSql.Proofs.Calendar.Moment

/-!
# Timestamps as texts

`timestamp_keeps_instant`: the text of a timestamp is the moment that it stands for. Cutting a count
of seconds or milliseconds to what 64 bits hold in microseconds does no harm, for what is cut is not
covered anyway: `instantText?_clamp`.
-/

namespace FilterSql

/-- The timestamp in microseconds, however many these are. Nanoseconds are rounded toward zero. -/
def TimeUnit.exactMicros (unit : TimeUnit) (count : Int) : Int :=
  match unit with
  | second => count * 1000000
  | millisecond => count * 1000
  | microsecond => count
  | nanosecond => count.tdiv 1000

theorem TimeUnit.toInt_micros (unit : TimeUnit) (count : Int64) : (unit.micros count).toInt =
    max Int64.minValue.toInt (min (unit.exactMicros count.toInt) Int64.maxValue.toInt) := by
  have low := count.minValue_le_toInt
  have high := count.toInt_le
  cases unit with
  | second => exact toInt_saturated _
  | millisecond => exact toInt_saturated _
  | microsecond =>
    simp only [micros, exactMicros]
    omega
  | nanosecond =>
    have least : Int64.minValue.toInt = -9223372036854775808 := by decide
    have greatest : Int64.maxValue.toInt = 9223372036854775807 := by decide
    have shorter : (count.toInt.tdiv 1000).natAbs = count.toInt.natAbs / 1000 := Int.natAbs_tdiv ..
    simp only [micros, exactMicros]
    rw [Int64.toInt_ofInt_of_le (by omega) (by omega)]
    omega

namespace Calendar

theorem instantText?_of_not_covered (h : ¬ Covered (micros / microsPerDay)) :
    instantText? micros = none := by
  simp [instantText?, dayText?, h]

theorem instantText?_clamp (micros : Int) :
    instantText? (max Int64.minValue.toInt (min micros Int64.maxValue.toInt)) =
      instantText? micros := by
  have least : Int64.minValue.toInt = -9223372036854775808 := by decide
  have greatest : Int64.maxValue.toInt = 9223372036854775807 := by decide
  have first := firstDay_eq
  have last := lastDay_eq
  have day : (microsPerDay : Int) = 86400000000 := by decide
  by_cases hfits : Int64.minValue.toInt ≤ micros ∧ micros ≤ Int64.maxValue.toInt
  · rw [Int.min_eq_left hfits.2, Int.max_eq_right hfits.1]
  · rw [instantText?_of_not_covered, instantText?_of_not_covered] <;>
      · rw [Covered, day]
        omega

end Calendar

namespace Cell

open Calendar

theorem toJson?_timestamp (unit : TimeUnit) (count : Int64) : toJson? (.timestamp unit count) =
    some (((instantText? (unit.exactMicros count.toInt)).map Json.string).getD .null) := by
  rw [toJson?, timestampJson, TimeUnit.toInt_micros, instantText?_clamp]

/-- A timestamp of any unit is written as the one moment that is so long after the start of 1970, if
the year of that moment is covered. The text says how long, and does not depend on the unit. -/
theorem timestamp_keeps_instant (unit : TimeUnit) (count : Int64) :
    (∃ t : Moment, (∀ other : Moment, other.At (unit.exactMicros count.toInt) ↔ other = t) ∧
      toJson? (.timestamp unit count) = some (
        if -262143 ≤ t.date.year ∧ t.date.year ≤ 262142 then .string t.text else .null) ∧
      microsOfText? t.text = some (unit.exactMicros count.toInt)) ∧
    ∀ unit' count', unit'.exactMicros count'.toInt = unit.exactMicros count.toInt →
      toJson? (.timestamp unit' count') = toJson? (.timestamp unit count) := by
  refine ⟨⟨.ofMicros (unit.exactMicros count.toInt), fun other => other.at_iff _, ?_, ?_⟩, ?_⟩
  · rw [toJson?_timestamp, instantText?_eq]
    split <;> rfl
  · exact microsOfText?_text ((Moment.at_iff _ _).mpr rfl)
  · intro unit' count' same
    rw [toJson?_timestamp, toJson?_timestamp, same]

/-- A millisecond before 1970 is in the last second of 1969, in whichever unit it is counted. -/
theorem timestamp_keeps_instant_lastOf1969 :
    toJson? (.timestamp .millisecond (-1)) = some (.string "1969-12-31T23:59:59.999000Z") ∧
      toJson? (.timestamp .millisecond (-1)) = toJson? (.timestamp .microsecond (-1000)) := by
  refine ⟨?_, (timestamp_keeps_instant .microsecond (-1000)).2 _ _ (by decide)⟩
  have text : instantText? (TimeUnit.millisecond.exactMicros (-1 : Int64).toInt) =
      some "1969-12-31T23:59:59.999000Z" := by decide
  rw [toJson?_timestamp, text]
  rfl

end Cell

end FilterSql
