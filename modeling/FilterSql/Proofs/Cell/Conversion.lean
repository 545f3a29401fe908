import FilterSql.Proofs.Cell.Timestamp
import FilterSql.Proofs.Outcome

/-!
# Which cells have a JSON form

Lists and arrays are converted item by item, `exists_of_at?`, and all that stands in the way of a
form are dates outside the calendar, `exists_toJson?_iff`. `conversionLaw_iff`: every cell without
such a date has a form, and its dates are null where timestamps of the same day are; the dates
outside the calendar, whose timestamps are null, have none.
-/

namespace FilterSql

-- ---------------------------------------------------------------------------
-- Places in nested lists
-- ---------------------------------------------------------------------------

namespace Json

def items? : Json → Option (List Json)
  | .array items => some items
  | _ => none

def at? : List Nat → Json → Option Json
  | [], j => some j
  | i :: path, j => (j.items?.bind (·[i]?)).bind (at? path)

end Json

namespace Cell

open Calendar

def items? : Cell → Option (List Cell)
  | .list items | .array items => some items
  | _ => none

/-- What is found by going from a list or an array to one of its items, and so on. -/
def at? : List Nat → Cell → Option Cell
  | [], c => some c
  | i :: path, c => (c.items?.bind (·[i]?)).bind (at? path)

theorem at?_cons_eq_some_iff {c : Cell} : c.at? (i :: path) = some d ↔
    ∃ items e, c.items? = some items ∧ items[i]? = some e ∧ e.at? path = some d := by
  simp only [at?, Option.bind_eq_some_iff]
  constructor
  · rintro ⟨e, ⟨items, hitems, he⟩, hd⟩
    exact ⟨items, e, hitems, he, hd⟩
  · rintro ⟨items, e, hitems, he, hd⟩
    exact ⟨e, ⟨items, hitems, he⟩, hd⟩

-- ---------------------------------------------------------------------------
-- Item by item
-- ---------------------------------------------------------------------------

theorem itemsJson?_eq_some_iff : itemsJson? items = some js ↔
    List.Forall₂ (fun c j => toJson? c = some j) items js := by
  induction items generalizing js with
  | nil => rw [itemsJson?, Option.some.injEq, List.forall₂_nil_left_iff, eq_comm]
  | cons c items ih =>
    simp only [itemsJson?, Option.bind_eq_bind, Option.bind_eq_some_iff, Option.some.injEq, ih,
      List.forall₂_cons_left_iff]
    constructor
    · rintro ⟨j, hj, js, hjs, rfl⟩
      exact ⟨j, js, hj, hjs, rfl⟩
    · rintro ⟨j, js, hj, hjs, rfl⟩
      exact ⟨j, hj, js, hjs, rfl⟩

theorem toJson?_of_items {c : Cell} (h : c.items? = some items) :
    toJson? c = (itemsJson? items).map .array := by
  cases c with
  | list | array =>
    obtain rfl := Option.some.inj h
    rw [toJson?]
  | _ => cases h

theorem exists_of_items {c : Cell} (hitems : c.items? = some items) (h : toJson? c = some j) :
    ∃ js, j = .array js ∧ List.Forall₂ (fun d k => toJson? d = some k) items js := by
  rw [toJson?_of_items hitems, Option.map_eq_some_iff] at h
  obtain ⟨js, hjs, rfl⟩ := h
  exact ⟨js, rfl, itemsJson?_eq_some_iff.mp hjs⟩

/-- Wherever something is in a cell, the form of the cell has its form. -/
theorem exists_of_at? (h : toJson? c = some j) (hd : c.at? path = some d) :
    ∃ k, toJson? d = some k ∧ j.at? path = some k := by
  induction path generalizing c j with
  | nil =>
    obtain rfl := Option.some.inj hd
    exact ⟨j, h, rfl⟩
  | cons i path ih =>
    obtain ⟨items, e, hitems, he, hd⟩ := at?_cons_eq_some_iff.mp hd
    obtain ⟨js, rfl, each⟩ := exists_of_items hitems h
    obtain ⟨hi, rfl⟩ := List.getElem?_eq_some_iff.mp he
    have hi' : i < js.length := each.length_eq ▸ hi
    obtain ⟨k, hk, hplace⟩ := ih (each.get hi hi') hd
    refine ⟨k, hk, ?_⟩
    rw [Json.at?, Json.items?, Option.bind_some, List.getElem?_eq_getElem hi', Option.bind_some]
    exact hplace

-- ---------------------------------------------------------------------------
-- Dates
-- ---------------------------------------------------------------------------

def InCalendar (c : Cell) : Prop :=
  ∀ path days, c.at? path = some (.date days) → Covered days.toInt

theorem InCalendar.item {c : Cell} (h : c.InCalendar) (hitems : c.items? = some items)
    (hd : d ∈ items) : d.InCalendar := by
  intro path days hdate
  obtain ⟨i, hi⟩ := List.mem_iff_getElem?.mp hd
  exact h (i :: path) days (at?_cons_eq_some_iff.mpr ⟨items, d, hitems, hi, hdate⟩)

theorem toJson?_date (days : Int32) : toJson? (.date days) =
    if Covered days.toInt then some (.string (Date.ofDayNumber days.toInt).text) else none := by
  rw [toJson?, dayText?]
  split <;> rfl

mutual

theorem exists_toJson? (c : Cell) (h : c.InCalendar) : ∃ j, toJson? c = some j := by
  match c, h with
  | .date days, h =>
    rw [toJson?_date, if_pos (h [] days rfl)]
    exact ⟨_, rfl⟩
  | .list items, h =>
    obtain ⟨js, hjs⟩ := exists_itemsJson? items fun d hd => h.item rfl hd
    exact ⟨.array js, by rw [toJson?, hjs]; rfl⟩
  | .array items, h =>
    obtain ⟨js, hjs⟩ := exists_itemsJson? items fun d hd => h.item rfl hd
    exact ⟨.array js, by rw [toJson?, hjs]; rfl⟩
  | .null, _ | .boolean _, _ | .integer _, _ | .float _, _ | .double _, _ | .decimal _, _
  | .timestamp .., _ | .time .., _ | .interval .., _ | .text _, _ | .enum _, _ | .blob _, _
  | .geometry _, _ | .struct _, _ | .map _, _ | .union _, _ => exact ⟨_, rfl⟩

theorem exists_itemsJson? (items : List Cell) (h : ∀ d ∈ items, d.InCalendar) :
    ∃ js, itemsJson? items = some js := by
  match items with
  | [] => exact ⟨[], rfl⟩
  | c :: items =>
    obtain ⟨j, hj⟩ := exists_toJson? c (h c List.mem_cons_self)
    obtain ⟨js, hjs⟩ := exists_itemsJson? items fun d hd => h d (List.mem_cons_of_mem _ hd)
    exact ⟨j :: js, by rw [itemsJson?, hj, hjs]; rfl⟩

end

theorem exists_toJson?_iff {c : Cell} : (∃ j, toJson? c = some j) ↔ c.InCalendar := by
  constructor
  · rintro ⟨j, hj⟩ path days hdate
    obtain ⟨k, hk, -⟩ := exists_of_at? hj hdate
    rw [toJson?_date] at hk
    by_contra uncovered
    rw [if_neg uncovered] at hk
    cases hk
  · exact exists_toJson? c

-- ---------------------------------------------------------------------------
-- Days as timestamps
-- ---------------------------------------------------------------------------

def midnight (days : Int32) : Cell := .timestamp .second (86400 * days.toInt64)

theorem toInt_midnight (days : Int32) :
    (86400 * days.toInt64 : Int64).toInt = 86400 * days.toInt := by
  have low := days.minValue_le_toInt
  have high := days.toInt_le
  have least : Int32.minValue.toInt = -2147483648 := by decide
  have greatest : Int32.maxValue.toInt = 2147483647 := by decide
  have factor : (86400 : Int64).toInt = 86400 := by decide
  rw [Int64.toInt_mul, Int32.toInt_toInt64, factor]
  exact Int.bmod_eq_of_le (by omega) (by omega)

theorem toJson?_midnight (days : Int32) : toJson? (midnight days) = some .null ↔
    ¬ Covered days.toInt := by
  have start : TimeUnit.second.exactMicros (86400 * days.toInt64 : Int64).toInt / microsPerDay =
      days.toInt := by
    rw [toInt_midnight, TimeUnit.exactMicros]
    simp only [microsPerDay, microsPerSecond]
    omega
  rw [midnight, toJson?_timestamp, instantText?, start, dayText?]
  split <;> simp [*]

/-- The day, counted from 1 January 1970, is a date of the years from -262143 to 262142. -/
def InYears (days : Int) : Prop :=
  ∃ d : Date, Date.DaysAfter days .epoch d ∧ -262143 ≤ d.year ∧ d.year ≤ 262142

theorem inYears_iff : InYears days ↔ Covered days := by
  simp only [InYears, Date.daysAfter_epoch_iff, exists_eq_left, covered_iff_year]

/-- A cell has a JSON form, in which a date is null if it is outside the calendar, as the timestamp
of its day is. -/
structure ConversionLaw (c : Cell) : Prop where
  form : ∃ j, toJson? c = some j
  outside : ∀ path days, c.at? path = some (.date days) → ¬ InYears days.toInt →
    toJson? (.date days) = some .null
  like_midnight : ∀ path days, c.at? path = some (.date days) →
    (toJson? (.date days) = some .null ↔ toJson? (midnight days) = some .null)

/-- The law holds of the cells without a date outside the calendar. Such a date has no form at all,
instead of the null that its timestamp has. -/
theorem conversionLaw_iff (c : Cell) :
    (ConversionLaw c ↔
      ∀ path days, c.at? path = some (.date days) → InYears days.toInt) ∧
    ∀ days, toJson? (.date days) = none ↔ toJson? (midnight days) = some .null := by
  constructor
  · simp only [inYears_iff]
    constructor
    · intro law
      exact exists_toJson?_iff.mp law.form
    · intro inside
      refine ⟨exists_toJson?_iff.mpr inside, ?_, ?_⟩
      · intro path days hdate outside
        exact absurd (inYears_iff.mpr (inside path days hdate)) outside
      · intro path days hdate
        have covered := inside path days hdate
        rw [toJson?_date, if_pos covered, toJson?_midnight]
        simp [covered]
  · intro days
    rw [toJson?_date, toJson?_midnight]
    split <;> simp [*]

/-- The day that stands for an infinite date has no form, and a list that holds it has none either,
while its timestamp is null. -/
theorem not_conversionLaw_infinity :
    toJson? (.date 2147483647) = none ∧ toJson? (.list [.date 2147483647]) = none ∧
    toJson? (midnight 2147483647) = some .null ∧
    ¬ ConversionLaw (.date 2147483647) ∧ ¬ ConversionLaw (.list [.date 2147483647]) := by
  have uncovered : ¬ Covered (2147483647 : Int32).toInt := by decide
  have none_date : toJson? (.date 2147483647) = none := by
    rw [toJson?_date, if_neg uncovered]
  have none_list : toJson? (.list [.date 2147483647]) = none := by
    rw [toJson?, itemsJson?, none_date]
    rfl
  refine ⟨none_date, none_list, (toJson?_midnight _).mpr uncovered, fun law => ?_, fun law => ?_⟩
  · obtain ⟨j, hj⟩ := law.form
    cases none_date.symm.trans hj
  · obtain ⟨j, hj⟩ := law.form
    cases none_list.symm.trans hj

end Cell

end FilterSql
