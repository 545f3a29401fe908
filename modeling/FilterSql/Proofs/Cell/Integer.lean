import FilterSql.Proofs.Cell.Conversion

/-!
# Integers in cells

`keepsIntegers_iff`: as deep as they may be in lists and arrays, integers are written as equal
numbers, or as their digits, `DecimalText`, where they may not fit 64 bits. Only the integers of 128
bits without a sign are written in another way.
-/

namespace FilterSql

open Text

-- ---------------------------------------------------------------------------
-- Integers as texts
-- ---------------------------------------------------------------------------

/-- A numeral, after a minus sign if the number is negative. -/
def DecimalText (n : Int) (s : String) : Prop :=
  ∃ cs, Numeral n.natAbs cs ∧ s.toList = (if n < 0 then ['-'] else []) ++ cs

theorem decimalText_toString (n : Int) : DecimalText n (toString n) := by
  refine ⟨_, numeral_toDigits n.natAbs, ?_⟩
  have written : toString n = n.repr := rfl
  rw [written, Int.repr_eq_if]
  by_cases h : 0 ≤ n
  · have size : n.toNat = n.natAbs := by omega
    rw [if_pos h, if_neg (Int.not_lt.mpr h), Nat.toList_repr, size, List.nil_append]
  · have size : (-n).toNat = n.natAbs := by omega
    rw [if_neg h, if_pos (Int.not_le.mp h), String.toList_append, Nat.toList_repr, size]
    rfl

theorem not_decimalText (hs : s.toList = c :: cs) (digit : isAsciiDigit c = false)
    (minus : c ≠ '-') : ¬ DecimalText n s := by
  rintro ⟨ds, numeral, h⟩
  rw [hs] at h
  split at h
  · exact minus (List.cons.inj h).1
  · rw [List.nil_append] at h
    have first := numeral.digits c (h ▸ List.mem_cons_self)
    rw [digit] at first
    cases first

namespace Cell

-- ---------------------------------------------------------------------------
-- One integer
-- ---------------------------------------------------------------------------

/-- The JSON form of an integer is the number itself, or its digits if the type has 128 bits. -/
inductive WrittenInteger (n : SizedInteger) : Json → Prop
  | number : WrittenInteger n (.number (.integer n.value))
  | digits (wide : n.type.bits = 128) (text : DecimalText n.value s) : WrittenInteger n (.string s)

/-- The largest integers without a sign are described instead of being written. -/
theorem integerJson_uHugeInt {n : SizedInteger} (h : n.type = .uHugeInt) :
    integerJson n = .string ("UHugeInt" ++ "(" ++ toString n.value ++ ")") := by
  rw [integerJson, h]
  simp only [describe, h, tagged, IntegerType.label]

theorem writtenInteger_iff (n : SizedInteger) :
    WrittenInteger n (integerJson n) ↔ n.type ≠ .uHugeInt := by
  constructor
  · intro written huge
    rw [integerJson_uHugeInt huge] at written
    have described : ("UHugeInt" ++ "(" ++ toString n.value ++ ")").toList =
        'U' :: ("HugeInt(".toList ++ (toString n.value).toList ++ [')']) := by
      simp [String.toList_append]
    cases written with
    | digits wide text => exact not_decimalText described (by decide) (by decide) text
  · intro h
    unfold integerJson
    split
    · split
      · exact .number
      · exact .digits (by rw [‹n.type = _›]; rfl) (decimalText_toString n.value)
    · exact absurd ‹_› h
    · exact .number

-- ---------------------------------------------------------------------------
-- All integers in a cell
-- ---------------------------------------------------------------------------

/-- The JSON form has all integers where they are in the cell, and for every list and array it has
an array with the forms of as many items, in order. -/
structure KeepsIntegers (c : Cell) (j : Json) : Prop where
  integers : ∀ path n, c.at? path = some (.integer n) →
    ∃ k, j.at? path = some k ∧ WrittenInteger n k
  collections : ∀ path items, (c.at? path).bind items? = some items →
    ∃ js, j.at? path = some (.array js) ∧ List.Forall₂ (fun d k => toJson? d = some k) items js

/-- Cells keep their integers, unless there is one of 128 bits without a sign among them, or a date
that cannot be converted. -/
theorem keepsIntegers_iff (c : Cell) : (∃ j, toJson? c = some j ∧ KeepsIntegers c j) ↔
    (∀ path n, c.at? path = some (.integer n) → n.type ≠ .uHugeInt) ∧
      ∀ path days, c.at? path = some (.date days) → InYears days.toInt := by
  constructor
  · rintro ⟨j, hj, keeps⟩
    refine ⟨fun path n hn => ?_, fun path days hdate => ?_⟩
    · obtain ⟨k, hk, hplace⟩ := exists_of_at? hj hn
      obtain ⟨k', hplace', written⟩ := keeps.integers path n hn
      obtain rfl := Option.some.inj (hplace.symm.trans hplace')
      obtain rfl := Option.some.inj hk
      exact (writtenInteger_iff n).mp written
    · exact inYears_iff.mpr (exists_toJson?_iff.mp ⟨j, hj⟩ path days hdate)
  · rintro ⟨narrow, inside⟩
    obtain ⟨j, hj⟩ := exists_toJson?_iff.mpr fun path days hdate =>
      inYears_iff.mp (inside path days hdate)
    refine ⟨j, hj, fun path n hn => ?_, fun path items hitems => ?_⟩
    · obtain ⟨k, hk, hplace⟩ := exists_of_at? hj hn
      obtain rfl := Option.some.inj hk
      exact ⟨_, hplace, (writtenInteger_iff n).mpr (narrow path n hn)⟩
    · obtain ⟨d, hd, hitems⟩ := Option.bind_eq_some_iff.mp hitems
      obtain ⟨k, hk, hplace⟩ := exists_of_at? hj hd
      obtain ⟨js, rfl, each⟩ := exists_of_items hitems hk
      exact ⟨js, hplace, each⟩

def largestInteger : SizedInteger := ⟨.uHugeInt, 2 ^ 128 - 1, by decide⟩

/-- The text of the largest integer begins with the name of its type. -/
theorem not_keepsIntegers_largest :
    toJson? (.integer largestInteger) =
      some (.string "UHugeInt(340282366920938463463374607431768211455)") ∧
    ¬ ∃ j, toJson? (.integer largestInteger) = some j ∧
      KeepsIntegers (.integer largestInteger) j := by
  have form : integerJson largestInteger =
      .string "UHugeInt(340282366920938463463374607431768211455)" := by
    rw [integerJson_uHugeInt rfl]
    exact congrArg Json.string (by decide +kernel)
  refine ⟨congrArg some form, fun keeps => ?_⟩
  exact ((keepsIntegers_iff _).mp keeps).1 [] largestInteger rfl rfl

end Cell

end FilterSql
