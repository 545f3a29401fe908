import Mathlib.Data.List.TakeWhile
import FilterSql.Proofs.Query.DateSpelling

/-!
# One form for every date

`normalizeDate?_form`: a text with the shape of a date is rewritten to `YYYY-MM-DD`, the same for
all the ways to write the date, and any other text is trimmed. What comes out is left as it is when
it is rewritten again. The calendar has no part in this, and neither has the script of the digits.
-/

namespace FilterSql.Query

open Text DateText

def Blank (cs : List Char) : Prop := ∀ c ∈ cs, isWhiteSpace c = true

structure Stripped (s : String) : Prop where
  first : ∀ c ∈ s.toList.head?, isWhiteSpace c = false
  last : ∀ c ∈ s.toList.getLast?, isWhiteSpace c = false

/-- The digits of a date in one of the three spellings, of whatever script. -/
def DateShaped (s : String) : Prop :=
  ∃ year month day, Spelling year month day s.toList ∧ DateFigures year month day

/-- The digits as they are, or one digit after a zero. -/
inductive ZeroPadded (cs : List Char) : List Char → Prop
  | same : ZeroPadded cs cs
  | zero (single : cs.length = 1) : ZeroPadded cs ('0' :: cs)

/-- A way to write a date: one of the spellings, the month and the day padded or not, white space
around it. -/
inductive Writing (year month day : List Char) : String → Prop
  | intro (hmonth : ZeroPadded month month') (hday : ZeroPadded day day')
      (spelling : Spelling year month' day' cs) (hbefore : Blank before) (hafter : Blank after) :
      Writing year month day (String.ofList (before ++ cs ++ after))

-- ---------------------------------------------------------------------------
-- White space
-- ---------------------------------------------------------------------------

theorem trim_eq_empty_iff : trim s = "" ↔ Blank s.toList := by
  have first := List.head?_dropWhile_not isWhiteSpace s.toList
  rw [← String.toList_inj, toList_trim, trimChars, String.toList_empty, List.reverse_eq_nil_iff,
    List.dropWhile_eq_nil_iff]
  constructor
  · intro blank
    cases h : s.toList.dropWhile isWhiteSpace with
    | nil => exact List.dropWhile_eq_nil_iff.mp h
    | cons c rest =>
      -- What is left at the front is not white space.
      rw [h] at blank first
      have front := blank c (by simp)
      simp [front] at first
  · intro blank
    rw [List.dropWhile_eq_nil_iff.mpr blank]
    simp

theorem stripped_trim (s : String) : Stripped (trim s) where
  first := by
    rw [toList_trim]
    exact isWhiteSpace_head?_trimChars _
  last := by
    rw [toList_trim]
    exact isWhiteSpace_getLast?_trimChars _

theorem trim_of_visible (h : ∀ c ∈ cs, isWhiteSpace c = false) (hbefore : Blank before)
    (hafter : Blank after) : trim (String.ofList (before ++ cs ++ after)) = String.ofList cs := by
  rw [trim, String.toList_ofList, trimChars_append hbefore hafter
    (fun c hc => h c (List.mem_of_mem_head? hc)) fun c hc => h c (List.mem_of_getLast? hc)]

-- ---------------------------------------------------------------------------
-- Two digits
-- ---------------------------------------------------------------------------

theorem twoDigits_eq_leftpad : twoDigits cs = cs.leftpad 2 '0' := rfl

theorem twoDigits_of_length (h : cs.length = 2) : twoDigits cs = cs := by
  simp [twoDigits, h]

theorem ZeroPadded.twoDigits_eq (h : ZeroPadded cs cs') : twoDigits cs' = twoDigits cs := by
  cases h with
  | same => rfl
  | zero single => simp [twoDigits, single]

theorem ZeroPadded.allDecimal (h : ZeroPadded cs cs') (digits : AllDecimal cs) :
    AllDecimal cs' := by
  cases h with
  | same => exact digits
  | zero => exact List.forall_mem_cons.mpr ⟨by decide, digits⟩

theorem ZeroPadded.length_cases (h : ZeroPadded cs cs') (length : cs.length = 1 ∨ cs.length = 2) :
    cs'.length = 1 ∨ cs'.length = 2 := by
  cases h with
  | same => exact length
  | zero single => exact .inr (by simp [single])

theorem zeroPadded_twoDigits (h : cs.length = 1 ∨ cs.length = 2) :
    ZeroPadded cs (twoDigits cs) := by
  rcases h with single | two
  · have padded : twoDigits cs = '0' :: cs := by simp [twoDigits, single]
    rw [padded]
    exact .zero single
  · rw [twoDigits_of_length two]
    exact .same

theorem DateFigures.padded (figures : DateFigures year month day) (hmonth : ZeroPadded month month')
    (hday : ZeroPadded day day') : DateFigures year month' day' where
  yearLength := figures.yearLength
  monthLength := hmonth.length_cases figures.monthLength
  dayLength := hday.length_cases figures.dayLength
  yearDecimal := figures.yearDecimal
  monthDecimal := hmonth.allDecimal figures.monthDecimal
  dayDecimal := hday.allDecimal figures.dayDecimal

-- ---------------------------------------------------------------------------
-- Rewriting
-- ---------------------------------------------------------------------------

theorem canonical_eq_intercalate (year month day : List Char) :
    Parts.canonical ⟨year, month, day⟩ =
      ['-'].intercalate [year, twoDigits month, twoDigits day] := by
  simp [Parts.canonical, List.intercalate]

/-- What has the shape of a date is rewritten, and the result has the first of the three. -/
theorem DateShaped.normalizeChars_eq (h : DateShaped s) : ∃ year month day,
    normalizeChars s.toList = ['-'].intercalate [year, month, day] ∧
      DateFigures year month day ∧ month.length = 2 ∧ day.length = 2 := by
  obtain ⟨year, month, day, spelling, figures⟩ := h
  refine ⟨year, twoDigits month, twoDigits day, ?_, ?_, length_twoDigits figures.monthLength,
    length_twoDigits figures.dayLength⟩
  · rw [normalizeChars_of_spelling figures spelling, canonical_eq_intercalate]
  · exact figures.padded (zeroPadded_twoDigits figures.monthLength)
      (zeroPadded_twoDigits figures.dayLength)

theorem normalizeChars_of_not_dateShaped (h : ¬ DateShaped s) :
    normalizeChars s.toList = s.toList := by
  cases hparts : parts? s.toList with
  | none => rw [normalizeChars, hparts]
  | some p => exact absurd ⟨_, _, _, parts?_eq_some hparts⟩ h

theorem dateShaped_of_isCanonicalDate (h : isCanonicalDate s = true) : DateShaped s := by
  obtain ⟨year, month, day, text, figures, -, -⟩ := isCanonicalDate_iff.mp h
  exact ⟨year, month, day, text ▸ .yearFirst, figures⟩

theorem normalizeDate?_of_isCanonicalDate (h : isCanonicalDate s = true) :
    normalizeDate? s = some s := by
  obtain ⟨year, month, day, text, figures, hmonth, hday⟩ := isCanonicalDate_iff.mp h
  have spelling : Spelling year month day s.toList := text ▸ .yearFirst
  have trimmed := trimChars_of_visible (spelling.visible figures)
  refine normalizeDate?_eq_some_iff.mpr ⟨Spelling.trim_ne_empty figures (by rwa [trimmed]), ?_⟩
  rw [trimmed, normalizeChars_of_spelling figures spelling, canonical_eq_intercalate,
    twoDigits_of_length hmonth, twoDigits_of_length hday, ← text, String.ofList_toList]

theorem normalizeDate?_cases (h : normalizeDate? s = some t) :
    DateShaped (trim s) ∧ isCanonicalDate t = true ∨ ¬ DateShaped (trim s) ∧ t = trim s := by
  obtain ⟨-, rfl⟩ := normalizeDate?_eq_some_iff.mp h
  rw [← toList_trim]
  by_cases shaped : DateShaped (trim s)
  · obtain ⟨year, month, day, text, figures, hmonth, hday⟩ := shaped.normalizeChars_eq
    refine .inl ⟨shaped, isCanonicalDate_iff.mpr ⟨year, month, day, ?_, figures, hmonth, hday⟩⟩
    rw [String.toList_ofList, text]
  · refine .inr ⟨shaped, ?_⟩
    rw [normalizeChars_of_not_dateShaped shaped, String.ofList_toList]

theorem normalizeDate?_trim (s : String) : normalizeDate? (trim s) = normalizeDate? s := by
  rw [normalizeDate?, normalizeDate?, trimmed?, trimmed?, trim_trim]

theorem normalizeDate?_idempotent (h : normalizeDate? s = some t) :
    normalizeDate? t = some t := by
  rcases normalizeDate?_cases h with ⟨-, canonical⟩ | ⟨-, rfl⟩
  · exact normalizeDate?_of_isCanonicalDate canonical
  · rw [normalizeDate?_trim, h]

theorem stripped_of_normalizeDate? (h : normalizeDate? s = some t) : Stripped t := by
  rcases normalizeDate?_cases h with ⟨-, canonical⟩ | ⟨-, rfl⟩
  · obtain ⟨year, month, day, spelling, figures⟩ := dateShaped_of_isCanonicalDate canonical
    have visible := spelling.visible figures
    exact ⟨fun c hc => visible c (List.mem_of_mem_head? hc),
      fun c hc => visible c (List.mem_of_getLast? hc)⟩
  · exact stripped_trim s

theorem normalizeDate?_eq_none_iff : normalizeDate? s = none ↔ Blank s.toList := by
  rw [normalizeDate?, Option.map_eq_none_iff, trimmed?_eq_none_iff, trim_eq_empty_iff]

theorem Writing.normalizeDate?_eq (figures : DateFigures year month day)
    (h : Writing year month day s) : normalizeDate? s = some (String.ofList
      (['-'].intercalate [year, month.leftpad 2 '0', day.leftpad 2 '0'])) := by
  cases h with
  | intro hmonth hday spelling hbefore hafter =>
    rename_i month' day' cs before after
    have figures' := figures.padded hmonth hday
    have written := trim_of_visible (spelling.visible figures') hbefore hafter
    rw [← normalizeDate?_trim, written]
    have trimmed := trimChars_of_visible (spelling.visible figures')
    refine normalizeDate?_eq_some_iff.mpr
      ⟨Spelling.trim_ne_empty figures' (by rwa [String.toList_ofList, trimmed]), ?_⟩
    rw [String.toList_ofList, trimmed, normalizeChars_of_spelling figures' spelling,
      canonical_eq_intercalate, hmonth.twoDigits_eq, hday.twoDigits_eq,
      twoDigits_eq_leftpad, twoDigits_eq_leftpad]

/-- Only blank text has no form. The form of a text is stripped and its own form, and it is a
canonical date exactly if the text has the shape of a date; otherwise the text is only trimmed. All
writings of a date have the same form. -/
theorem normalizeDate?_form :
    (∀ s, normalizeDate? s = none ↔ Blank s.toList) ∧
    (∀ s t, normalizeDate? s = some t →
      Stripped t ∧ normalizeDate? t = some t ∧
      (isCanonicalDate t = true ↔ DateShaped (trim s)) ∧ (¬ DateShaped (trim s) → t = trim s)) ∧
    ∀ year month day, DateFigures year month day → ∀ s, Writing year month day s →
      normalizeDate? s = some (String.ofList
        (['-'].intercalate [year, month.leftpad 2 '0', day.leftpad 2 '0'])) := by
  refine ⟨fun s => normalizeDate?_eq_none_iff, fun s t h => ?_,
    fun year month day figures s writing => writing.normalizeDate?_eq figures⟩
  refine ⟨stripped_of_normalizeDate? h, normalizeDate?_idempotent h, ?_⟩
  rcases normalizeDate?_cases h with ⟨shaped, canonical⟩ | ⟨shapeless, rfl⟩
  · exact ⟨by simp [shaped, canonical], fun shapeless => absurd shaped shapeless⟩
  · refine ⟨⟨fun canonical => ?_, fun shaped => absurd shaped shapeless⟩, fun _ => rfl⟩
    exact dateShaped_of_isCanonicalDate canonical

/-- The fifth of January, written three ways. -/
example : normalizeDate? "5-1-2024" = some "2024-01-05" ∧
    normalizeDate? "\t01/5/2024 " = some "2024-01-05" ∧
    normalizeDate? "2024-1-05" = some "2024-01-05" := by
  decide +kernel

/-- Only the zero of the ASCII digits pads: another zero is a digit like any other. -/
example : normalizeDate? "٢٠٢٤-٠١-٠٥" = some "٢٠٢٤-٠١-٠٥" ∧
    normalizeDate? "٢٠٢٤-١-٥" = some "٢٠٢٤-0١-0٥" := by
  decide +kernel

end FilterSql.Query
