import FilterSql.Proofs.Cell.Integer
import FilterSql.Proofs.Json.NumberText

/-!
# The texts of numbers

The text of an integer is a number, which has its value if it is one of 64 bits
(`exists_parts_integer`). The text of
a finite float is a number with a fraction or an exponent (`exists_parts_float`), so it is read as a
float (`value?_of_fractional`), though not always as the same one.
-/

namespace FilterSql.Decimal

-- ---------------------------------------------------------------------------
-- Digits
-- ---------------------------------------------------------------------------

variable {x : Magnitude} {d : Numeral}

/-- Zero reads back to no other value. -/
theorem Magnitude.digits_ne_zero_of_readsBack (positive : x.m ≠ 0) (h : x.readsBack d = true) :
    d.digits ≠ 0 := by
  intro zero
  have low : compareScaled d.digits d.exp (if x.narrowBelow then 4 * x.m - 1 else 4 * x.m - 2)
      (x.q - 2) = .lt := by
    unfold compareScaled
    rw [zero, Nat.zero_mul, Nat.zero_mul, Nat.compare_eq_lt]
    have lowEnd : 0 < if x.narrowBelow then 4 * x.m - 1 else 4 * x.m - 2 := by
      split <;> omega
    exact Nat.mul_pos (Nat.mul_pos lowEnd (Nat.pow_pos (by decide))) (Nat.pow_pos (by decide))
  simp [readsBack, low] at h

theorem Magnitude.digits_shortest_ne_zero (positive : x.m ≠ 0) (tie : Tie) :
    (x.shortest tie).digits ≠ 0 := by
  unfold shortest
  dsimp only
  cases h : (List.range' 1 17).findSome? fun (n : Nat) => x.onGrid? tie (x.scale - n) with
  | none =>
    rw [Option.getD_none, exact]
    split
    · exact Nat.mul_ne_zero positive (Nat.pow_pos (by decide)).ne'
    · exact Nat.mul_ne_zero positive (Nat.pow_pos (by decide)).ne'
  | some found =>
    obtain ⟨n, -, hn⟩ := List.exists_of_findSome?_eq_some h
    exact digits_ne_zero_of_readsBack positive (readsBack_of_onGrid? hn)

theorem Numeral.digits_strip_ne_zero (h : d.digits ≠ 0) : d.strip.digits ≠ 0 := by
  unfold strip
  generalize d.digits.log2 = count
  induction count generalizing d with
  | zero => exact h
  | succ count ih =>
    unfold stripUpTo
    split
    · exact ih (d := ⟨d.digits / 10, d.exp + 1⟩) (by dsimp only; omega)
    · exact h

-- ---------------------------------------------------------------------------
-- Finite floats
-- ---------------------------------------------------------------------------

namespace Reading

open Float.Model

theorem isFinite_ofBits_iff {exponentBits fractionBits bits : Nat} :
    (ofBits exponentBits fractionBits bits).isFinite = true ↔
      bits / 2 ^ fractionBits % 2 ^ exponentBits ≠ 2 ^ exponentBits - 1 := by
  unfold ofBits
  dsimp only
  split
  · have top : bits / 2 ^ fractionBits % 2 ^ exponentBits = 2 ^ exponentBits - 1 := ‹_›
    split <;> simp [isFinite, top]
  · have below : bits / 2 ^ fractionBits % 2 ^ exponentBits ≠ 2 ^ exponentBits - 1 := ‹_›
    split <;> simp [isFinite, below]

theorem isFinite_unpack_iff {format : Format} {bits : BitVec format.numBits} :
    (UnpackedFloat.unpack format bits).isFinite = true ↔
      UnpackedFloat.unpackExponent bits ≠ -1#_ := by
  unfold UnpackedFloat.unpack
  by_cases top : UnpackedFloat.unpackExponent bits = -1#_
  · rw [if_pos top]
    split <;> exact iff_of_false Bool.false_ne_true (not_not_intro top)
  · rw [if_neg top]
    refine iff_of_true ?_ top
    by_cases least : UnpackedFloat.unpackExponent bits = 0#_
    · rw [if_pos least]
      by_cases zero : UnpackedFloat.unpackMantissa bits = 0#_
      · rw [dif_pos zero]
        rfl
      · rw [dif_neg zero]
        rfl
    · rw [if_neg least]
      rfl

theorem isFinite_ofFloat (x : Float) : (ofFloat x).isFinite = x.isFinite := by
  have exponent : (@UnpackedFloat.unpackExponent .binary64 x.toBits.toBitVec).toNat =
      x.toBits.toNat / 2 ^ 52 % 2 ^ 11 := by
    simp [UnpackedFloat.unpackExponent, Nat.shiftRight_eq_div_pow, Format.binary64]
  have unpacked : x.isFinite = (UnpackedFloat.unpack .binary64 x.toBits.toBitVec).isFinite := rfl
  rw [Bool.eq_iff_iff, ofFloat, isFinite_ofBits_iff, unpacked, isFinite_unpack_iff, ← exponent,
    ne_eq, ne_eq, ← BitVec.toNat_inj]
  rfl

end Reading

end FilterSql.Decimal

namespace FilterSql.Json

open Text Decimal

namespace NumberText

-- ---------------------------------------------------------------------------
-- The values of parts
-- ---------------------------------------------------------------------------

theorem accumulate_of_lt {cs : List Char} {start : Nat}
    (h : Nat.ofDigitChars 10 cs start < UInt64.size) :
    accumulate start cs = (Nat.ofDigitChars 10 cs start, []) := by
  induction cs generalizing start with
  | nil => rfl
  | cons c cs ih =>
    rw [Nat.ofDigitChars_cons] at h ⊢
    have room : 10 * start + (c.toNat - 0x30) < UInt64.size := by
      refine Nat.lt_of_le_of_lt ?_ h
      rw [Nat.ofDigitChars_eq_ofDigitChars_zero]
      exact Nat.le_add_right_of_le (Nat.le_mul_of_pos_left _ (Nat.pow_pos (by decide)))
    rw [accumulate, if_pos room]
    exact ih h

theorem value?_integer {n : Int} {cs : List Char} (fits : fitsInt64 n = true)
    (numeral : FilterSql.Numeral n.natAbs cs) :
    value? ⟨decide (n < 0), cs, none, none⟩ = some (.integer n) := by
  have low : Int64.minValue.toInt = -9223372036854775808 := by decide
  have high : Int64.maxValue.toInt = 9223372036854775807 := by decide
  have size : UInt64.size = 18446744073709551616 := rfl
  have bounds := fits
  simp only [fitsInt64, Bool.and_eq_true, decide_eq_true_eq] at bounds
  have all : accumulate 0 cs = (n.natAbs, []) := by
    have value : Nat.ofDigitChars 10 cs 0 = n.natAbs := numeral.value
    rw [accumulate_of_lt (by omega), value]
  unfold value?
  simp only [all]
  by_cases negative : n < 0
  · have same : -(n.natAbs : Int) = n := by omega
    rw [if_neg (by simp [negative]), same,
      if_pos ⟨by simp, Int.natAbs_pos.mpr negative.ne, fits⟩]
  · have same : (n.natAbs : Int) = n := by omega
    simp [negative, same]

def Fractional (t : NumberText) : Prop := t.fraction ≠ none ∨ t.exponent ≠ none

/-- What the digits come to in float arithmetic, with the sign. -/
def signed? (t : NumberText) : Option Float := t.float?.map fun x => if t.negative then -x else x

theorem value?_of_fractional {t : NumberText} (h : t.Fractional) :
    t.value? = t.signed?.map .float := by
  have integral : ¬ (t.fraction.isNone = true ∧ t.exponent.isNone = true ∧
      (accumulate 0 t.whole).2 = []) := by
    rintro ⟨fraction, exponent, -⟩
    rw [Option.isNone_iff_eq_none] at fraction exponent
    exact h.elim (absurd fraction) (absurd exponent)
  unfold value?
  simp only [integral, false_and, if_false, signed?, Option.map_map]
  rfl

end NumberText

namespace Number

-- ---------------------------------------------------------------------------
-- Integers of 64 bits
-- ---------------------------------------------------------------------------

theorem fitsInt64_toInt (i : Int64) : fitsInt64 i.toInt = true := by
  rw [fitsInt64, Bool.and_eq_true, decide_eq_true_eq, decide_eq_true_eq]
  exact ⟨i.minValue_le_toInt, i.toInt_le⟩

theorem int64?_eq_some_iff {n : Number} {i : Int64} :
    n.int64? = some i ↔ n = .integer i.toInt := by
  constructor
  · intro h
    cases n with
    | float x => cases h
    | integer k =>
      rw [int64?, Option.ite_none_right_eq_some] at h
      obtain ⟨fits, found⟩ := h
      rw [fitsInt64, Bool.and_eq_true, decide_eq_true_eq, decide_eq_true_eq] at fits
      obtain rfl := Option.some.inj found
      rw [Int64.toInt_ofInt_of_le fits.1 (Int.lt_of_le_of_lt fits.2 (by decide))]
  · rintro rfl
    rw [int64?, if_pos (fitsInt64_toInt i), Int64.ofInt_toInt]

theorem int64?_eq_none_iff {n : Number} :
    n.int64? = none ↔ (∃ x, n = .float x) ∨ ∃ k, fitsInt64 k = false ∧ n = .integer k := by
  cases n with
  | float x => simp [int64?]
  | integer k => simp [int64?]

-- ---------------------------------------------------------------------------
-- Layouts
-- ---------------------------------------------------------------------------

/-- The characters are those of a number without a sign that has a fraction or an exponent. -/
def FloatText (cs : List Char) : Prop :=
  ∃ t : NumberText, t.WellFormed ∧ t.Fractional ∧ t.negative = false ∧ t.chars = cs

theorem allDigits_zeros (n : Nat) : AllDigits (Layout.zeros n) := by
  intro c hc
  rw [List.eq_of_mem_replicate hc]
  rfl

theorem zero_digits : AllDigits ['0'] ∧ ['0'] ≠ [] := ⟨allDigits_zeros 1, List.cons_ne_nil _ _⟩

theorem floatText_placePoint {ds : List Char} (digits : AllDigits ds) (hne : ds ≠ [])
    (lead : ds.head? ≠ some '0') (point : Int) : FloatText (layout.placePoint ds point) := by
  unfold Layout.placePoint
  split
  · refine ⟨⟨false, ds ++ Layout.zeros (point.toNat - ds.length), some ['0'], none⟩,
      ⟨⟨digits.append (allDigits_zeros _), by simp [hne]⟩, ?_, ?_, by simp⟩,
      .inl (Option.some_ne_none _), rfl, ?_⟩
    · obtain ⟨d, ds, rfl⟩ := List.exists_cons_of_ne_nil hne
      exact fun zero => absurd zero lead
    · rintro _ ⟨⟩
      exact zero_digits
    · simp [NumberText.chars, layout]
  · split
    · have inside : 0 < point.toNat ∧ point.toNat < ds.length := by omega
      have part : ∀ cs, cs ⊆ ds → AllDigits cs := fun cs sub c hc => digits c (sub hc)
      refine ⟨⟨false, ds.take point.toNat, some (ds.drop point.toNat), none⟩,
        ⟨⟨part _ (List.take_subset ..), by simp [hne]; omega⟩, ?_, ?_, by simp⟩,
        .inl (Option.some_ne_none _), rfl, ?_⟩
      · intro zero
        rw [List.head?_take, if_neg inside.1.ne'] at zero
        exact absurd zero lead
      · rintro _ ⟨⟩
        exact ⟨part _ (List.drop_subset ..), by simp; omega⟩
      · simp [NumberText.chars]
    · refine ⟨⟨false, ['0'], some (Layout.zeros (-point).toNat ++ ds), none⟩,
        ⟨zero_digits, fun _ => rfl, ?_, by simp⟩, .inl (Option.some_ne_none _), rfl, ?_⟩
      · rintro _ ⟨⟩
        exact ⟨(allDigits_zeros _).append digits, by simp [hne]⟩
      · simp [NumberText.chars]

theorem floatText_withExponent {ds : List Char} (digits : AllDigits ds) (hne : ds ≠ [])
    (lead : ds.head? ≠ some '0') (exponent : Int) :
    FloatText (layout.withExponent ds exponent) := by
  obtain ⟨d, rest, rfl⟩ := List.exists_cons_of_ne_nil hne
  refine ⟨⟨false, [d], if rest = [] then none else some rest,
    some (decide (exponent < 0), Nat.toDigits 10 exponent.natAbs)⟩,
    ⟨⟨?_, List.cons_ne_nil _ _⟩, fun zero => absurd zero lead, ?_, ?_⟩,
    .inr (Option.some_ne_none _), rfl, ?_⟩
  · intro c hc
    exact digits c (by simpa using .inl (List.mem_singleton.mp hc))
  · intro fraction hfraction
    split at hfraction
    · cases hfraction
    · cases hfraction
      exact ⟨digits.tail, ‹_›⟩
  · rintro _ ⟨⟩
    exact ⟨allDigits_toDigits _, Nat.toDigits_ne_nil⟩
  · cases rest <;> by_cases negative : exponent < 0 <;>
      simp [NumberText.chars, Layout.withExponent, layout, negative]

theorem floatText_magnitude (x : Magnitude) : FloatText (layout.magnitude x) := by
  unfold Layout.magnitude
  split
  · refine ⟨⟨false, ['0'], some ['0'], none⟩, ⟨zero_digits, fun _ => rfl, ?_, by simp⟩,
      .inl (Option.some_ne_none _), rfl, rfl⟩
    rintro _ ⟨⟩
    exact zero_digits
  · have nonzero : ((x.shortest layout.tie).strip).digits ≠ 0 :=
      Decimal.Numeral.digits_strip_ne_zero (Magnitude.digits_shortest_ne_zero ‹_› _)
    have numeral := numeral_toDigits ((x.shortest layout.tie).strip).digits
    have lead : (Nat.toDigits 10 ((x.shortest layout.tie).strip).digits).head? ≠ some '0' := by
      intro zero
      have value := numeral.value
      rw [numeral.short zero] at value
      exact nonzero value.symm
    dsimp only [layout]
    split
    · exact floatText_placePoint numeral.digits numeral.nonempty lead _
    · exact floatText_withExponent numeral.digits numeral.nonempty lead _

-- ---------------------------------------------------------------------------
-- The parts of a text
-- ---------------------------------------------------------------------------

theorem exists_parts_integer (n : Int) :
    ∃ t : NumberText, t.WellFormed ∧ t.chars = (Number.integer n).text.toList ∧
      (fitsInt64 n = true → t.value? = some (.integer n)) := by
  obtain ⟨cs, numeral, hcs⟩ := decimalText_toString n
  refine ⟨⟨decide (n < 0), cs, none, none⟩,
    ⟨⟨numeral.digits, numeral.nonempty⟩, numeral.short, nofun, nofun⟩, ?_,
    fun fits => NumberText.value?_integer fits numeral⟩
  rw [text, hcs]
  simp [NumberText.chars]

theorem exists_parts_float {x : Float} (finite : x.isFinite = true) :
    ∃ t : NumberText, t.WellFormed ∧ t.Fractional ∧ t.chars = (Number.float x).text.toList := by
  have reading : (Reading.ofFloat x).isFinite = true := (Reading.isFinite_ofFloat x).trans finite
  obtain ⟨negative, m, hx⟩ : ∃ negative m, Reading.ofFloat x = .finite negative m := by
    cases hx : Reading.ofFloat x with
    | nan | infinite => rw [hx] at reading; cases reading
    | finite negative m => exact ⟨negative, m, rfl⟩
  obtain ⟨t, wf, fractional, unsigned, chars⟩ := floatText_magnitude m
  refine ⟨{ t with negative }, ⟨wf.whole, wf.short, wf.fraction, wf.exponent⟩, fractional, ?_⟩
  rw [text, hx, Layout.text, ← chars, String.toList_ofList]
  simp [NumberText.chars, unsigned]

end Number

end FilterSql.Json
