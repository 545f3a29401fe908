import FilterSql.Text.DecimalDigit
import Mathlib.Data.Nat.Digits.Defs
import Mathlib.Order.Defs.LinearOrder

/-!
# Decimal digits

As many digits on both sides sort as texts as their values do as numbers, `digits_lt_iff`, and every
number has just one numeral, `Numeral.unique`, which is how it is printed.
-/

namespace FilterSql.Text

-- ---------------------------------------------------------------------------
-- Digits
-- ---------------------------------------------------------------------------

def AllDigits (cs : List Char) : Prop := ∀ c ∈ cs, isAsciiDigit c = true

theorem AllDigits.head (h : AllDigits (c :: cs)) : 0x30 ≤ c.toNat ∧ c.toNat ≤ 0x39 := by
  simpa [isAsciiDigit] using h c List.mem_cons_self

theorem AllDigits.tail (h : AllDigits (c :: cs)) : AllDigits cs :=
  fun d hd => h d (List.mem_cons_of_mem _ hd)

theorem AllDigits.append (hcs : AllDigits cs) (hds : AllDigits ds) : AllDigits (cs ++ ds) :=
  fun d hd => (List.mem_append.mp hd).elim (hcs d) (hds d)

theorem allDigits_toDigits (n : Nat) : AllDigits (Nat.toDigits 10 n) := by
  intro c hc
  have digit : c.isDigit = true := Nat.isDigit_of_mem_toDigits (by decide) (by decide) hc
  simpa [Char.isDigit, isAsciiDigit, UInt32.le_iff_toNat_le] using digit

theorem char_lt_iff {c d : Char} : c < d ↔ c.toNat < d.toNat := by
  rw [Char.lt_def, UInt32.lt_iff_toNat_lt]
  rfl

theorem digitsValue_eq (cs : List Char) : digitsValue cs = Nat.ofDigitChars 10 cs 0 := rfl

theorem digitsValue_cons (c : Char) (cs : List Char) :
    digitsValue (c :: cs) = 10 ^ cs.length * (c.toNat - 0x30) + digitsValue cs := by
  have step : digitsValue (c :: cs) = Nat.ofDigitChars 10 cs (c.toNat - 0x30) := by
    simp [digitsValue_eq, Nat.ofDigitChars_cons]
  rw [step, Nat.ofDigitChars_eq_ofDigitChars_zero, digitsValue_eq]

theorem digitsValue_lt (h : AllDigits cs) : digitsValue cs < 10 ^ cs.length := by
  induction cs with
  | nil => simp [digitsValue]
  | cons c cs ih =>
    have rest := ih h.tail
    obtain ⟨-, hc⟩ := h.head
    have lead : 10 ^ cs.length * (c.toNat - 0x30) ≤ 10 ^ cs.length * 9 :=
      Nat.mul_le_mul_left _ (by omega)
    rw [digitsValue_cons, List.length_cons, Nat.pow_succ]
    omega

/-- As many digits on both sides sort as texts as their values do as numbers. -/
theorem digits_lt_iff (length : as.length = bs.length) (has : AllDigits as) (hbs : AllDigits bs) :
    as < bs ↔ digitsValue as < digitsValue bs := by
  induction as generalizing bs with
  | nil =>
    obtain rfl := List.eq_nil_of_length_eq_zero length.symm
    simp
  | cons a as ih =>
    obtain ⟨b, bs, rfl⟩ := List.exists_cons_of_length_eq_add_one length.symm
    have tails : as.length = bs.length := Nat.succ.inj length
    have low := digitsValue_lt has.tail
    have low' := digitsValue_lt hbs.tail
    obtain ⟨ha, -⟩ := has.head
    obtain ⟨hb, -⟩ := hbs.head
    rw [List.cons_lt_cons_iff, ih tails has.tail hbs.tail, char_lt_iff, digitsValue_cons,
      digitsValue_cons, ← tails]
    rw [← tails] at low'
    -- Where the first digits differ, the others do not make up for it.
    rcases Nat.lt_trichotomy a.toNat b.toNat with hlt | heq | hgt
    · have carry : 10 ^ as.length * (a.toNat - 0x30 + 1) ≤ 10 ^ as.length * (b.toNat - 0x30) :=
        Nat.mul_le_mul_left _ (by omega)
      rw [Nat.mul_add_one] at carry
      exact iff_of_true (.inl hlt) (by omega)
    · obtain rfl := Char.toNat_inj.mp heq
      simp
    · have carry : 10 ^ as.length * (b.toNat - 0x30 + 1) ≤ 10 ^ as.length * (a.toNat - 0x30) :=
        Nat.mul_le_mul_left _ (by omega)
      rw [Nat.mul_add_one] at carry
      refine iff_of_false ?_ (by omega)
      rintro (hlt | ⟨rfl, -⟩) <;> omega

theorem digits_eq_iff (length : as.length = bs.length) (has : AllDigits as) (hbs : AllDigits bs) :
    as = bs ↔ digitsValue as = digitsValue bs := by
  refine ⟨congrArg digitsValue, fun h => ?_⟩
  have before : ¬ as < bs := by
    rw [digits_lt_iff length has hbs]
    omega
  have after : ¬ bs < as := by
    rw [digits_lt_iff length.symm hbs has]
    omega
  exact List.le_antisymm (List.not_lt.mp after) (List.not_lt.mp before)

theorem append_lt_append_iff {as bs : List Char} (length : as.length = bs.length)
    (xs ys : List Char) : as ++ xs < bs ++ ys ↔ as < bs ∨ as = bs ∧ xs < ys := by
  induction as generalizing bs with
  | nil =>
    obtain rfl := List.eq_nil_of_length_eq_zero length.symm
    simp
  | cons a as ih =>
    obtain ⟨b, bs, rfl⟩ := List.exists_cons_of_length_eq_add_one length.symm
    simp only [List.cons_append, List.cons_lt_cons_iff, ih (Nat.succ.inj length), List.cons.injEq]
    tauto

end FilterSql.Text

namespace FilterSql

open Text

-- ---------------------------------------------------------------------------
-- Numerals
-- ---------------------------------------------------------------------------

/-- The digits of a number in the base ten, with no zero in front of others. -/
structure Numeral (n : Nat) (cs : List Char) : Prop where
  digits : AllDigits cs
  value : digitsValue cs = n
  nonempty : cs ≠ []
  short : cs.head? = some '0' → cs = ['0']

theorem numeral_toDigits (n : Nat) : Numeral n (Nat.toDigits 10 n) where
  digits := allDigits_toDigits n
  value := by rw [digitsValue_eq, Nat.ofDigitChars_ten_toDigits]
  nonempty := Nat.toDigits_ne_nil
  short := by
    intro zero
    obtain ⟨rest, hdigits⟩ := List.head?_eq_some_iff.mp zero
    by_contra longer
    have positive : 0 < rest.length := by
      rw [List.length_pos_iff]
      rintro rfl
      exact longer hdigits
    -- A zero in front adds nothing, so fewer digits would have done.
    have value : n = digitsValue rest := by
      have whole : digitsValue (Nat.toDigits 10 n) = n := Nat.ofDigitChars_ten_toDigits
      rw [hdigits, digitsValue_cons] at whole
      simpa using whole.symm
    have small : n < 10 ^ rest.length := by
      rw [value]
      exact digitsValue_lt (hdigits ▸ allDigits_toDigits n).tail
    have fewer := (Nat.length_toDigits_le_iff (by decide) positive).mpr small
    rw [hdigits, List.length_cons] at fewer
    omega

theorem Numeral.length_le (h : Numeral n cs) (h' : Numeral n ds) : cs.length ≤ ds.length := by
  obtain ⟨c, rest, rfl⟩ := List.exists_cons_of_ne_nil h.nonempty
  by_cases zero : c = '0'
  · rw [h.short (congrArg some zero)]
    exact List.length_pos_iff.mpr h'.nonempty
  · obtain ⟨low, -⟩ := h.digits.head
    have lead : 1 ≤ c.toNat - 0x30 := by
      have other : c.toNat ≠ 0x30 := fun same => zero (Char.toNat_inj.mp same)
      omega
    have small : 10 ^ rest.length < 10 ^ ds.length := by
      calc 10 ^ rest.length
          ≤ 10 ^ rest.length * (c.toNat - 0x30) := Nat.le_mul_of_pos_right _ lead
        _ ≤ digitsValue (c :: rest) := by rw [digitsValue_cons]; exact Nat.le_add_right _ _
        _ = digitsValue ds := h.value.trans h'.value.symm
        _ < 10 ^ ds.length := digitsValue_lt h'.digits
    exact (Nat.pow_lt_pow_iff_right (by decide)).mp small

theorem Numeral.unique (h : Numeral n cs) (h' : Numeral n ds) : cs = ds :=
  (digits_eq_iff (Nat.le_antisymm (h.length_le h') (h'.length_le h)) h.digits h'.digits).mpr
    (h.value.trans h'.value.symm)

end FilterSql
