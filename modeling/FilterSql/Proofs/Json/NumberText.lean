import Mathlib.Data.List.TakeDrop
import FilterSql.Proofs.Calendar.DateText
import FilterSql.Proofs.Json.Atom

/-!
# Numbers as they are written

`NumberText.chars` writes the parts of a number down, and `spells_number` finds them again as they
were written.
-/

namespace FilterSql.Json

open Text

namespace NumberText

/-- The characters of a number. Its exponent always has a sign. -/
def chars (t : NumberText) : List Char :=
  (if t.negative then ['-'] else []) ++ t.whole ++
    (t.fraction.elim [] fun ds => '.' :: ds) ++
    t.exponent.elim [] fun e => 'e' :: (if e.1 then '-' else '+') :: e.2

/-- Every part has digits, and a zero in front stands alone. -/
structure WellFormed (t : NumberText) : Prop where
  whole : AllDigits t.whole ∧ t.whole ≠ []
  short : t.whole.head? = some '0' → t.whole = ['0']
  fraction : ∀ ds ∈ t.fraction, AllDigits ds ∧ ds ≠ []
  exponent : ∀ e ∈ t.exponent, AllDigits e.2 ∧ e.2 ≠ []

end NumberText

namespace Token

variable {ds rest : List Char}

theorem digits?_append (digits : AllDigits ds) (hne : ds ≠ [])
    (stop : ∀ c ∈ rest.head?, isAsciiDigit c = false) : digits? (ds ++ rest) = some (ds, rest) := by
  have take : (ds ++ rest).takeWhile isAsciiDigit = ds := by
    rw [List.takeWhile_append_of_pos digits]
    cases rest with
    | nil => simp
    | cons c cs => simp [stop c rfl]
  have drop : (ds ++ rest).dropWhile isAsciiDigit = rest := by
    rw [List.dropWhile_append_of_pos digits]
    cases rest with
    | nil => simp
    | cons c cs => simp [stop c rfl]
  obtain ⟨d, ds, rfl⟩ := List.exists_cons_of_ne_nil hne
  rw [digits?, List.span_eq_takeWhile_dropWhile, take, drop]

theorem whole?_append (digits : AllDigits ds) (hne : ds ≠ [])
    (short : ds.head? = some '0' → ds = ['0']) (stop : ∀ c ∈ rest.head?, isAsciiDigit c = false) :
    whole? (ds ++ rest) = some (ds, rest) := by
  by_cases zero : ds.head? = some '0'
  · rw [short zero, List.singleton_append, whole?, if_neg]
    simpa [Option.any_eq_true] using stop
  · rw [whole?, digits?_append digits hne stop]
    rintro cs hcs
    obtain ⟨d, ds, rfl⟩ := List.exists_cons_of_ne_nil hne
    rw [List.cons_append] at hcs
    obtain ⟨rfl, -⟩ := List.cons.inj hcs
    exact zero rfl

theorem fraction?_append {f : Option (List Char)} (digits : ∀ ds ∈ f, AllDigits ds ∧ ds ≠ [])
    (stop : ∀ c ∈ rest.head?, c ≠ '.' ∧ isAsciiDigit c = false) :
    fraction? ((f.elim [] fun ds => '.' :: ds) ++ rest) = some (f, rest) := by
  cases f with
  | none =>
    cases rest with
    | nil => rfl
    | cons c cs =>
      have other := (stop c rfl).1
      simp [fraction?, other]
  | some ds =>
    obtain ⟨all, hne⟩ := digits ds rfl
    have found := digits?_append all hne fun c hc => (stop c hc).2
    simp [fraction?, found]

theorem exponent?_append {e : Option (Bool × List Char)}
    (digits : ∀ d ∈ e, AllDigits d.2 ∧ d.2 ≠ [])
    (stop : ∀ c ∈ rest.head?, (c ≠ 'e' ∧ c ≠ 'E') ∧ isAsciiDigit c = false) :
    exponent? ((e.elim [] fun e => 'e' :: (if e.1 then '-' else '+') :: e.2) ++ rest) =
      some (e, rest) := by
  cases e with
  | none =>
    cases rest with
    | nil => rfl
    | cons c cs =>
      obtain ⟨small, capital⟩ := (stop c rfl).1
      simp [exponent?, small, capital]
  | some e =>
    obtain ⟨negative, ds⟩ := e
    obtain ⟨all, hne⟩ := digits _ rfl
    have found := digits?_append all hne fun c hc => (stop c hc).2
    cases negative <;> simp [exponent?, found]

theorem number?_append {t : NumberText} (wf : t.WellFormed) (ends : EndsValue rest) :
    number? (t.chars ++ rest) = some (t, rest) := by
  obtain ⟨negative, whole, f, e⟩ := t
  obtain ⟨⟨digits, hne⟩, short, fraction, exponent⟩ := wf
  have atEnd : ∀ c ∈ rest.head?, (c ≠ 'e' ∧ c ≠ 'E') ∧ c ≠ '.' ∧ isAsciiDigit c = false := by
    intro c hc
    obtain rfl | rfl | rfl := ends c hc <;> decide
  have afterFraction : ∀ c ∈ ((e.elim [] fun e => 'e' :: (if e.1 then '-' else '+') :: e.2) ++
      rest).head?, c ≠ '.' ∧ isAsciiDigit c = false := by
    cases e with
    | none => exact fun c hc => (atEnd c hc).2
    | some e => simp [isAsciiDigit]
  have afterWhole : ∀ c ∈ ((f.elim [] fun ds => '.' :: ds) ++
      ((e.elim [] fun e => 'e' :: (if e.1 then '-' else '+') :: e.2) ++ rest)).head?,
      isAsciiDigit c = false := by
    cases f with
    | none => exact fun c hc => (afterFraction c hc).2
    | some ds => simp [isAsciiDigit]
  have readWhole := whole?_append digits hne short afterWhole
  have readFraction := fraction?_append fraction afterFraction
  have readExponent := exponent?_append exponent fun c hc => ⟨(atEnd c hc).1, (atEnd c hc).2.2⟩
  cases negative with
  | true =>
    simp [number?, NumberText.chars, readWhole, readFraction, readExponent]
  | false =>
    obtain ⟨d, ds, rfl⟩ := List.exists_cons_of_ne_nil hne
    have unsigned : d ≠ '-' := by
      rintro rfl
      exact absurd (digits '-' List.mem_cons_self) (by decide)
    simp only [List.cons_append] at readWhole
    simp [number?, NumberText.chars, unsigned, readWhole, readFraction, readExponent]

theorem next?_of_digit {c : Char} (h : c = '-' ∨ isAsciiDigit c = true) (cs : List Char) :
    next? (c :: cs) = (number? (c :: cs)).map fun found => (.number found.1, found.2) := by
  unfold next?
  split <;> first
    | rfl
    | (rename_i heq
       obtain ⟨rfl, -⟩ := List.cons.inj heq
       exact absurd h (by decide))

theorem spells_number {t : NumberText} (wf : t.WellFormed) : Spells t.chars (.number t) := by
  obtain ⟨d, ds, hwhole⟩ := List.exists_cons_of_ne_nil wf.whole.2
  have digit : isAsciiDigit d = true := wf.whole.1 d (hwhole ▸ List.mem_cons_self)
  obtain ⟨c, cs, hchars, hc⟩ : ∃ c cs, t.chars = c :: cs ∧ (c = '-' ∨ isAsciiDigit c = true) := by
    cases negative : t.negative with
    | true => exact ⟨'-', _, by rw [NumberText.chars, negative]; rfl, .inl rfl⟩
    | false => exact ⟨d, _, by rw [NumberText.chars, negative, hwhole]; rfl, .inr digit⟩
  refine ⟨rfl, ?_, fun rest ends => ?_⟩
  · rw [hchars]
    rintro _ ⟨⟩
    by_contra blank
    simp only [Bool.not_eq_false, isBlank, Bool.or_eq_true, decide_eq_true_eq] at blank
    rcases blank with ((rfl | rfl) | rfl) | rfl <;> exact absurd hc (by decide)
  · have read := number?_append wf ends
    rw [hchars, List.cons_append] at read ⊢
    rw [next?_of_digit hc, read]
    rfl

end Token

end FilterSql.Json
