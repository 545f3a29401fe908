import Mathlib.Tactic.ByContra
import FilterSql.Text.Ascii
import FilterSql.Text.Lowercase

/-!
# Lowercase and ASCII

Only one character beyond ASCII is lowered into ASCII: the Kelvin sign, to a `k`. So lowercasing and
`asciiLower` agree about a name that has no `k`: what is lowered to it are its spellings in either
case of the ASCII letters (`lowercase_eq_iff`).
-/

namespace FilterSql.Text

def kelvinSign : Char := Char.ofNat 0x212A

-- ---------------------------------------------------------------------------
-- Single characters
-- ---------------------------------------------------------------------------

theorem toLower_of_beyond {c : Char} (h : 0x80 ≤ c.toNat) : c.toLower = c := by
  unfold Char.toLower
  rw [dif_neg]
  rintro ⟨-, upper⟩
  have small : c.toNat ≤ 0x5A := upper
  omega

/-- Apart from that of the Kelvin sign, the case pairs lead to characters beyond ASCII. -/
theorem caseRuns_beyond : ∀ r ∈ caseRuns, r.first = 0x212A ∧ r.last = 0x212A ∨
    0x80 ≤ r.first + r.shift ∧
      (r.last + r.shift < 0xD800 ∨ 0xDFFF < r.first + r.shift ∧ r.last + r.shift < 0x110000) := by
  decide +kernel

theorem lowered?_beyond {n m : Nat} (h : lowered? n = some m) (kelvin : n ≠ 0x212A) :
    0x80 ≤ (Char.ofNat m).toNat := by
  obtain ⟨r, hr, rfl⟩ := Option.map_eq_some_iff.mp h
  have member := List.find?_some hr
  simp only [CaseRun.mem, Bool.and_eq_true, decide_eq_true_eq] at member
  rcases caseRuns_beyond r (List.mem_of_find?_eq_some hr) with single | ⟨least, greatest⟩
  · omega
  · have valid : (r.lower n).isValidChar := by
      unfold CaseRun.lower Nat.isValidChar
      omega
    have value : (Char.ofNat (r.lower n)).toNat = r.lower n := by
      rw [Char.ofNat, dif_pos valid]
      rfl
    rw [value]
    unfold CaseRun.lower
    omega

theorem exists_beyond_lowerChar {c : Char} (h : 0x80 ≤ c.toNat) (kelvin : c ≠ kelvinSign) :
    ∃ d ∈ lowerChar c, 0x80 ≤ d.toNat := by
  unfold lowerChar
  rw [if_neg (Nat.not_lt.mpr h)]
  split
  · exact ⟨Char.ofNat 0x307, by simp, by decide⟩
  · split
    · rename_i m hm
      refine ⟨Char.ofNat m, List.mem_singleton_self _, lowered?_beyond hm fun heq => kelvin ?_⟩
      rw [kelvinSign, ← heq, Char.ofNat_toNat]
    · exact ⟨c, List.mem_singleton_self c, h⟩

theorem lowerChar_kelvinSign : lowerChar kelvinSign = ['k'] := by decide +kernel

-- ---------------------------------------------------------------------------
-- Texts
-- ---------------------------------------------------------------------------

/-- A text that is lowered to ASCII without a `k` has no character beyond ASCII. -/
theorem ascii_of_lowerChars {before cs : List Char}
    (h : ∀ d ∈ lowerChars before cs, d.toNat < 0x80 ∧ d ≠ 'k') : ∀ c ∈ cs, c.toNat < 0x80 := by
  induction cs generalizing before with
  | nil => exact fun c hc => nomatch hc
  | cons c rest ih =>
    simp only [lowerChars, List.mem_append] at h
    have tail := ih fun d hd => h d (.inr hd)
    have head : c.toNat < 0x80 := by
      by_contra beyond
      rw [Nat.not_lt] at beyond
      by_cases sigma : c = capitalSigma
      · have small := (h (lowerSigma before rest) (.inl (by simp [sigma]))).1
        unfold lowerSigma at small
        split at small
        · exact absurd small (by decide)
        · exact absurd small (by decide)
      · rw [if_neg sigma] at h
        by_cases kelvin : c = kelvinSign
        · rw [kelvin, lowerChar_kelvinSign] at h
          exact (h 'k' (.inl (List.mem_singleton_self _))).2 rfl
        · obtain ⟨d, hd, large⟩ := exists_beyond_lowerChar beyond kelvin
          exact absurd (h d (.inl hd)).1 (Nat.not_lt.mpr large)
    intro d hd
    rcases List.mem_cons.mp hd with rfl | hd
    · exact head
    · exact tail d hd

/-- The texts that are lowered to an ASCII name without a `k` are its spellings in ASCII. -/
theorem lowercase_eq_iff {name : String} (plain : ∀ c ∈ name.toList, c.toNat < 0x80 ∧ c ≠ 'k')
    (word : String) : lowercase word = name ↔ asciiLower word = name := by
  unfold lowercase asciiLower
  rw [← String.toList_inj, ← String.toList_inj, String.toList_ofList, String.toList_ofList]
  constructor
  · intro h
    rw [← lowerChars_eq_map [] (ascii_of_lowerChars (h ▸ plain)), h]
  · intro h
    have ascii : ∀ c ∈ word.toList, c.toNat < 0x80 := by
      intro c hc
      by_contra beyond
      rw [Nat.not_lt] at beyond
      have lowered := List.mem_map_of_mem (f := Char.toLower) hc
      rw [h, toLower_of_beyond beyond] at lowered
      exact absurd (plain c lowered).1 (Nat.not_lt.mpr beyond)
    rw [lowerChars_eq_map [] ascii, h]

/-- The Kelvin sign is why the name may have no `k`. -/
example : lowercase (String.ofList [kelvinSign]) = "k" ∧
    asciiLower (String.ofList [kelvinSign]) ≠ "k" := by
  decide +kernel

end FilterSql.Text
