import FilterSql.Text.Lowercase.Table
import FilterSql.Text.WordContext

/-!
# Lowercase

Full Unicode lowercasing. It is not a map of characters: U+0130 becomes two of them, and a capital
sigma becomes the final form at the end of a word.
-/

namespace FilterSql.Text

/-- The lowercase form of one character, away from the end of a word. -/
def lowerChar (c : Char) : List Char :=
  if c.toNat < 0x80 then [c.toLower]
  else if c.toNat = 0x130 then ['i', Char.ofNat 0x307]
  else match lowered? c.toNat with
    | some n => [Char.ofNat n]
    | none => [c]

def capitalSigma : Char := Char.ofNat 0x3A3

def lowerSigma (before after : List Char) : Char :=
  if startsCased before && !startsCased after then Char.ofNat 0x3C2 else Char.ofNat 0x3C3

/-- Lowers a text whose part before it, read backwards, is `before`. -/
def lowerChars (before : List Char) : List Char → List Char
  | [] => []
  | c :: rest =>
    (if c = capitalSigma then [lowerSigma before rest] else lowerChar c) ++
      lowerChars (c :: before) rest

def lowercase (s : String) : String := String.ofList (lowerChars [] s.toList)

theorem lowerChars_eq_map {cs : List Char} (before : List Char) (ascii : ∀ c ∈ cs, c.toNat < 0x80) :
    lowerChars before cs = cs.map Char.toLower := by
  induction cs generalizing before with
  | nil => rfl
  | cons c rest ih =>
    have hc : c.toNat < 0x80 := ascii c (by simp)
    have sigma : c ≠ capitalSigma := by
      intro h
      rw [h] at hc
      exact absurd hc (by decide)
    have low : lowerChar c = [c.toLower] := by simp [lowerChar, hc]
    simp [lowerChars, sigma, low, ih (c :: before) fun d hd => ascii d (by simp [hd])]

end FilterSql.Text
