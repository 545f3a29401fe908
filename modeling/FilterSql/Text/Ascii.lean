/-!
# ASCII letters and hexadecimal digits

Comparison of two texts in which only the ASCII letters count as having a case. Hexadecimal digits
are written with small letters and read in either case.
-/

namespace FilterSql.Text

/-- Replaces the ASCII capitals by small letters and leaves every other character alone. -/
def asciiLower (s : String) : String := String.ofList (s.toList.map Char.toLower)

def sameIgnoringAsciiCase (a b : String) : Bool :=
  a.toList.map Char.toLower == b.toList.map Char.toLower

theorem sameIgnoringAsciiCase_iff (a b : String) :
    sameIgnoringAsciiCase a b = true ↔ asciiLower a = asciiLower b := by
  simp [sameIgnoringAsciiCase, asciiLower, String.ofList_inj]

@[simp] theorem sameIgnoringAsciiCase_self (a : String) : sameIgnoringAsciiCase a a = true := by
  simp [sameIgnoringAsciiCase]

def hexDigit (n : Nat) : Char := if n < 10 then Char.ofNat (0x30 + n) else Char.ofNat (0x57 + n)

def hexValue? (c : Char) : Option Nat :=
  let n := c.toNat
  if 0x30 ≤ n ∧ n ≤ 0x39 then some (n - 0x30)
  else if 0x41 ≤ n ∧ n ≤ 0x46 then some (n - 0x37)
  else if 0x61 ≤ n ∧ n ≤ 0x66 then some (n - 0x57)
  else none

theorem hexValue?_hexDigit : ∀ n < 16, hexValue? (hexDigit n) = some n := by decide

end FilterSql.Text
