/-!
# Machine words

What fits into a machine word and into memory, and the nearest signed integer of 64 bits. The numbers
of the library are exact; where one would not fit, the work that needs it is given up.
-/

namespace FilterSql

/-- The nearest signed integer of 64 bits. -/
def saturated (n : Int) : Int64 :=
  Int64.ofInt (max Int64.minValue.toInt (min n Int64.maxValue.toInt))

theorem toInt_saturated (n : Int) :
    (saturated n).toInt = max Int64.minValue.toInt (min n Int64.maxValue.toInt) := by
  have low : Int64.minValue.toInt = -9223372036854775808 := by decide
  have high : Int64.maxValue.toInt = 9223372036854775807 := by decide
  unfold saturated
  exact Int64.toInt_ofInt_of_le (by omega) (by omega)

def fitsInt64 (n : Int) : Bool := Int64.minValue.toInt ≤ n && n ≤ Int64.maxValue.toInt

namespace Capacity

def fitsWord (n : Nat) : Bool := n < UInt64.size

/-- How many things of so many bytes memory has room for. Addresses take half of the words. -/
def room (bytes : Nat) : Nat := (UInt64.size / 2 - 1) / bytes

end Capacity

end FilterSql
