/-!
# Binary floating point numbers as exact values

`Reading` takes the bits of a float apart: a finite one is a sign and a natural number times a power
of two. Everything else about decimal text is done on that exact value.
-/

namespace FilterSql.Decimal

/-- The non-negative value `m * 2 ^ q`. -/
structure Magnitude where
  m : Nat
  q : Int
  /-- The gap to the float below is half the gap to the float above. -/
  narrowBelow : Bool
  deriving DecidableEq, Repr

def twoTo (exp : Int) : Nat := Nat.pow 2 exp.toNat

def tenTo (exp : Int) : Nat := Nat.pow 10 exp.toNat

inductive Reading where
  | nan
  | infinite (negative : Bool)
  | finite (negative : Bool) (x : Magnitude)
  deriving DecidableEq, Repr

namespace Reading

def ofBits (exponentBits fractionBits bits : Nat) : Reading :=
  let fractions := Nat.pow 2 fractionBits
  let exponents := Nat.pow 2 exponentBits
  let fraction := bits % fractions
  let exponent := bits / fractions % exponents
  let negative := bits / (fractions * exponents) % 2 = 1
  let least : Int := 2 - (exponents / 2 : Nat) - fractionBits
  if exponent = exponents - 1 then
    if fraction = 0 then .infinite negative else .nan
  else if exponent = 0 then
    .finite negative ⟨fraction, least, false⟩
  else
    -- A zero fraction is a power of two, and the floats below one lie half as far apart.
    .finite negative
      ⟨fractions + fraction, least + exponent - 1, fraction = 0 && exponent > 1⟩

def ofFloat (x : Float) : Reading := ofBits 11 52 x.toBits.toNat

def ofFloat32 (x : Float32) : Reading := ofBits 8 23 x.toBits.toNat

/-- The value cut to an integer, toward zero; nothing for an infinity or a missing number. -/
def truncate? : Reading → Option Int
  | .finite negative x =>
    let n : Nat := x.m * twoTo x.q / twoTo (-x.q)
    some (if negative then -n else n)
  | _ => none

def isFinite : Reading → Bool
  | .finite .. => true
  | _ => false

end Reading

end FilterSql.Decimal
