import FilterSql.Decimal.Shortest

/-!
# Layout of decimals

Where the digits of a float go: positionally or with an exponent, with or without a decimal point
after an integer. A `Layout` holds the decisions of one output format.
-/

namespace FilterSql.Decimal

structure Layout where
  /-- Exponents of the leading digit that are written positionally, from the first one to below the
  second one; all of them if there is no such bound. -/
  positional : Option (Int × Int)
  /-- An integer is written with `.0` after it. -/
  pointZero : Bool
  /-- A positive exponent is written with its sign. -/
  plusSign : Bool
  tie : Tie
  deriving Repr

namespace Layout

def zeros (n : Nat) : List Char := List.replicate n '0'

def placePoint (l : Layout) (ds : List Char) (point : Int) : List Char :=
  if (ds.length : Int) ≤ point then
    ds ++ zeros (point.toNat - ds.length) ++ (if l.pointZero then ['.', '0'] else [])
  else if 0 < point then
    ds.take point.toNat ++ '.' :: ds.drop point.toNat
  else
    '0' :: '.' :: (zeros (-point).toNat ++ ds)

/-- One digit, the others after a point, and the exponent of the first. -/
def withExponent (l : Layout) (ds : List Char) (exponent : Int) : List Char :=
  let fraction := ds.drop 1
  let sign := if exponent < 0 then ['-'] else if l.plusSign then ['+'] else []
  ds.take 1 ++ (if fraction.isEmpty then [] else '.' :: fraction) ++ 'e' :: sign ++
    Nat.toDigits 10 exponent.natAbs

def magnitude (l : Layout) (x : Magnitude) : List Char :=
  if x.m = 0 then '0' :: (if l.pointZero then ['.', '0'] else [])
  else
    let d := (x.shortest l.tie).strip
    let ds := Nat.toDigits 10 d.digits
    let point := d.exp + ds.length
    match l.positional with
    | none => l.placePoint ds point
    | some (first, bound) =>
      if first ≤ point - 1 ∧ point - 1 < bound then l.placePoint ds point
      else l.withExponent ds (point - 1)

def text (l : Layout) : Reading → String
  | .nan => "NaN"
  | .infinite negative => if negative then "-inf" else "inf"
  | .finite negative x =>
    String.ofList ((if negative then ['-'] else []) ++ l.magnitude x)

end Layout

/-- Always positional, and no point after an integer: `0.1`, `100000000000000000000`. -/
def plain : Layout := ⟨none, false, false, .up⟩

end FilterSql.Decimal
