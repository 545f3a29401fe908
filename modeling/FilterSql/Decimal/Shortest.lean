import FilterSql.Decimal.Binary

/-!
# Shortest decimals

The fewest decimal digits that read back to a given float, found by trying one grid of decimals
after another in exact arithmetic. A decimal reads back to a float if it lies among the reals that
round to it, which is an interval around the float's value; of two candidates on a grid the nearer
one wins.
-/

namespace FilterSql.Decimal

/-- The non-negative value `digits * 10 ^ exp`. -/
structure Numeral where
  digits : Nat
  exp : Int
  deriving DecidableEq, Repr

/-- Which of two equally near candidates is written. -/
inductive Tie where
  | even
  | up
  deriving DecidableEq, Repr

/-- Compares `a * 10 ^ i` with `n * 2 ^ j`. -/
def compareScaled (a : Nat) (i : Int) (n : Nat) (j : Int) : Ordering :=
  compare (a * tenTo i * twoTo (-j)) (n * twoTo j * tenTo (-i))

namespace Magnitude

/-- Whether the decimal rounds to the float. The ends of the interval belong to it if `m` is even.
-/
def readsBack (x : Magnitude) (d : Numeral) : Bool :=
  let lowEnd := if x.narrowBelow then 4 * x.m - 1 else 4 * x.m - 2
  let low := compareScaled d.digits d.exp lowEnd (x.q - 2)
  let high := compareScaled d.digits d.exp (4 * x.m + 2) (x.q - 2)
  let closed := x.m % 2 == 0
  (low == .gt || (closed && low == .eq)) && (high == .lt || (closed && high == .eq))

/-- The number of digits before the decimal point: the least `k` with the value below `10 ^ k`. -/
def scale (x : Magnitude) : Int :=
  -- The decimal logarithm of two is 0.30103, so the answer lies one or two above the guess, and a
  -- rounding error in that number moves it by one at most.
  let guess : Int := (x.q + x.m.log2) * 30103 / 100000
  let fits (k : Int) : Bool := compareScaled 1 k x.m x.q == .gt
  ([guess - 1, guess, guess + 1].find? fits).getD (guess + 2)

def floorAt (x : Magnitude) (exp : Int) : Nat :=
  x.m * twoTo x.q * tenTo (-exp) / (tenTo exp * twoTo (-x.q))

/-- The decimal with last digit at `10 ^ exp` that reads back and is nearest to the value. -/
def onGrid? (x : Magnitude) (tie : Tie) (exp : Int) : Option Numeral :=
  let below : Numeral := ⟨x.floorAt exp, exp⟩
  let above : Numeral := ⟨below.digits + 1, exp⟩
  match x.readsBack below, x.readsBack above with
  | false, false => none
  | true, false => some below
  | false, true => some above
  | true, true =>
    match compareScaled (2 * below.digits + 1) exp (2 * x.m) x.q, tie with
    | .gt, _ => some below
    | .lt, _ => some above
    | .eq, .up => some above
    | .eq, .even => some (if below.digits % 2 = 0 then below else above)

def exact (x : Magnitude) : Numeral :=
  if 0 ≤ x.q then ⟨x.m * twoTo x.q, 0⟩ else ⟨x.m * Nat.pow 5 (-x.q).toNat, x.q⟩

/-- Seventeen digits suffice for 64 bits; the exact value stands in case they do not. -/
def shortest (x : Magnitude) (tie : Tie) : Numeral :=
  let k := x.scale
  ((List.range' 1 17).findSome? fun (n : Nat) => x.onGrid? tie (k - n)).getD x.exact

end Magnitude

def Numeral.stripUpTo (d : Numeral) : (count : Nat) → Numeral
  | 0 => d
  | count + 1 =>
    if d.digits % 10 = 0 ∧ d.digits ≠ 0 then stripUpTo ⟨d.digits / 10, d.exp + 1⟩ count else d

/-- Without trailing zeros; a number has fewer of them than it has binary digits. -/
def Numeral.strip (d : Numeral) : Numeral := d.stripUpTo d.digits.log2

theorem Magnitude.readsBack_of_onGrid? {x : Magnitude} {tie : Tie} {exp : Int} {d : Numeral}
    (h : x.onGrid? tie exp = some d) : x.readsBack d = true := by
  unfold Magnitude.onGrid? at h
  dsimp only at h
  split at h
  · cases h
  · cases h; assumption
  · cases h; assumption
  · split at h <;> first | (cases h; assumption) | (split at h <;> (cases h; assumption))

end FilterSql.Decimal
