import FilterSql.Decimal.Binary
import FilterSql.Text.DecimalDigit

/-!
# Decimal literals

Reading a decimal number from text: a sign, digits with an optional point before, between or after
them, an optional exponent, or one of the words `inf`, `infinity` and `nan` in any letter case. The
value is the float nearest to the number as written.
-/

namespace FilterSql.Decimal

open Text

inductive Literal where
  | nan
  | infinite (negative : Bool)
  | finite (negative : Bool) (digits : Nat) (exp : Int)
  deriving DecidableEq, Repr

namespace Literal

def sign : List Char → Bool × List Char
  | '-' :: cs => (true, cs)
  | '+' :: cs => (false, cs)
  | cs => (false, cs)

/-- The exponent after the digits: nothing counts as zero. -/
def exponent? : List Char → Option Int
  | [] => some 0
  | mark :: cs =>
    let (negative, ds) := sign cs
    if (mark = 'e' ∨ mark = 'E') ∧ ds ≠ [] ∧ ds.all isAsciiDigit then
      some (if negative then -(digitsValue ds : Int) else digitsValue ds)
    else none

def fraction : List Char → List Char × List Char
  | '.' :: cs => cs.span isAsciiDigit
  | cs => ([], cs)

def unsigned? (negative : Bool) (cs : List Char) : Option Literal := do
  let (whole, rest) := cs.span isAsciiDigit
  let (places, rest) := fraction rest
  if whole ++ places = [] then none
  else
    let exp ← exponent? rest
    some (.finite negative (digitsValue (whole ++ places)) (exp - places.length))

def word? (negative : Bool) (cs : List Char) : Option Literal :=
  let word := cs.map Char.toLower
  if word = ['n', 'a', 'n'] then some .nan
  else if word = ['i', 'n', 'f'] ∨ word = ['i', 'n', 'f', 'i', 'n', 'i', 't', 'y'] then
    some (.infinite negative)
  else none

def read? (s : String) : Option Literal :=
  let (negative, cs) := sign s.toList
  (word? negative cs).or (unsigned? negative cs)

def toFloat : Literal → Float
  | .nan => 0 / 0
  | .infinite negative => if negative then -(1 / 0) else 1 / 0
  | .finite negative digits exp =>
    let x := Float.ofScientific digits (exp < 0) exp.natAbs
    if negative then -x else x

def toFloat32 : Literal → Float32
  | .nan => 0 / 0
  | .infinite negative => if negative then -(1 / 0) else 1 / 0
  | .finite negative digits exp =>
    let x := Float32.ofScientific digits (exp < 0) exp.natAbs
    if negative then -x else x

end Literal

end FilterSql.Decimal
