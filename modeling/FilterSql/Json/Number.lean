import FilterSql.Decimal.Layout
import FilterSql.MachineWord
import FilterSql.Text.DecimalDigit

/-!
# JSON numbers

A number is an integer of 64 bits or a float. `NumberText.value?` reads the text of one: what has
neither fraction nor exponent and fits 64 bits is an integer, all else a float. A float is scaled
from the leading digits that fit 64 bits, so its last bit need not be that of the nearest float; a
value beyond the float range has no number.
-/

namespace FilterSql.Json

open Decimal Text

inductive Number where
  | integer (n : Int)
  | float (x : Float)
  deriving DecidableEq

namespace Number

def int64? : Number → Option Int64
  | .integer n => if fitsInt64 n then some (Int64.ofInt n) else none
  | .float _ => none

def toFloat : Number → Float
  | .integer n => Float.ofInt n
  | .float x => x

/-- The fewest digits that read back, with a decimal point or an exponent: `1.0`, `0.00001`,
`1e+16`, `1.5e-6`. -/
def layout : Layout := ⟨some (-5, 16), true, true, .even⟩

def text : Number → String
  | .integer n => toString n
  | .float x => layout.text (.ofFloat x)

end Number

/-- The parts of a number as written. The exponent has its sign: true for a minus. -/
structure NumberText where
  negative : Bool
  whole : List Char
  fraction : Option (List Char)
  exponent : Option (Bool × List Char)
  deriving DecidableEq, Repr

namespace NumberText

/-- Takes up digits as long as the significand has no more than 64 bits, and returns those left
over. -/
def accumulate (significand : Nat) : List Char → Nat × List Char
  | [] => (significand, [])
  | c :: cs =>
    let next := 10 * significand + (c.toNat - 0x30)
    if next < UInt64.size then accumulate next cs else (significand, c :: cs)

def powerOfTen (n : Nat) : Float := Float.ofScientific 1 false n

/-- `significand * 10 ^ exp` in float arithmetic, which has powers of ten up to `10 ^ 308`. Below
`10 ^ -616` nothing is left of a significand of 64 bits. -/
def scaled? (significand : Nat) (exp : Int) : Option Float :=
  let x := Float.ofNat significand
  if significand = 0 then some x
  else if 308 < exp then none
  else if 0 ≤ exp then
    let y := x * powerOfTen exp.toNat
    if y.isInf then none else some y
  else if -308 ≤ exp then some (x / powerOfTen (-exp).toNat)
  else if -616 ≤ exp then some (x / powerOfTen 308 / powerOfTen (-exp - 308).toNat)
  else some 0

def float? (t : NumberText) : Option Float :=
  let (leading, dropped) := accumulate 0 t.whole
  let places := t.fraction.getD []
  let (significand, ignored) := accumulate leading places
  let point : Int := dropped.length - (places.length - ignored.length : Nat)
  match t.exponent with
  | none => scaled? significand point
  | some (negative, ds) =>
    let exp := digitsValue ds
    if exp ≤ Int32.maxValue.toInt.toNat then
      scaled? significand (if negative then point - exp else point + exp)
    else if negative ∨ significand = 0 then some 0
    else none

/-- The number written, or nothing if it is beyond the float range. A negative zero is a float. -/
def value? (t : NumberText) : Option Number :=
  let (significand, dropped) := accumulate 0 t.whole
  let integral := t.fraction.isNone ∧ t.exponent.isNone ∧ dropped = []
  if integral ∧ ¬ t.negative then some (.integer significand)
  else if integral ∧ 0 < significand ∧ fitsInt64 (-significand) then some (.integer (-significand))
  else t.float?.map fun x => .float (if t.negative then -x else x)

end NumberText

end FilterSql.Json
