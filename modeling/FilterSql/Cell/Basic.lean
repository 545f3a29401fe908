/-!
# Cells

The values that a column of a result may hold.
-/

namespace FilterSql

inductive IntegerType where
  | tinyInt
  | smallInt
  | int
  | bigInt
  | hugeInt
  | uTinyInt
  | uSmallInt
  | uInt
  | uBigInt
  | uHugeInt
  deriving DecidableEq, Repr

namespace IntegerType

def bits : IntegerType → Nat
  | tinyInt | uTinyInt => 8
  | smallInt | uSmallInt => 16
  | int | uInt => 32
  | bigInt | uBigInt => 64
  | hugeInt | uHugeInt => 128

def isSigned : IntegerType → Bool
  | tinyInt | smallInt | int | bigInt | hugeInt => true
  | uTinyInt | uSmallInt | uInt | uBigInt | uHugeInt => false

def Holds (t : IntegerType) (n : Int) : Prop :=
  let half : Int := Nat.pow 2 (t.bits - 1)
  if t.isSigned then -half ≤ n ∧ n < half else 0 ≤ n ∧ n < 2 * half

instance (t : IntegerType) (n : Int) : Decidable (t.Holds n) := by unfold Holds; infer_instance

end IntegerType

structure SizedInteger where
  type : IntegerType
  value : Int
  holds : type.Holds value

def SizedInteger.ofInt? (type : IntegerType) (n : Int) : Option SizedInteger :=
  if h : type.Holds n then some ⟨type, n, h⟩ else none

inductive TimeUnit where
  | second
  | millisecond
  | microsecond
  | nanosecond
  deriving DecidableEq, Repr

/-- The number `scaled / 10 ^ scale`. -/
structure DecimalCell where
  width : Nat
  scale : Nat
  scaled : Int
  deriving DecidableEq, Repr

inductive Cell where
  | null
  | boolean (b : Bool)
  | integer (n : SizedInteger)
  | float (x : Float32)
  | double (x : Float)
  | decimal (d : DecimalCell)
  | timestamp (unit : TimeUnit) (count : Int64)
  | time (unit : TimeUnit) (count : Int64)
  /-- A number of days from 1 January 1970. -/
  | date (days : Int32)
  | interval (months days : Int32) (nanos : Int64)
  | text (s : String)
  | enum (s : String)
  | blob (bytes : List UInt8)
  | geometry (bytes : List UInt8)
  | list (items : List Cell)
  | array (items : List Cell)
  | struct (fields : List (String × Cell))
  | map (entries : List (Cell × Cell))
  | union (member : Cell)

end FilterSql
