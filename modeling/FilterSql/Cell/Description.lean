import FilterSql.Cell.Basic
import FilterSql.Decimal.Layout
import FilterSql.Text.Escaped

/-!
# Descriptions of cells

A cell written with the names of its types, such as `Struct(OrderedMap([("a", Int(1))]))`. This is
how cells are shown that have no form of their own in JSON.
-/

namespace FilterSql

def IntegerType.label : IntegerType → String
  | tinyInt => "TinyInt"
  | smallInt => "SmallInt"
  | int => "Int"
  | bigInt => "BigInt"
  | hugeInt => "HugeInt"
  | uTinyInt => "UTinyInt"
  | uSmallInt => "USmallInt"
  | uInt => "UInt"
  | uBigInt => "UBigInt"
  | uHugeInt => "UHugeInt"

def TimeUnit.label : TimeUnit → String
  | second => "Second"
  | millisecond => "Millisecond"
  | microsecond => "Microsecond"
  | nanosecond => "Nanosecond"

namespace Cell

/-- Floats have a decimal point or an exponent: `1.0`, `0.0001`, `1e-5`, `1e16`. -/
def floatLayout : Decimal.Layout := ⟨some (-4, 16), true, false, .up⟩

def tagged (label content : String) : String := label ++ "(" ++ content ++ ")"

def bracketed (items : List String) : String := "[" ++ String.intercalate ", " items ++ "]"

/-- A record with named members: `Label { a: 1, b: 2 }`. -/
def labelled (label : String) (members : List (String × Int)) : String :=
  label ++ " \x7b " ++
    String.intercalate ", " (members.map fun (name, n) => name ++ ": " ++ toString n) ++ " \x7d"

def moment (label : String) (unit : TimeUnit) (count : Int64) : String :=
  tagged label (unit.label ++ ", " ++ toString count.toInt)

def bytesText (bytes : List UInt8) : String := bracketed (bytes.map fun b => toString b.toNat)

mutual

def describe : Cell → String
  | null => "Null"
  | boolean b => tagged "Boolean" (if b then "true" else "false")
  | integer n => tagged n.type.label (toString n.value)
  | float x => tagged "Float" (floatLayout.text (.ofFloat32 x))
  | double x => tagged "Double" (floatLayout.text (.ofFloat x))
  | decimal d =>
    tagged "Decimal"
      (labelled "Decimal" [("width", d.width), ("scale", d.scale), ("value", d.scaled)])
  | timestamp unit count => moment "Timestamp" unit count
  | time unit count => moment "Time64" unit count
  | date days => tagged "Date32" (toString days.toInt)
  | interval months days nanos =>
    labelled "Interval" [("months", months.toInt), ("days", days.toInt), ("nanos", nanos.toInt)]
  | text s => tagged "Text" (Text.escaped s)
  | enum s => tagged "Enum" (Text.escaped s)
  | blob bytes => tagged "Blob" (bytesText bytes)
  | geometry bytes => tagged "Geometry" (bytesText bytes)
  | list items => tagged "List" (bracketed (describeItems items))
  | array items => tagged "Array" (bracketed (describeItems items))
  | struct fields => tagged "Struct" (tagged "OrderedMap" (bracketed (describeFields fields)))
  | map entries => tagged "Map" (tagged "OrderedMap" (bracketed (describeEntries entries)))
  | union member => tagged "Union" member.describe

def describeItems : List Cell → List String
  | [] => []
  | c :: rest => describe c :: describeItems rest

def describeFields : List (String × Cell) → List String
  | [] => []
  | (name, c) :: rest =>
    ("(" ++ Text.escaped name ++ ", " ++ describe c ++ ")") :: describeFields rest

def describeEntries : List (Cell × Cell) → List String
  | [] => []
  | (key, c) :: rest => ("(" ++ describe key ++ ", " ++ describe c ++ ")") :: describeEntries rest

end

end Cell

end FilterSql
