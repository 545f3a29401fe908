import FilterSql.Calendar
import FilterSql.Cell.Description
import FilterSql.Json.Basic
import FilterSql.MachineWord

/-!
# Cells in JSON

Integers stay integers as long as a reader of 64 bits can hold them, decimals and dates are text,
and timestamps are instants in microseconds. A timestamp outside the calendar is null.
-/

namespace FilterSql

def DecimalCell.text (d : DecimalCell) : String :=
  let ds := Calendar.padded (d.scale + 1) d.scaled.natAbs
  let whole := ds.toList.take (ds.length - d.scale)
  let places := ds.toList.drop (ds.length - d.scale)
  String.ofList ((if d.scaled < 0 then ['-'] else []) ++ whole ++
    if places.isEmpty then [] else '.' :: places)

/-- The timestamp in microseconds; one that is too large for them is cut to the nearest that is
not. -/
def TimeUnit.micros (unit : TimeUnit) (count : Int64) : Int64 :=
  match unit with
  | second => saturated (count.toInt * 1000000)
  | millisecond => saturated (count.toInt * 1000)
  | microsecond => count
  | nanosecond => Int64.ofInt (count.toInt.tdiv 1000)

namespace Cell

def floatJson (x : Float) : Json := if x.isFinite then .number (.float x) else .null

/-- Integers of 64 bits are numbers, larger ones are text. -/
def integerJson (n : SizedInteger) : Json :=
  match n.type with
  | .hugeInt =>
    if fitsInt64 n.value then .ofInt n.value else .string (toString n.value)
  | .uHugeInt => .string (describe (.integer n))
  | _ => .ofInt n.value

def timestampJson (unit : TimeUnit) (count : Int64) : Json :=
  ((Calendar.instantText? (unit.micros count).toInt).map Json.string).getD .null

mutual

/-- The JSON form; a date outside the calendar has none, and no list that holds it has one. -/
def toJson? : Cell → Option Json
  | null => some .null
  | boolean b => some (.bool b)
  | integer n => some (integerJson n)
  | float x => some (floatJson x.toFloat)
  | double x => some (floatJson x)
  | decimal d => some (.string d.text)
  | timestamp unit count => some (timestampJson unit count)
  | date days => (Calendar.dayText? days.toInt).map .string
  | text s => some (.string s)
  | enum s => some (.string s)
  | list items => (itemsJson? items).map .array
  | array items => (itemsJson? items).map .array
  | c@(time ..) | c@(interval ..) | c@(blob _) | c@(geometry _) | c@(struct _) | c@(map _)
  | c@(union _) => some (.string c.describe)

def itemsJson? : List Cell → Option (List Json)
  | [] => some []
  | c :: rest => do
    let first ← toJson? c
    let others ← itemsJson? rest
    some (first :: others)

end

end Cell

end FilterSql
