import FilterSql.Query.Condition
import FilterSql.Query.Fragment
import FilterSql.Query.Term

/-!
# From terms to conditions

The condition that a term puts on the column of its field. Comparisons with a text that denotes a
date become comparisons with the whole day if the configuration says so; the `date_…` operators
always compare days.
-/

namespace FilterSql.Query.Term

/-- The letters that the store keeps for true and false. -/
def flag (b : Bool) : Scalar := .text (if b then "T" else "F")

def scalarOperand (t : Term) : Except QueryError Scalar :=
  match t.value with
  | some v => .ok v
  | none => .error (.missingOperand t.op .scalar)

def window? (v : Scalar) : Option DayWindow := v.asText?.bind DayWindow.ofText?

def requiredDay (op : Operator) (v : Scalar) : Except QueryError DayWindow :=
  match window? v with
  | some w => .ok w
  | none => .error (.invalidDate op v.display)

def dayOperand (t : Term) : Except QueryError DayWindow :=
  match t.value with
  | some v => requiredDay t.op v
  | none => .error (.missingOperand t.op .date)

def listOfValues (t : Term) : Except QueryError (List Scalar) :=
  match t.values with
  | some (v :: vs) => .ok (v :: vs)
  | _ => .error (.missingOperand t.op .nonEmptyList)

/-- Comparison with a whole day: later than it is from the next day on, and up to it is before the
next day. -/
def compareDay (c : Column) (w : DayWindow) : Comparison → Condition
  | .eq => .within c w.start w.next
  | .ne => .outside c w.start w.next
  | .gt => .bound c .ge w.next
  | .lt => .bound c .lt w.start
  | .ge => .bound c .ge w.start
  | .le => .bound c .lt w.next

def compareValue (dateAware : Bool) (c : Column) (cmp : Comparison) (v : Scalar) : Condition :=
  match if dateAware then window? v else none with
  | some w => compareDay c w cmp
  | none => .compare c cmp v

/-- The days from the start date to the end date, both included. -/
def dateRange (t : Term) (c : Column) : Except QueryError Condition :=
  match t.startDate, t.endDate with
  | some first, some last => do
    let first ← requiredDay t.op (.text first)
    let last ← requiredDay t.op (.text last)
    return .within c first.start last.next
  | _, _ => .error (.missingOperand t.op .bothDates)

def condition (config : Config) (aliasName : String) (t : Term) :
    Except QueryError Condition := do
  let c : Column := ⟨aliasName, t.field.text⟩
  match t.op with
  | .equals => return compareValue config.dateAware c .eq (← scalarOperand t)
  | .notEquals => return compareValue config.dateAware c .ne (← scalarOperand t)
  | .greaterThan => return compareValue config.dateAware c .gt (← scalarOperand t)
  | .lessThan => return compareValue config.dateAware c .lt (← scalarOperand t)
  | .greaterThanOrEqual => return compareValue config.dateAware c .ge (← scalarOperand t)
  | .lessThanOrEqual => return compareValue config.dateAware c .le (← scalarOperand t)
  | .contains => return .like c false (LikePattern.containing (← scalarOperand t).display)
  | .startsWith => return .like c false (LikePattern.startingWith (← scalarOperand t).display)
  | .endsWith => return .like c false (LikePattern.endingWith (← scalarOperand t).display)
  | .notContains => return .like c true (LikePattern.containing (← scalarOperand t).display)
  | .isIn => return .among c false (← listOfValues t)
  | .notIn => return .among c true (← listOfValues t)
  | .isNull => return .null c false
  | .isNotNull => return .null c true
  | .dateRange => dateRange t c
  | .dateEquals => return compareDay c (← dayOperand t) .eq
  | .dateBefore => return compareDay c (← dayOperand t) .lt
  | .dateAfter => return compareDay c (← dayOperand t) .gt
  | .isTrue => return .compare c .eq (flag true)
  | .isFalse => return .compare c .eq (flag false)

end FilterSql.Query.Term
