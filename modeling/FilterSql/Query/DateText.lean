import FilterSql.Calendar
import FilterSql.Text.DecimalDigit
import FilterSql.Text.WhiteSpace

/-!
# Dates in text

Three spellings of a date are recognised and rewritten to `YYYY-MM-DD`: `YYYY-M-D`, `D-M-YYYY` and
`M/D/YYYY`, with one or two digits for the day and the month. Four digits in front mean that the
year comes first. The digits may be those of any script; nothing is said about the calendar here,
which is what `DayWindow` adds.
-/

namespace FilterSql.Query

open Text

namespace DateText

/-- Exactly `n` decimal digits, or one or two of them. -/
def isDigits (n : Nat) (cs : List Char) : Bool := cs.length = n && cs.all isDecimalDigit

def isDayOrMonth (cs : List Char) : Bool := isDigits 1 cs || isDigits 2 cs

structure Parts where
  year : List Char
  month : List Char
  day : List Char
  deriving DecidableEq

def parts? (cs : List Char) : Option Parts :=
  match cs.splitOn '-' with
  | [a, b, c] =>
    if isDigits 4 a && isDayOrMonth b && isDayOrMonth c then some ⟨a, b, c⟩
    else if isDayOrMonth a && isDayOrMonth b && isDigits 4 c then some ⟨c, b, a⟩
    else none
  | _ => match cs.splitOn '/' with
    | [a, b, c] =>
      if isDayOrMonth a && isDayOrMonth b && isDigits 4 c then some ⟨c, a, b⟩ else none
    | _ => none

def twoDigits (cs : List Char) : List Char := List.replicate (2 - cs.length) '0' ++ cs

def Parts.canonical (p : Parts) : List Char :=
  p.year ++ '-' :: twoDigits p.month ++ '-' :: twoDigits p.day

def normalizeChars (cs : List Char) : List Char :=
  match parts? cs with
  | some p => p.canonical
  | none => cs

end DateText

/-- Rewrites a date to its canonical spelling and trims any other text. Blank text is no date. -/
def normalizeDate? (s : String) : Option String :=
  (trimmed? s).map fun t => String.ofList (DateText.normalizeChars t.toList)

def isCanonicalDate (s : String) : Bool :=
  match s.toList.splitOn '-' with
  | [y, m, d] => DateText.isDigits 4 y && DateText.isDigits 2 m && DateText.isDigits 2 d
  | _ => false

/-- The calendar date that a canonical text denotes. Only ASCII digits denote numbers. -/
def calendarDate? (s : String) : Option Calendar.Date :=
  match s.toList.splitOn '-' with
  | [y, m, d] =>
    if (y ++ m ++ d).all isAsciiDigit then
      let date : Calendar.Date := ⟨digitsValue y, digitsValue m, digitsValue d⟩
      if date.Valid then some date else none
    else none
  | _ => none

/-- A day as the half-open interval from its own date to the next one, both as text. -/
structure DayWindow where
  start : String
  next : String
  deriving DecidableEq, Repr

def DayWindow.ofText? (s : String) : Option DayWindow := do
  let start ← normalizeDate? s
  if !isCanonicalDate start then none
  let date ← calendarDate? start
  some ⟨start, date.next.text⟩

end FilterSql.Query
