import FilterSql.CommandLine.Argument
import FilterSql.Settings.Basic
import FilterSql.Text.Lowercase

/-!
# Values of arguments

What has been given for the arguments, and how the text of each is read.
-/

namespace FilterSql.CommandLine

open Query

inductive Misuse where
  | unknownArgument (word : String)
  | unknownCommand (word : String)
  | repeatedArgument (a : Argument)
  /-- An argument without its value, or with an empty one where that means nothing. -/
  | missingValue (a : Argument)
  | needlessValue (name : String)
  /-- Neither `true` nor `false`. -/
  | notTruth (a : Argument) (text : String)
  | badValue (a : Argument) (text : String)
  | missingArgument (a : Argument)
  deriving DecidableEq, Repr

def Misuse.message : Misuse → String
  | unknownArgument word => "unexpected argument '" ++ word ++ "' found"
  | unknownCommand word => "unrecognized subcommand '" ++ word ++ "'"
  | repeatedArgument a => "the argument '--" ++ a.name ++ "' cannot be used multiple times"
  | missingValue a => "a value is required for '--" ++ a.name ++ "' but none was supplied"
  | needlessValue name => "unexpected value for '--" ++ name ++ "' found; no more were expected"
  | notTruth a text | badValue a text =>
    "invalid value '" ++ text ++ "' for '--" ++ a.name ++ "'"
  | missingArgument a => "the required argument '--" ++ a.name ++ "' was not provided"

/-- The parts of a query as a command line gives them. The filters are JSON text. -/
structure QueryWords where
  recordType : Option String := none
  filters : Option String := none
  fields : List String := []
  orderBy : Option String := none
  orderDir : Option String := none
  deriving DecidableEq, Repr

structure Values where
  overrides : Overrides := {}
  query : QueryWords := {}
  deriving DecidableEq, Repr

/-! ## Reading a value -/

def natural? (greatest : Nat) (text : String) : Option Nat :=
  let digits := match text.toList with
    | '+' :: cs => cs
    | cs => cs
  if digits ≠ [] ∧ digits.all Text.isAsciiDigit ∧ Text.digitsValue digits ≤ greatest then
    some (Text.digitsValue digits)
  else none

/-- The number of a port. Zero may have a minus sign. -/
def port? (text : String) : Option Nat :=
  match text.toList with
  | '-' :: cs => if cs ≠ [] ∧ cs.all (· = '0') then some 0 else none
  | _ => natural? greatestPort text

def truth? : String → Option Bool
  | "true" => some true
  | "false" => some false
  | _ => none

def dialect? (text : String) : Option Dialect := Dialect.ofName? (Text.lowercase text)

def listItems (text : String) : List String := (text.toList.splitOn ',').map String.ofList

def orComplain {α : Type} (value : Option α) (complaint : Misuse) : Except Misuse α :=
  match value with
  | some x => .ok x
  | none => .error complaint

def path (a : Argument) (text : String) : Except Misuse String :=
  if text.isEmpty then .error (.missingValue a) else .ok text

def setOverride (a : Argument) (text : String) (o : Overrides) : Except Misuse Overrides := do
  let bad := Misuse.badValue a text
  match a with
  | .host => return { o with host := some text }
  | .port => return { o with port := some (← orComplain (port? text) bad) }
  | .settingsFile => return { o with settingsFile := some (← path a text) }
  | .dataDirectory => return { o with dataDirectory := some (← path a text) }
  | .noBanner =>
    return { o with noBanner := some (← orComplain (truth? text) (.notTruth a text)) }
  | .databasePath => return { o with databasePath := some text }
  | .queryTimeout =>
    return { o with queryTimeout := some (← orComplain (natural? greatestWord text) bad) }
  | .dialect => return { o with dialect := some (← orComplain (dialect? text) bad) }
  | .dateAware =>
    return { o with dateAware := some (← orComplain (truth? text) (.notTruth a text)) }
  | .maxPageSize =>
    return { o with maxPageSize := some (← orComplain (natural? greatestWord text) bad) }
  | _ => return o

def setQueryWord (a : Argument) (text : String) (q : QueryWords) : QueryWords :=
  match a with
  | .recordType => { q with recordType := some text }
  | .filters => { q with filters := some text }
  | .fields => { q with fields := q.fields ++ listItems text }
  | .orderBy => { q with orderBy := some text }
  | .orderDir => { q with orderDir := some text }
  | _ => q

def Values.set (v : Values) (a : Argument) (text : String) : Except Misuse Values := do
  return { overrides := ← setOverride a text v.overrides, query := setQueryWord a text v.query }

end FilterSql.CommandLine
