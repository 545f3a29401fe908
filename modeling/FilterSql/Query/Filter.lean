import FilterSql.Query.Term

/-!
# Filters

A filter is written in one of four shapes, which are tried in this order:

* `[{"field": "x", "operator": "=", "value": 1}]`
* `[{"x": {"operator": "=", "value": 1}}]`
* `[{"field_name": "x", "operator": "equals", "value": 1}]`
* `{"x": 1, "y": {"operator": "in", "values": […]}, "d_startdate": "…"}`

Anything that is neither an array nor an object filters nothing. `Filter.terms` turns each of them
into the same list of terms.
-/

namespace FilterSql.Query.Filter

/-- The most terms, and the most elements, that a filter may have. -/
def maxTerms : Nat := 100

def checkCount (count : Nat) : Except QueryError Unit :=
  if maxTerms < count then .error (.tooManyFilters count maxTerms) else .ok ()

/-! ## Arrays -/

def namedTerm (key : String) (spec : Json.Members) : Except QueryError Term :=
  Term.ofSpec (((spec.get? key).map nameText).getD "") spec

/-- A record under the name of its field; a value that is no record asks for nothing. -/
def keyedTerm? (field : String) : Json → Except QueryError (Option Term)
  | .object spec => some <$> Term.ofSpec field spec
  | _ => .ok none

def hasField (item : Json) : Bool := item.members?.any (·.has "field")

def hasOneKey (item : Json) : Bool := item.members?.any (·.length = 1)

def fieldItem : Json → Except QueryError (Option Term)
  | .object spec => some <$> namedTerm "field" spec
  | _ => .ok none

def keyedItem : Json → Except QueryError (Option Term)
  | .object [(field, spec)] => keyedTerm? field spec
  | _ => .ok none

def fieldNameItem : Json → Except QueryError (Option Term)
  | .object spec => some <$> namedTerm "field_name" spec
  | other => .error (.unsafeIdentifier .fieldName other.render)

/-- The terms of an array. All elements are read by one rule, which the keys of all of them
decide. -/
def ofArray (items : List Json) : Except QueryError (List Term) := do
  let read :=
    if items.all hasField then fieldItem
    else if items.all hasOneKey then keyedItem
    else fieldNameItem
  return (← items.mapM read).filterMap id

/-! ## Flat objects -/

inductive Bound where
  | start
  | finish
  deriving DecidableEq, Repr

inductive Member where
  | plain (key : String) (value : Json)
  | bound (field : String) (which : Bound) (value : Json)

/-- The text before a suffix, the case of ASCII letters aside. -/
def stripSuffix? (suffix key : String) : Option String :=
  let cs := key.toList
  let n := cs.length - suffix.toList.length
  if (cs.drop n).map Char.toLower = suffix.toList then some (String.ofList (cs.take n)) else none

def classify (key : String) (value : Json) : Member :=
  match stripSuffix? "_startdate" key with
  | some field => .bound (Text.trim field) .start value
  | none => match stripSuffix? "_enddate" key with
    | some field => .bound (Text.trim field) .finish value
    | none => .plain key value

/-- A plain member: a record with an operator, a list of values, or a value to be equal to. -/
def plainTerm (key : String) (value : Json) : Except QueryError Term :=
  match value with
  | .object spec =>
    if Json.Members.has spec "operator" then Term.ofSpec key spec
    else return { field := ← fieldIdentifier key, op := .equals }
  | .array items => do
    let field ← fieldIdentifier key
    return { field, op := .isIn, values := some (← scalarList .isIn items) }
  | value => return { field := ← fieldIdentifier key, op := .equals, value := Scalar.ofJson? value }

def Member.plainTerm? : Member → Except QueryError (Option Term)
  | .plain key value => some <$> plainTerm key value
  | .bound .. => .ok none

structure Range where
  field : String
  start : Option String := none
  finish : Option String := none
  deriving DecidableEq, Repr

def Range.set (r : Range) (which : Bound) (date : Option String) : Range :=
  match which with
  | .start => { r with start := date }
  | .finish => { r with finish := date }

def setBound (field : String) (which : Bound) (date : Option String) : List Range → List Range
  | [] => [({ field } : Range).set which date]
  | r :: rest =>
    if r.field = field then r.set which date :: rest else r :: setBound field which date rest

/-- The ranges that the members give, in the order in which their fields come first. -/
def ranges (members : List Member) : List Range :=
  members.foldl (fun rs m => match m with
    | .plain .. => rs
    | .bound field which value => setBound field which (dateText? value) rs) []

/-- The lower end before the upper end. The field has to be safe even if neither end is given. -/
def Range.terms (r : Range) : Except QueryError (List Term) := do
  let field ← fieldIdentifier r.field
  let lower := r.start.map fun date =>
    ({ field, op := .greaterThanOrEqual, value := some (.text date) } : Term)
  let upper := r.finish.map fun date =>
    ({ field, op := .lessThanOrEqual, value := some (.text date) } : Term)
  return lower.toList ++ upper.toList

def ofMembers (members : Json.Members) : Except QueryError (List Term) := do
  let members := members.map fun kv => classify kv.1 kv.2
  let plain := (← members.mapM Member.plainTerm?).filterMap id
  let bounds := (← (ranges members).mapM Range.terms).flatten
  return plain ++ bounds

def terms (filter : Json) : Except QueryError (List Term) := do
  let terms ← match filter with
    | .array items => do
      checkCount items.length
      ofArray items
    | .object members => do
      checkCount members.length
      ofMembers members
    | _ => .ok []
  checkCount terms.length
  return terms

end FilterSql.Query.Filter
