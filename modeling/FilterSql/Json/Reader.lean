import FilterSql.Json.Basic
import FilterSql.Json.Token

/-!
# Reading JSON

A machine that takes one token after another and keeps the arrays and objects that are still open on
a stack. What it makes of the pieces is a `Builder`: `Builder.json` builds the value, and
`Builder.ignore` only checks that there is one. The machine stops at the end of the first value and
leaves the tokens after it.
-/

namespace FilterSql.Json

/-- What becomes of the pieces of a JSON text. `none` refuses a piece. -/
structure Builder (α : Type) where
  null : α
  bool : Bool → α
  number : NumberText → Option α
  string : Option String → Option α
  key : Option String → Option String
  array : List α → α
  object : List (String × α) → α

/-- An array or object whose end has not come; what it holds so far is last first. -/
inductive Frame (α : Type) where
  | array (done : List α)
  | object (done : List (String × α)) (key : String)

inductive Await where
  | value
  | firstItem
  | firstKey
  | key
  | colon
  | separator
  deriving DecidableEq

structure Machine (α : Type) where
  stack : List (Frame α)
  await : Await

inductive Step (α : Type) where
  | finished (value : α)
  | running (m : Machine α)

namespace Machine

variable {α : Type}

def give (value : α) : List (Frame α) → Step α
  | [] => .finished value
  | .array done :: outer => .running ⟨.array (value :: done) :: outer, .separator⟩
  | .object done key :: outer => .running ⟨.object ((key, value) :: done) key :: outer, .separator⟩

/-- The start of a value. At most `depth` frames may be open at once, if that is limited. -/
def begin (b : Builder α) (depth : Option Nat) (stack : List (Frame α)) : Token → Option (Step α)
  | .null => some (give b.null stack)
  | .bool x => some (give (b.bool x) stack)
  | .number t => (b.number t).map (give · stack)
  | .string s => (b.string s).map (give · stack)
  | .openBracket =>
    if depth.all (stack.length < ·) then some (.running ⟨.array [] :: stack, .firstItem⟩) else none
  | .openBrace =>
    if depth.all (stack.length < ·) then some (.running ⟨.object [] "" :: stack, .firstKey⟩)
    else none
  | _ => none

def readKey (b : Builder α) : List (Frame α) → Token → Option (Step α)
  | .object done _ :: outer, .string s =>
    (b.key s).map fun key => .running ⟨.object done key :: outer, .colon⟩
  | _, _ => none

def finish (b : Builder α) : List (Frame α) → Token → Option (Step α)
  | .array done :: outer, .closeBracket => some (give (b.array done.reverse) outer)
  | .object done _ :: outer, .closeBrace => some (give (b.object done.reverse) outer)
  | _, _ => none

def step (b : Builder α) (depth : Option Nat) (m : Machine α) (t : Token) : Option (Step α) :=
  match m.await, t with
  | .value, t => begin b depth m.stack t
  | .firstItem, .closeBracket => finish b m.stack t
  | .firstItem, t => begin b depth m.stack t
  | .firstKey, .closeBrace => finish b m.stack t
  | .firstKey, t => readKey b m.stack t
  | .key, t => readKey b m.stack t
  | .colon, .colon => some (.running { m with await := .value })
  | .colon, _ => none
  | .separator, .comma =>
    match m.stack with
    | .array _ :: _ => some (.running { m with await := .value })
    | .object .. :: _ => some (.running { m with await := .key })
    | [] => none
  | .separator, t => finish b m.stack t

def run (b : Builder α) (depth : Option Nat) (m : Machine α) : List Token → Option (α × List Token)
  | [] => none
  | t :: ts =>
    match m.step b depth t with
    | none => none
    | some (.finished value) => some (value, ts)
    | some (.running next) => run b depth next ts

end Machine

namespace Builder

def json : Builder Json where
  null := .null
  bool := .bool
  number t := t.value?.map .number
  string s := s.map .string
  key s := s
  array := .array
  object written := .object (Members.ofWritten written)

/-- Passes over a value: numbers may have any size and strings hold halves of surrogate pairs. -/
def ignore : Builder Unit where
  null := ()
  bool _ := ()
  number _ := some ()
  string _ := some ()
  key _ := some ""
  array _ := ()
  object _ := ()

end Builder

def maxDepth : Nat := 127

def valueOf? (depth : Nat) (ts : List Token) : Option (Json × List Token) :=
  Machine.run Builder.json (some depth) ⟨[], .value⟩ ts

def skipValue? (ts : List Token) : Option (List Token) :=
  (Machine.run Builder.ignore none ⟨[], .value⟩ ts).map Prod.snd

def parse? (s : String) : Option Json :=
  match valueOf? maxDepth (Token.lex s) with
  | some (value, []) => some value
  | _ => none

end FilterSql.Json
