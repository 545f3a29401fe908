import FilterSql.Json.Reader

/-!
# Typed reading of JSON

A decoder reads a value of an expected kind off the front of a text and stops at the first fault.
It tells apart text that is no JSON and JSON of another kind; which of the two a text is blamed
for depends on which comes first.

Records are objects or arrays: an object may have its members in any order and more than are
known, an array has the values of all fields in their order.
-/

namespace FilterSql.Json

inductive Fault where
  /-- The text is not JSON, or nested too deeply. -/
  | malformed
  /-- A value is not of the kind expected. -/
  | mismatch
  deriving DecidableEq, Repr

/-- A decoder is told how many more levels of nesting are allowed, and returns what it read and the
tokens after it. -/
abbrev Decoder (α : Type) := (depth : Nat) → List Token → Except Fault (α × List Token)

namespace Decoder

variable {α ρ : Type}

def faultAt : List Token → Fault
  | .null :: _ | .bool _ :: _ | .openBrace :: _ | .openBracket :: _ => .mismatch
  | .number t :: _ => if t.value?.isSome then .mismatch else .malformed
  | .string s :: _ => if s.isSome then .mismatch else .malformed
  | _ => .malformed

def text : Decoder String
  | _, .string (some s) :: rest => .ok (s, rest)
  | _, ts => .error (faultAt ts)

def flag : Decoder Bool
  | _, .bool b :: rest => .ok (b, rest)
  | _, ts => .error (faultAt ts)

def natural (greatest : Nat) : Decoder Nat
  | _, .number t :: rest =>
    match t.value? with
    | some (.integer n) =>
      if 0 ≤ n ∧ n ≤ greatest then .ok (n.toNat, rest) else .error .mismatch
    | some (.float _) => .error .mismatch
    | none => .error .malformed
  | _, ts => .error (faultAt ts)

/-- One of some names, as text or as the only key of an object with the value null. -/
def oneOf (named? : String → Option α) : Decoder α
  | _, .string (some s) :: rest =>
    match named? s with
    | some x => .ok (x, rest)
    | none => .error .mismatch
  | depth + 1, .openBrace :: .string (some s) :: .colon :: .null :: .closeBrace :: rest =>
    oneOf named? depth (.string (some s) :: rest)
  | _, ts => .error (faultAt ts)

def value : Decoder Json := fun depth ts =>
  match valueOf? depth ts with
  | some found => .ok found
  | none => .error .malformed

def skipped : Decoder Unit := fun _ ts =>
  match skipValue? ts with
  | some rest => .ok ((), rest)
  | none => .error .malformed

def optional (d : Decoder α) : Decoder (Option α)
  | _, .null :: rest => .ok (none, rest)
  | depth, ts => do
    let (x, rest) ← d depth ts
    return (some x, rest)

/-- The items of an array from the next one on, and the bracket after them. -/
def items (d : Decoder α) (depth : Nat) :
    (count : Nat) → List Token → Except Fault (List α × List Token)
  | 0, _ => .error .malformed
  | count + 1, ts => do
    let (x, rest) ← d depth ts
    match rest with
    | .closeBracket :: rest => return ([x], rest)
    | .comma :: rest =>
      let (xs, rest) ← items d depth count rest
      return (x :: xs, rest)
    | _ => .error .malformed

/-- An array of values of one kind; it has no more items than tokens. -/
def list (d : Decoder α) : Decoder (List α)
  | 0, .openBracket :: _ => .error .malformed
  | _ + 1, .openBracket :: .closeBracket :: rest => .ok ([], rest)
  | depth + 1, .openBracket :: rest => items d depth rest.length rest
  | _, ts => .error (faultAt ts)

def members (d : String → Decoder α) (depth : Nat) :
    (count : Nat) → List Token → Except Fault (List (String × α) × List Token)
  | 0, _ => .error .malformed
  | count + 1, .string (some key) :: .colon :: ts => do
    let (x, rest) ← d key depth ts
    match rest with
    | .closeBrace :: rest => return ([(key, x)], rest)
    | .comma :: rest =>
      let (xs, rest) ← members d depth count rest
      return ((key, x) :: xs, rest)
    | _ => .error .malformed
  | _, _ => .error .malformed

def map (d : Decoder α) : Decoder (List (String × α))
  | 0, .openBrace :: _ => .error .malformed
  | _ + 1, .openBrace :: .closeBrace :: rest => .ok ([], rest)
  | depth + 1, .openBrace :: rest => members (fun _ => d) depth rest.length rest
  | _, ts => .error (faultAt ts)

/-! ## Records -/

structure Field (ρ : Type) where
  name : String
  change : Decoder (ρ → ρ)
  required : Bool := false
  /-- An array may end before the field. -/
  mayEnd : Bool := false

namespace Field

def of (name : String) (d : Decoder α) (set : α → ρ → ρ) : Field ρ where
  name
  change depth ts := do
    let (x, rest) ← d depth ts
    return (set x, rest)

def needed (name : String) (d : Decoder α) (set : α → ρ → ρ) : Field ρ :=
  { of name d set with required := true }

/-- A field that objects may leave out, and arrays at their ends. -/
def defaulted (name : String) (d : Decoder α) (set : α → ρ → ρ) : Field ρ :=
  { of name d set with mayEnd := true }

end Field

def complete (fields : List (Field ρ)) (seen : List String) : Bool :=
  fields.all fun f => !f.required || seen.contains f.name

/-- The record in an object from the next member on. `seen` holds the fields that have been given;
none may be given twice. Members that are no fields are read by `other`. -/
def recordMembers (fields : List (Field ρ)) (other : Decoder Unit) (depth : Nat) :
    (count : Nat) → (seen : List String) → ρ → List Token → Except Fault (ρ × List Token)
  | 0, _, _, _ => .error .malformed
  | count + 1, seen, r, .string (some key) :: ts => do
    let field := fields.find? (·.name == key)
    if field.isSome ∧ key ∈ seen then .error .mismatch
    let .colon :: ts := ts | .error .malformed
    let (r, rest) ← match field with
      | some f => do
        let (change, rest) ← f.change depth ts
        pure (change r, rest)
      | none => do
        let (_, rest) ← other depth ts
        pure (r, rest)
    match rest with
    | .closeBrace :: rest =>
      if complete fields (key :: seen) then return (r, rest) else .error .mismatch
    | .comma :: rest => recordMembers fields other depth count (key :: seen) r rest
    | _ => .error .malformed
  | _, _, _, _ => .error .malformed

def object (fields : List (Field ρ)) (other : Decoder Unit) (start : ρ) : Decoder ρ
  | 0, .openBrace :: _ => .error .malformed
  | _ + 1, .openBrace :: .closeBrace :: rest =>
    if complete fields [] then .ok (start, rest) else .error .mismatch
  | depth + 1, .openBrace :: rest => recordMembers fields other depth rest.length [] start rest
  | _, ts => .error (faultAt ts)

def recordItems (depth : Nat) (first : Bool) :
    List (Field ρ) → ρ → List Token → Except Fault (ρ × List Token)
  | fields, r, .closeBracket :: rest =>
    if fields.all (·.mayEnd) then .ok (r, rest) else .error .mismatch
  | [], _, _ => .error .malformed
  | f :: fields, r, ts => do
    let ts ← match first, ts with
      | true, ts => pure ts
      | false, .comma :: ts => pure ts
      | false, _ => .error .malformed
    let (change, rest) ← f.change depth ts
    recordItems depth false fields (change r) rest

/-- A record as an object or as an array. Members that are no fields are passed over. -/
def record (fields : List (Field ρ)) (start : ρ) : Decoder ρ
  | 0, .openBracket :: _ => .error .malformed
  | depth + 1, .openBracket :: rest => recordItems depth true fields start rest
  | depth, ts => object fields skipped start depth ts

def checked {β : Type} (d : Decoder α) (f : α → Option β) : Decoder β := fun depth ts => do
  let (x, rest) ← d depth ts
  match f x with
  | some y => return (y, rest)
  | none => .error .mismatch

/-- Reads tokens that make up one value and nothing else. -/
def whole (d : Decoder α) (ts : List Token) : Except Fault α := do
  let (x, rest) ← d maxDepth ts
  match rest with
  | [] => return x
  | _ => .error .malformed

def run (d : Decoder α) (s : String) : Except Fault α := d.whole (Token.lex s)

end Decoder

end FilterSql.Json
