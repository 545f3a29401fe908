import FilterSql.Text.DecimalDigit
import FilterSql.Text.Ascii

/-!
# Addresses and origins

The Internet addresses that a service may listen at: four numbers with points between them, or
eight groups of hexadecimal digits with colons between them. Two colons in a row stand for the
groups that are left out, at least one of them, and the last two groups may be written as four
numbers.

A browser may call the service from pages of the service's own host, with the port or without it. A
service that listens at every interface may be called from the addresses of the machine, too.
-/

namespace FilterSql.Service

inductive Address where
  | v4 (octets : List Nat)
  /-- Eight groups of 16 bits. -/
  | v6 (groups : List Nat)
  deriving DecidableEq, Repr

namespace Address

/-- An octet in at most three decimal digits, without a zero in front. -/
def octet? (cs : List Char) : Option Nat :=
  if cs ≠ [] ∧ cs.all Text.isAsciiDigit ∧ cs.length ≤ 3 ∧ (cs.head? ≠ some '0' ∨ cs.length = 1) ∧
      Text.digitsValue cs ≤ 255 then
    some (Text.digitsValue cs)
  else none

def octets? (cs : List Char) : Option (List Nat) :=
  match cs.splitOn '.' with
  | [a, b, c, d] => [a, b, c, d].mapM octet?
  | _ => none

/-- A group in one to four hexadecimal digits. -/
def group? (cs : List Char) : Option Nat :=
  if cs ≠ [] ∧ cs.length ≤ 4 then
    cs.foldlM (fun n c => (Text.hexValue? c).map (16 * n + ·)) 0
  else none

def groupsOfOctets : List Nat → List Nat
  | [a, b, c, d] => [256 * a + b, 256 * c + d]
  | _ => []

/-- Groups with colons between them. Where `endsInOctets`, the last two may be octets. -/
def pieces? (endsInOctets : Bool) : List (List Char) → Option (List Nat)
  | [] => some []
  | [last] =>
    match octets? last with
    | some octets => if endsInOctets then some (groupsOfOctets octets) else none
    | none => (group? last).map ([·])
  | piece :: rest => do return (← group? piece) :: (← pieces? endsInOctets rest)

def groups? (endsInOctets : Bool) (cs : List Char) : Option (List Nat) :=
  if cs = [] then some [] else pieces? endsInOctets (cs.splitOn ':')

def cutAtGap : List Char → Option (List Char × List Char)
  | ':' :: ':' :: rest => some ([], rest)
  | c :: rest => (cutAtGap rest).map fun (before, behind) => (c :: before, behind)
  | [] => none

def v6Groups? (cs : List Char) : Option (List Nat) := do
  match cutAtGap cs with
  | none =>
    let groups ← groups? true cs
    if groups.length = 8 then some groups else none
  | some (before, behind) =>
    let first ← groups? false before
    let last ← groups? true behind
    if first.length + last.length ≤ 7 then
      some (first ++ List.replicate (8 - first.length - last.length) 0 ++ last)
    else none

def ofText? (text : String) : Option Address :=
  match octets? text.toList with
  | some octets => some (v4 octets)
  | none => (v6Groups? text.toList).map v6

def octetChars (octets : List Nat) : List Char := ['.'].intercalate (octets.map (Nat.toDigits 10))

/-- What a machine is called on its networks: the addresses of four octets that its interfaces have,
but for those of the machine to itself. -/
def networkHosts (interfaces : List Address) : List String :=
  interfaces.filterMap fun
    | v4 octets => if octets.head? = some 127 then none else some (String.ofList (octetChars octets))
    | v6 _ => none

end Address

/-! ## Origins -/

def isEveryInterface (host : String) : Bool := ["0.0.0.0", "::", "[::]"].contains host

/-- The names of a host in origins. Both spellings of the local host go together. -/
def originHosts (host : String) : List String :=
  if isEveryInterface host || ["127.0.0.1", "localhost"].contains host then
    ["localhost", "127.0.0.1"]
  else [host]

def httpUrl (host : String) (port : Nat) : String := "http://" ++ host ++ ":" ++ toString port

def allowedOrigins (host : String) (port : Nat) (interfaces : List Address) : List String :=
  ((originHosts host).flatMap fun name => [httpUrl name port, "http://" ++ name]) ++
    if isEveryInterface host then (Address.networkHosts interfaces).map (httpUrl · port) else []

end FilterSql.Service
