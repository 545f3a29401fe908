import FilterSql.Text.Lowercase

/-!
# Table aliases

Every record type is called by an alias: the first letter of its name, or the first three
characters if another name starts with the same letter. A candidate that is taken gets the least
number from 2 on that makes it free. Short SQL keywords and the aliases of header tables are taken
from the start, and names have their turn by length, then by code points.
-/

namespace FilterSql.Alias

def fallback : String := "t"

def reserved : List String :=
  ["add", "all", "and", "any", "as", "asc", "at", "by", "day", "do", "end", "for", "if", "in", "is",
   "key", "new", "no", "not", "of", "off", "old", "on", "or", "row", "set", "to", "top", "use"]

/-- The first characters of the names, each once and in order, that start more than one of them. -/
def conflictLetters (names : List String) : List Char :=
  let firsts := names.filterMap fun name => name.toList.head?
  (firsts.filter fun c => 1 < firsts.count c).foldl insertChar []
where
  insertChar (cs : List Char) (c : Char) : List Char :=
    cs.filter (· < c) ++ c :: cs.filter (c < ·)

def candidate (conflicts : List Char) (name : String) : String :=
  match (Text.lowercase name).toList with
  | [] => fallback
  | c :: rest => String.ofList ((c :: rest).take (if conflicts.contains c then 3 else 1))

/-- The first text among `stem` followed by `n`, `n + 1`, … that is free, out of `tries` of them. -/
def firstFree? (taken : List String) (stem : String) (n : Nat) : (tries : Nat) → Option String
  | 0 => none
  | tries + 1 =>
    let name := stem ++ toString n
    if taken.contains name then firstFree? taken stem (n + 1) tries else some name

/-- A free alias for a candidate. Among more numbers than names are taken, one is free. -/
def choose (taken : List String) (stem : String) : String :=
  if taken.contains stem then (firstFree? taken stem 2 (taken.length + 1)).getD stem else stem

def assign (conflicts : List Char) (taken : List String) : List String → List (String × String)
  | [] => []
  | name :: rest =>
    let found := choose taken (candidate conflicts name)
    (name, found) :: assign conflicts (found :: taken) rest

def precedes (a b : String) : Bool :=
  a.length < b.length || (a.length = b.length && a ≤ b)

def insertByLength (name : String) : List String → List String
  | [] => [name]
  | n :: rest => if precedes name n then name :: n :: rest else n :: insertByLength name rest

def byLength (names : List String) : List String := names.foldr insertByLength []

end FilterSql.Alias
