/-!
# Ranges of code points

Character properties are carried as lists of closed code point ranges. `CodeRange.covers` is the
only question asked of such a list. Large properties are carried as the list of code points at
which they begin and end in turn, of which `turns` are counted.
-/

namespace FilterSql.Text

/-- The code points from `first` to `last`, both included. -/
structure CodeRange where
  first : Nat
  last : Nat
  deriving DecidableEq, Repr

namespace CodeRange

def mem (r : CodeRange) (c : Char) : Bool := r.first ≤ c.toNat && c.toNat ≤ r.last

def covers (table : List CodeRange) (c : Char) : Bool := table.any (·.mem c)

@[simp] theorem covers_nil (c : Char) : covers [] c = false := rfl

@[simp] theorem covers_cons (r : CodeRange) (table : List CodeRange) (c : Char) :
    covers (r :: table) c = (r.mem c || covers table c) := rfl

end CodeRange

def turns (boundaries : List Nat) (c : Char) : Nat :=
  (boundaries.takeWhile (· ≤ c.toNat)).length

end FilterSql.Text
