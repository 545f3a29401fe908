import FilterSql.Query.Scalar

/-!
# SQL fragments

SQL text together with the values that its placeholders bind, in the order of the placeholders.
Fragments are joined as texts and as parameter lists at once. A whole statement is a fragment too. In
the patterns of LIKE a backslash makes the next character literal.
-/

namespace FilterSql.Query

structure Fragment where
  sql : String
  params : List Scalar
  deriving DecidableEq

namespace Fragment

def placeholders (sql : String) : Nat := sql.toList.count '?'

def Balanced (f : Fragment) : Prop := placeholders f.sql = f.params.length

instance (f : Fragment) : Decidable f.Balanced := by unfold Balanced; infer_instance

def placeholderList (count : Nat) : String := String.intercalate ", " (List.replicate count "?")

def negate (f : Fragment) : Fragment := ⟨"NOT (" ++ f.sql ++ ")", f.params⟩

def conjunction (fs : List Fragment) : Fragment :=
  ⟨String.intercalate " AND " (fs.map sql), fs.flatMap params⟩

@[simp] theorem placeholders_append (a b : String) :
    placeholders (a ++ b) = placeholders a + placeholders b := by
  simp [placeholders, String.toList_append, List.count_append]

end Fragment

abbrev Statement := Fragment

namespace LikePattern

def isMeta (c : Char) : Bool := c = '\\' || c = '%' || c = '_'

def escapeChars (cs : List Char) : List Char :=
  cs.flatMap fun c => if isMeta c then ['\\', c] else [c]

/-- The pattern that matches the text and nothing else. -/
def escape (s : String) : String := String.ofList (escapeChars s.toList)

def containing (s : String) : String := "%" ++ escape s ++ "%"

def startingWith (s : String) : String := escape s ++ "%"

def endingWith (s : String) : String := "%" ++ escape s

end LikePattern

end FilterSql.Query
