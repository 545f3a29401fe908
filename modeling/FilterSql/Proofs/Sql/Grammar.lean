/-!
# The grammar of the statements

The SQL texts that are made of the names of a scope and of fixed words, as an inductive predicate on
strings for each construct. A value has no place in any of them but a question mark. Nothing is said
here about how the texts come about.
-/

namespace FilterSql.Sql.Grammar

/-- A letter or underscore, then letters, digits and underscores, all of them ASCII. -/
def IsName (s : String) : Prop :=
  ∃ c rest, s.toList = c :: rest ∧ (c.isAlpha = true ∨ c = '_') ∧
    ∀ d ∈ rest, d.isAlphanum = true ∨ d = '_'

/-- The table that a subquery reads, its alias, and the column of the base table that refers to
it. -/
structure Link where
  table : String
  aliasName : String
  key : String

structure Scope where
  table : String
  aliasName : String
  link : Option Link
  selected : String → Prop
  tested : String → Prop
  ordered : String → Prop

inductive Separated (sep : String) (P : String → Prop) : String → Prop
  | single (h : P s) : Separated sep P s
  | cons (h : P s) (rest : Separated sep P t) : Separated sep P (s ++ sep ++ t)

inductive Column (names : String → Prop) (a : String) : String → Prop
  | mk (ha : IsName a) (hn : IsName n) (h : names n) : Column names a (a ++ "." ++ n)

inductive Cmp : String → Prop
  | eq : Cmp "="
  | ne : Cmp "!="
  | lt : Cmp "<"
  | gt : Cmp ">"
  | le : Cmp "<="
  | ge : Cmp ">="

inductive Day : String → Prop
  | plain : Day "?"
  | converted : Day "TO_DATE(?, 'YYYY-MM-DD')"

inductive Test (names : String → Prop) (a : String) : String → Prop
  | compare (hc : Column names a c) (hop : Cmp op) : Test names a (c ++ " " ++ op ++ " ?")
  | day (hc : Column names a c) (hop : Cmp op) (hd : Day d) :
      Test names a (c ++ " " ++ op ++ " " ++ d)
  | range (hc : Column names a c) (hd : Day d) :
      Test names a (c ++ " >= " ++ d ++ " AND " ++ c ++ " < " ++ d)
  | outside (hc : Column names a c) (hd : Day d) :
      Test names a ("NOT (" ++ c ++ " >= " ++ d ++ " AND " ++ c ++ " < " ++ d ++ ")")
  | like (hc : Column names a c) : Test names a (c ++ " LIKE ? ESCAPE '\\'")
  | notLike (hc : Column names a c) : Test names a (c ++ " NOT LIKE ? ESCAPE '\\'")
  | among (hc : Column names a c) (hv : Separated ", " (· = "?") vs) :
      Test names a (c ++ " IN (" ++ vs ++ ")")
  | notAmong (hc : Column names a c) (hv : Separated ", " (· = "?") vs) :
      Test names a (c ++ " NOT IN (" ++ vs ++ ")")
  | null (hc : Column names a c) : Test names a (c ++ " IS NULL")
  | notNull (hc : Column names a c) : Test names a (c ++ " IS NOT NULL")

/-- A test of the base table, or a subquery on the linked table, which has no subqueries itself. -/
inductive Predicate (scope : Scope) : String → Prop
  | test (h : Test scope.tested scope.aliasName p) : Predicate scope p
  | member (hlink : scope.link = some l) (htable : IsName l.table)
      (hkey : Column (· = l.key) scope.aliasName key) (hid : Column (· = "id") l.aliasName pk)
      (hp : Separated " AND " (Test scope.tested l.aliasName) ps) :
      Predicate scope (key ++ " IN (SELECT " ++ pk ++ " FROM " ++ l.table ++ " " ++ l.aliasName ++
        " WHERE " ++ ps ++ ")")

inductive Where (scope : Scope) : String → Prop
  | absent : Where scope ""
  | present (h : Separated " AND " (Predicate scope) ps) : Where scope (" WHERE " ++ ps)

inductive Item (scope : Scope) : String → Prop
  | all (ha : IsName scope.aliasName) : Item scope (scope.aliasName ++ ".*")
  | column (h : Column scope.selected scope.aliasName c) : Item scope c

inductive Order (scope : Scope) : String → Prop
  | column (h : Column scope.ordered scope.aliasName c) : Order scope c
  | lookup (hlink : scope.link = some l) (htable : IsName l.table)
      (hc : Column scope.ordered l.aliasName c) (hid : Column (· = "id") l.aliasName pk)
      (hkey : Column (· = l.key) scope.aliasName key) :
      Order scope ("(SELECT " ++ c ++ " FROM " ++ l.table ++ " " ++ l.aliasName ++ " WHERE " ++
        pk ++ " = " ++ key ++ ")")

inductive Direction : String → Prop
  | ascending : Direction "ASC"
  | descending : Direction "DESC"

inductive Sentence (scope : Scope) : String → Prop
  | mk (htable : IsName scope.table) (ha : IsName scope.aliasName)
      (hitems : Separated ", " (Item scope) items) (hwhere : Where scope filter)
      (horder : Order scope order) (hdirection : Direction direction) :
      Sentence scope ("SELECT " ++ items ++ " FROM " ++ scope.table ++ " " ++ scope.aliasName ++
        filter ++ " ORDER BY " ++ order ++ " " ++ direction)

theorem separated_intercalate {P : String → Prop} {parts : List String} (hne : parts ≠ [])
    (h : ∀ s ∈ parts, P s) : Separated sep P (sep.intercalate parts) := by
  induction parts with
  | nil => exact absurd rfl hne
  | cons s parts ih =>
    have hs := h s List.mem_cons_self
    cases parts with
    | nil =>
      have one : Separated sep P s := .single hs
      simpa using one
    | cons t parts =>
      rw [String.intercalate_cons_of_ne_nil (by simp)]
      exact .cons hs (ih (by simp) fun u hu => h u (List.mem_cons_of_mem _ hu))

end FilterSql.Sql.Grammar
