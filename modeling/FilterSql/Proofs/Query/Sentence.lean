import FilterSql.Proofs.Query.Compilation
import FilterSql.Proofs.Query.ConditionText
import FilterSql.Proofs.Sql.Grammar

/-!
# Statements are sentences

`statement_sentence`: the statement of a compiled request is a sentence of the grammar, over the
names of the catalog entry and of the request alone, whatever values the filter holds.
-/

namespace FilterSql.Query

open Sql

def scopeOf (found : ResolvedRecord) (r : Request) (ts : List Term) : Grammar.Scope where
  table := found.entry.table
  aliasName := found.aliasName
  link := found.entry.header.map fun h => ⟨h.table, h.aliasName, h.foreignKey⟩
  selected name := ∃ fields, r.fields = some fields ∧ name ∈ fields.map Text.trim
  tested name := (∃ t ∈ ts, t.field.text = name) ∨ ∃ f ∈ found.entry.implicitFilters, f.field = name
  ordered name := r.orderBy.bind Text.trimmed? = some name ∨
    (∃ h, found.entry.header = some h ∧ h.foreignKey = name) ∨ name = "id"

theorem isName_of_isSafeIdentifier (safe : isSafeIdentifier name = true) : Grammar.IsName name := by
  obtain ⟨c, rest, hname, hc, hrest⟩ := isSafeIdentifier_iff.mp safe
  exact ⟨c, rest, hname, isAlpha_of_isIdentifierStart hc, fun d hd =>
    isAlphanum_of_isIdentifierPart (hrest d hd)⟩

theorem cmp_of_sign (h : Sign op sign) : Grammar.Cmp sign := by
  cases h <;> constructor

theorem day_of_mark (h : DayMark d mark) : Grammar.Day mark := by
  cases h <;> constructor

theorem direction_keyword (d : Direction) : Grammar.Direction d.keyword := by
  cases d <;> constructor

theorem column_sentence {c : Column} {names : String → Prop} (safe : c.Safe) (h : names c.name) :
    Grammar.Column names c.aliasName c.sql :=
  .mk (isName_of_isSafeIdentifier safe.1) (isName_of_isSafeIdentifier safe.2) h

theorem marks_sentence {vs : List Scalar} (h : vs ≠ []) :
    Grammar.Separated ", " (· = "?") (", ".intercalate (vs.map fun _ => "?")) := by
  refine Grammar.separated_intercalate (by simpa using h) fun s hs => ?_
  obtain ⟨_, _, rfl⟩ := List.mem_map.mp hs
  rfl

theorem condition_sentence {names : String → Prop} {c : Condition} (wellFormed : c.WellFormed)
    (h : names c.column.name) (d : Dialect) :
    Grammar.Test names c.column.aliasName (c.fragment d).sql := by
  have hcolumn := column_sentence wellFormed.column h
  have filled := wellFormed.filled
  have writes := c.writes_fragment d
  generalize (c.fragment d).sql = sql, (c.fragment d).params = params at writes ⊢
  cases writes with
  | compare hop => exact .compare hcolumn (cmp_of_sign hop)
  | bound hop hd => exact .day hcolumn (cmp_of_sign hop) (day_of_mark hd)
  | within hd => exact .range hcolumn (day_of_mark hd)
  | outside hd => exact .outside hcolumn (day_of_mark hd)
  | like => exact .like hcolumn
  | notLike => exact .notLike hcolumn
  | among => exact .among hcolumn (marks_sentence filled)
  | notAmong => exact .notAmong hcolumn (marks_sentence filled)
  | null => exact .null hcolumn
  | notNull => exact .notNull hcolumn

theorem term_sentence {config : Config} {found : ResolvedRecord} {r : Request} (ht : t ∈ ts)
    (halias : isSafeIdentifier a = true) (h : t.condition config a = .ok c) :
    Grammar.Test (scopeOf found r ts).tested a (c.fragment config.dialect).sql := by
  have hcolumn := (Term.denotes_of_condition h).column
  have tested : (scopeOf found r ts).tested c.column.name := by
    rw [hcolumn]
    exact .inl ⟨t, ht, rfl⟩
  have whole := condition_sentence (condition_wellFormed halias h) tested config.dialect
  rwa [hcolumn] at whole

-- ---------------------------------------------------------------------------
-- The parts of a statement
-- ---------------------------------------------------------------------------

theorem member_sentence {found : ResolvedRecord} {r : Request}
    (safe : found.entry.Safe found.key) (halias : isSafeIdentifier found.aliasName = true)
    (hconditions : ∀ c ∈ onHeader, ∀ link, found.entry.header = some link →
      Grammar.Test (scopeOf found r ts).tested link.aliasName (Condition.fragment d c).sql)
    (h : p ∈ memberPredicates (sourceOf found) found.entry onHeader) :
    Grammar.Predicate (scopeOf found r ts) (p.fragment d).sql := by
  unfold memberPredicates at h
  split at h
  · cases h
  · rename_i link hlink
    obtain ⟨hlinked, hkey⟩ := header_safe safe hlink
    split at h
    · cases h
    · rename_i hne
      obtain rfl := List.mem_singleton.mp h
      have inner : Grammar.Separated " AND "
          (Grammar.Test (scopeOf found r ts).tested link.aliasName)
          (Fragment.conjunction (onHeader.map (·.fragment d))).sql := by
        refine Grammar.separated_intercalate (by simpa using hne) fun s hs => ?_
        obtain ⟨_, hf, rfl⟩ := List.mem_map.mp hs
        obtain ⟨c, hc, rfl⟩ := List.mem_map.mp hf
        exact hconditions c hc link hlink
      have whole : Grammar.Predicate (scopeOf found r ts) _ := .member
        (congrArg (Option.map _) hlink) (isName_of_isSafeIdentifier hlinked.1)
        (column_sentence ((source_safe safe halias).column hkey) rfl)
        (column_sentence (hlinked.column isSafeIdentifier_primaryKey) rfl) inner
      simpa [Predicate.fragment, TableRef.sql, HeaderLink.tableRef, String.append_assoc] using whole

theorem predicate_sentence (made : Compilation config r found ts c)
    (safe : found.entry.Safe found.key) (halias : isSafeIdentifier found.aliasName = true)
    (hp : p ∈ c.predicates) :
    Grammar.Predicate (scopeOf found r ts) (p.fragment config.dialect).sql := by
  obtain ⟨onTerms, honTerms, hpredicates⟩ := made.predicates
  obtain ⟨onHeader, own, hheader, hown, rfl⟩ := termPredicates_eq_ok honTerms
  rw [hpredicates, List.mem_append, List.mem_append] at hp
  rcases hp with (hp | hp) | hp
  · refine member_sentence safe halias (fun c hc link hlink => ?_) hp
    obtain ⟨t, ht, other, hother, h⟩ := exists_of_mem_right hheader hc
    obtain rfl : other = link := Option.some.inj (hother.symm.trans hlink)
    exact term_sentence (List.mem_of_mem_filter ht) (header_safe safe hlink).1.2 h
  · obtain ⟨c, hc, rfl⟩ := List.mem_map.mp hp
    obtain ⟨t, ht, h⟩ := exists_of_mem_right hown hc
    exact .test (term_sentence (List.mem_of_mem_filter ht) halias h)
  · have wellFormed := implicitPredicates_wellFormed safe halias hp
    obtain ⟨f, hf, rfl⟩ := List.mem_map.mp hp
    have tested : (scopeOf found r ts).tested f.field := .inr ⟨f, List.mem_of_mem_filter hf, rfl⟩
    exact .test (condition_sentence (c := .compare _ _ _) wellFormed tested config.dialect)

theorem where_sentence {c : Compiled} (hfilter : c.plan.filter = c.predicates.map (·.fragment d))
    (h : ∀ p ∈ c.predicates, Grammar.Predicate scope (p.fragment d).sql) :
    Grammar.Where scope c.plan.whereSql := by
  unfold Plan.whereSql
  split
  · exact .absent
  · rename_i hne
    refine .present (Grammar.separated_intercalate (by simpa using hne) fun s hs => ?_)
    obtain ⟨_, hf, rfl⟩ := List.mem_map.mp hs
    rw [hfilter] at hf
    obtain ⟨p, hp, rfl⟩ := List.mem_map.mp hf
    exact h p hp

theorem orderColumn_eq_ok {id : Identifier} (h : orderColumn orderBy = .ok (some id)) :
    orderBy.bind Text.trimmed? = some id.text := by
  unfold orderColumn at h
  split at h
  · cases h
  · rename_i name hname
    obtain ⟨found, hfound, heq⟩ := map_eq_ok.mp h
    rw [hname, ← Option.some.inj heq, Identifier.check_eq_ok.mp hfound]

theorem items_sentence (made : Compilation config r found ts c)
    (safe : found.entry.Safe found.key) (halias : isSafeIdentifier found.aliasName = true) :
    Grammar.Separated ", " (Grammar.Item (scopeOf found r ts))
      (", ".intercalate c.plan.selectFields) := by
  have hsource := source_safe safe halias
  unfold Plan.selectFields
  rw [made.source]
  rcases selection_eq_ok made.select with hall | ⟨names, ids, hnames, hids, hne, htexts⟩
  · have whole : Grammar.Item (scopeOf found r ts) _ := .all (isName_of_isSafeIdentifier halias)
    have text : ((sourceOf found).column "*").sql = found.aliasName ++ ".*" :=
      String.append_assoc
    rw [hall]
    exact .single (text ▸ whole)
  · rw [hids]
    refine Grammar.separated_intercalate (by simpa using hne) fun s hs => ?_
    obtain ⟨id, hid, rfl⟩ := List.mem_map.mp hs
    have selected : (scopeOf found r ts).selected id.text := ⟨names, hnames, htexts id hid⟩
    exact .column (column_sentence (hsource.column id.safe) selected)

theorem order_sentence (made : Compilation config r found ts c)
    (safe : found.entry.Safe found.key) (halias : isSafeIdentifier found.aliasName = true) :
    Grammar.Order (scopeOf found r ts) c.plan.orderExpression := by
  have hsource := source_safe safe halias
  obtain ⟨orderBy, horderBy, horder⟩ := made.order
  have requested (id : Identifier) (h : orderBy = some id) :
      (scopeOf found r ts).ordered id.text :=
    .inl (orderColumn_eq_ok (h ▸ horderBy))
  have plain (name : String) (hname : isSafeIdentifier name = true)
      (h : (scopeOf found r ts).ordered name) :
      Grammar.Order (scopeOf found r ts) ((sourceOf found).column name).sql :=
    .column (column_sentence (hsource.column hname) h)
  unfold Plan.orderExpression
  rw [made.source, horder]
  unfold orderKey
  cases orderBy with
  | none =>
    cases hlink : found.entry.header with
    | none => exact plain primaryKey isSafeIdentifier_primaryKey (.inr (.inr rfl))
    | some link =>
      exact plain link.foreignKey (header_safe safe hlink).2 (.inr (.inl ⟨link, hlink, rfl⟩))
  | some id =>
    cases hlink : found.entry.header with
    | none => exact plain id.text id.safe (requested id rfl)
    | some link =>
      obtain ⟨hlinked, hkey⟩ := header_safe safe hlink
      by_cases hfield : found.entry.isHeaderField id.text = true
      · have whole : Grammar.Order (scopeOf found r ts) _ := .lookup
          (congrArg (Option.map _) hlink) (isName_of_isSafeIdentifier hlinked.1)
          (column_sentence (hlinked.column id.safe) (requested id rfl))
          (column_sentence (hlinked.column isSafeIdentifier_primaryKey) rfl)
          (column_sentence (hsource.column hkey) rfl)
        simpa [hfield, TableRef.sql, HeaderLink.tableRef, String.append_assoc] using whole
      · simpa [hfield] using plain id.text id.safe (requested id rfl)

/-- The statement of a compiled request is a sentence of the grammar. The alias of the base table is
that of the record type, the subqueries are on the header table of the entry under its alias, and
every other name is one of the entry or of the request, in the place where it belongs. -/
theorem statement_sentence (built : catalog.Built) (h : compile catalog config r = .ok c) :
    ∃ found ts, Concerns catalog r found ts ∧
      Grammar.Sentence (scopeOf found r ts) c.statement.sql := by
  obtain ⟨found, ts, concerns, made, -, hfilter⟩ := compilation_of_compile built h
  obtain ⟨safe, halias⟩ := concerns.safe built
  refine ⟨found, ts, concerns, ?_⟩
  have whole : Grammar.Sentence (scopeOf found r ts) _ := .mk
    (isName_of_isSafeIdentifier (source_safe safe halias).1) (isName_of_isSafeIdentifier halias)
    (items_sentence made safe halias)
    (where_sentence hfilter fun p hp => predicate_sentence made safe halias hp)
    (order_sentence made safe halias) (direction_keyword c.plan.direction)
  have text : c.statement.sql = "SELECT " ++ ", ".intercalate c.plan.selectFields ++ " FROM " ++
      found.entry.table ++ " " ++ found.aliasName ++ c.plan.whereSql ++ " ORDER BY " ++
      c.plan.orderExpression ++ " " ++ c.plan.direction.keyword := by
    simp [Compiled.statement, Plan.statement, Plan.orderSql, made.source, sourceOf, TableRef.sql,
      String.append_assoc]
  exact text ▸ whole

/-- A sentence with a subquery in each of its clauses. -/
theorem statement_sentence_linesOfADay : orderLines.Built ∧ ∃ c found ts,
    compile orderLines {} linesOfADay = .ok c ∧ Concerns orderLines linesOfADay found ts ∧
    Grammar.Sentence (scopeOf found linesOfADay ts)
      ("SELECT l.* FROM line l WHERE l.fk IN (SELECT h.id FROM head h WHERE h.name " ++
        "LIKE ? ESCAPE '\\') AND l.d >= ? AND l.d < ? AND l.kind = ? ORDER BY " ++
        "(SELECT h.name FROM head h WHERE h.id = l.fk) ASC") := by
  obtain ⟨c, hc, hstatement⟩ := compile_linesOfADay
  obtain ⟨found, ts, concerns, sentence⟩ := statement_sentence built_orderLines hc
  rw [hstatement] at sentence
  exact ⟨built_orderLines, c, found, ts, hc, concerns, sentence⟩

end FilterSql.Query
