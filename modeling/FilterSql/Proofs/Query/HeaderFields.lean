import FilterSql.Proofs.Catalog.Aliases
import FilterSql.Proofs.Query.FilterMeaning

/-!
# Header fields

On a line table the fields that only the header table has are to be tested and looked up there.
`Compilation.origin` says of every column that a WHERE clause names where it comes from.
`headerFieldLaw_iff`: the terms of a filter and the order keep to the law, and an implicit filter on
such a field breaks it, because it is always put to the line table.
-/

namespace FilterSql.Sql

-- ---------------------------------------------------------------------------
-- Columns and conjuncts
-- ---------------------------------------------------------------------------

/-- The columns that an expression names, in its subqueries as well. -/
def Expr.columns : Expr → List Query.Column
  | .compare c _ _ | .like c _ _ | .among c _ | .null c => [c]
  | .member c selected _ filter => c :: selected :: filter.columns
  | .not e => e.columns
  | .and a b => a.columns ++ b.columns

/-- The expressions that AND joins. -/
def Expr.conjuncts : Expr → List Expr
  | .and a b => a.conjuncts ++ b.conjuncts
  | e => [e]

def Order.columns : Order → List Query.Column
  | .column c => [c]
  | .lookup selected _ key reference => [selected, key, reference]

namespace Select

def conjuncts (q : Select) : List Expr := q.filter.toList.flatMap Expr.conjuncts

def columns (q : Select) : List Query.Column :=
  q.filter.toList.flatMap Expr.columns ++ q.order.columns

end Select

end FilterSql.Sql

namespace FilterSql.Query

open Sql

theorem flatMap_allOf {f : Expr → List α} (hf : ∀ a b, f (.and a b) = f a ++ f b)
    (es : List Expr) : (allOf es).toList.flatMap f = es.flatMap f := by
  induction es with
  | nil => rfl
  | cons e es ih =>
    rw [List.flatMap_cons, ← ih]
    cases h : allOf es with
    | none => simp [allOf, h]
    | some all => simp [allOf, h, hf]

theorem eq_flatMap_of_allOf {f : Expr → List α} (hf : ∀ a b, f (.and a b) = f a ++ f b)
    (h : allOf es = some all) : f all = es.flatMap f := by
  rw [← flatMap_allOf hf, h, Option.toList_some, List.flatMap_singleton]

namespace Condition

theorem columns_signed (negated : Bool) (e : Expr) : (signed negated e).columns = e.columns := by
  cases negated <;> rfl

theorem columns_of_mem_exprs {c : Condition} (h : e ∈ c.exprs d) :
    ∀ col ∈ e.columns, col = c.column := by
  cases c with
  | within c first last =>
    rcases List.mem_pair.mp h with rfl | rfl
    · exact fun col hcol => List.mem_singleton.mp hcol
    · exact fun col hcol => List.mem_singleton.mp hcol
  | outside c first last =>
    obtain rfl := List.mem_singleton.mp h
    exact fun col hcol => (List.mem_pair.mp hcol).elim id id
  | compare c op v | bound c op day =>
    obtain rfl := List.mem_singleton.mp h
    exact fun col hcol => List.mem_singleton.mp hcol
  | like c negated _ | among c negated _ | null c negated =>
    obtain rfl := List.mem_singleton.mp h
    rw [columns_signed]
    exact fun col hcol => List.mem_singleton.mp hcol

/-- No phrase of a condition has an AND of its own outside of parentheses. -/
theorem conjuncts_of_mem_exprs {c : Condition} (h : e ∈ c.exprs d) : e.conjuncts = [e] := by
  cases c with
  | within c first last => rcases List.mem_pair.mp h with rfl | rfl <;> rfl
  | compare c op v | bound c op day | outside c first last =>
    obtain rfl := List.mem_singleton.mp h
    rfl
  | like c negated _ | among c negated _ | null c negated =>
    obtain rfl := List.mem_singleton.mp h
    cases negated <;> rfl

end Condition

-- ---------------------------------------------------------------------------
-- Where the columns come from
-- ---------------------------------------------------------------------------

/-- Why a WHERE clause names a column. -/
inductive ColumnOrigin (found : ResolvedRecord) (ts : List Term) : Column → Prop
  | header (hlink : found.entry.header = some link) (name : String) :
      ColumnOrigin found ts (link.tableRef.column name)
  | foreignKey (hlink : found.entry.header = some link) :
      ColumnOrigin found ts ((sourceOf found).column link.foreignKey)
  | own (ht : t ∈ ts) (h : found.entry.isHeaderField t.field.text = false) :
      ColumnOrigin found ts ((sourceOf found).column t.field.text)
  | implicit (hf : f ∈ found.entry.implicitFilters)
      (unnamed : ∀ t ∈ ts, Text.sameIgnoringAsciiCase t.field.text f.field = false) :
      ColumnOrigin found ts ((sourceOf found).column f.field)

variable {config : Config} {found : ResolvedRecord} {ts : List Term}

theorem columns_of_memberPredicates {source : TableRef} {entry : CatalogEntry}
    {onHeader : List Condition} (hp : p ∈ memberPredicates source entry onHeader)
    (he : e ∈ p.exprs d) (hcol : col ∈ e.columns) :
    ∃ link, entry.header = some link ∧ (col = source.column link.foreignKey ∨
      col = link.tableRef.column primaryKey ∨ ∃ c ∈ onHeader, col = c.column) := by
  unfold memberPredicates at hp
  split at hp
  · cases hp
  · rename_i link hlink
    split at hp
    · cases hp
    · obtain rfl := List.mem_singleton.mp hp
      obtain ⟨inner, hinner, rfl⟩ := Option.map_eq_some_iff.mp (Option.mem_toList.mp he)
      have columns : inner.columns = (onHeader.flatMap (·.exprs d)).flatMap Expr.columns :=
        eq_flatMap_of_allOf (fun _ _ => rfl) hinner
      refine ⟨link, hlink, ?_⟩
      rcases List.mem_cons.mp hcol with rfl | hcol
      · exact .inl rfl
      · rcases List.mem_cons.mp hcol with rfl | hcol
        · exact .inr (.inl rfl)
        · rw [columns] at hcol
          obtain ⟨e, he, hcol⟩ := List.mem_flatMap.mp hcol
          obtain ⟨c, hc, he⟩ := List.mem_flatMap.mp he
          exact .inr (.inr ⟨c, hc, Condition.columns_of_mem_exprs he col hcol⟩)

theorem Compilation.origin (made : Compilation config r found ts c) (hp : p ∈ c.predicates)
    (he : e ∈ p.exprs d) (hcol : col ∈ e.columns) : ColumnOrigin found ts col := by
  obtain ⟨onTerms, honTerms, hpredicates⟩ := made.predicates
  obtain ⟨onHeader, own, hheader, hown, rfl⟩ := termPredicates_eq_ok honTerms
  rw [hpredicates, List.mem_append, List.mem_append] at hp
  rcases hp with (hp | hp) | hp
  · obtain ⟨link, hlink, rfl | rfl | ⟨c, hc, rfl⟩⟩ := columns_of_memberPredicates hp he hcol
    · exact .foreignKey hlink
    · exact .header hlink primaryKey
    · obtain ⟨t, -, linked, hlinked, ht⟩ := exists_of_mem_right hheader hc
      rw [(Term.denotes_of_condition ht).column]
      exact .header hlinked t.field.text
  · obtain ⟨c, hc, rfl⟩ := List.mem_map.mp hp
    obtain ⟨t, ht, hcondition⟩ := exists_of_mem_right hown hc
    obtain ⟨ht, hfield⟩ := mem_ownTerms.mp ht
    rw [Condition.columns_of_mem_exprs he col hcol, (Term.denotes_of_condition hcondition).column]
    exact .own ht hfield
  · obtain ⟨f, hf, rfl⟩ := List.mem_map.mp hp
    obtain ⟨hf, unnamed⟩ := List.mem_filter.mp hf
    replace he : e ∈ (Condition.compare ((sourceOf found).column f.field) .eq
      (.text f.value)).exprs d := he
    rw [Condition.columns_of_mem_exprs he col hcol]
    exact .implicit hf (namesField_eq_false.mp (by simpa using unnamed))

theorem mem_columns_tree {c : Compiled} : col ∈ (c.tree d).columns ↔
    (∃ p ∈ c.predicates, ∃ e ∈ p.exprs d, col ∈ e.columns) ∨ col ∈ c.plan.orderTree.columns := by
  have clause : (c.tree d).columns =
      (c.predicates.flatMap (·.exprs d)).flatMap Expr.columns ++ c.plan.orderTree.columns :=
    congrArg (· ++ _) (flatMap_allOf (fun _ _ => rfl) _)
  simp only [clause, List.mem_append, List.mem_flatMap]
  constructor
  · rintro (⟨e, ⟨p, hp, he⟩, hcol⟩ | hcol)
    · exact .inl ⟨p, hp, e, he, hcol⟩
    · exact .inr hcol
  · rintro (⟨p, hp, e, he, hcol⟩ | hcol)
    · exact .inl ⟨e, ⟨p, hp, he⟩, hcol⟩
    · exact .inr hcol

-- ---------------------------------------------------------------------------
-- The law
-- ---------------------------------------------------------------------------

/-- A field that only the header table has. The foreign key is one of the line table in any case. -/
def HeaderOnly (link : HeaderLink) (field : String) : Prop :=
  Text.lowercase field ∈ link.fields ∧ Text.lowercase field ≠ Text.lowercase link.foreignKey

/-- All of the expressions are tested at once of the header row in a subquery. -/
def TestsHeader (link : HeaderLink) (q : Select) (es : List Expr) : Prop :=
  ∃ inner, Expr.member ⟨q.source.aliasName, link.foreignKey⟩ ⟨link.aliasName, "id"⟩
    ⟨link.table, link.aliasName⟩ inner ∈ q.conjuncts ∧ ∀ e ∈ es, e ∈ inner.conjuncts

/-- Fields of the header are read from the header only. -/
structure HeaderFieldLaw (config : Config) (r : Request) (entry : CatalogEntry) (link : HeaderLink)
    (ts : List Term) (q : Select) : Prop where
  apart : ∀ c ∈ q.columns, Text.lowercase c.aliasName = Text.lowercase q.source.aliasName →
    ¬ HeaderOnly link c.name
  terms : ∀ t ∈ ts, HeaderOnly link t.field.text →
    ∃ c, t.condition config link.aliasName = .ok c ∧ TestsHeader link q (c.exprs config.dialect)
  implicit : ∀ f ∈ entry.implicitFilters,
    (∀ t ∈ ts, Text.sameIgnoringAsciiCase t.field.text f.field = false) →
    HeaderOnly link f.field →
    TestsHeader link q [.compare ⟨link.aliasName, f.field⟩ .eq (.value (.text f.value))]
  order : ∀ name, orderColumn r.orderBy = .ok (some name) → HeaderOnly link name.text →
    q.order = .lookup ⟨link.aliasName, name.text⟩ ⟨link.table, link.aliasName⟩
      ⟨link.aliasName, "id"⟩ ⟨q.source.aliasName, link.foreignKey⟩

theorem not_headerOnly_foreignKey (link : HeaderLink) : ¬ HeaderOnly link link.foreignKey :=
  fun h => h.2 rfl

theorem not_headerOnly_of_own {entry : CatalogEntry} (hlink : entry.header = some link)
    (h : entry.isHeaderField field = false) : ¬ HeaderOnly link field := by
  intro hfield
  rw [(isHeaderField_iff hlink).mpr hfield.1] at h
  cases h

-- ---------------------------------------------------------------------------
-- What keeps to the law
-- ---------------------------------------------------------------------------

theorem Compilation.orderTree (made : Compilation config r found ts c)
    (hlink : found.entry.header = some link) :
    ∃ orderBy, orderColumn r.orderBy = .ok orderBy ∧
      c.plan.orderTree = match orderBy with
        | none => .column ((sourceOf found).column link.foreignKey)
        | some field =>
          if found.entry.isHeaderField field.text then
            .lookup (link.tableRef.column field.text) link.tableRef
              (link.tableRef.column primaryKey) ((sourceOf found).column link.foreignKey)
          else .column ((sourceOf found).column field.text) := by
  obtain ⟨orderBy, horderBy, horder⟩ := made.order
  refine ⟨orderBy, horderBy, ?_⟩
  rw [Plan.orderTree, horder, made.source]
  unfold orderKey
  rw [hlink]
  cases orderBy with
  | none => rfl
  | some field =>
    cases hfield : found.entry.isHeaderField field.text with
    | false => simp [hfield]
    | true => simp [hfield]

theorem Compilation.order_apart (made : Compilation config r found ts c)
    (hlink : found.entry.header = some link) (hcol : col ∈ c.plan.orderTree.columns) :
    col.aliasName = link.aliasName ∨ ¬ HeaderOnly link col.name := by
  obtain ⟨orderBy, -, htree⟩ := made.orderTree hlink
  rw [htree] at hcol
  cases orderBy with
  | none =>
    obtain rfl := List.mem_singleton.mp hcol
    exact .inr (not_headerOnly_foreignKey link)
  | some field =>
    simp only at hcol
    split at hcol
    · simp only [Order.columns, List.mem_cons, List.not_mem_nil, or_false] at hcol
      obtain rfl | rfl | rfl := hcol
      · exact .inl rfl
      · exact .inl rfl
      · exact .inr (not_headerOnly_foreignKey link)
    · rename_i hfield
      obtain rfl := List.mem_singleton.mp hcol
      exact .inr (not_headerOnly_of_own hlink (Bool.eq_false_iff.mpr hfield))

theorem Compilation.testsHeader (made : Compilation config r found ts c)
    (hlink : found.entry.header = some link) (ht : t ∈ ts)
    (hfield : found.entry.isHeaderField t.field.text = true) :
    ∃ cond, t.condition config link.aliasName = .ok cond ∧
      TestsHeader link (c.tree config.dialect) (cond.exprs config.dialect) := by
  obtain ⟨onTerms, honTerms, hpredicates⟩ := made.predicates
  obtain ⟨onHeader, own, hheader, -, rfl⟩ := termPredicates_eq_ok honTerms
  obtain ⟨cond, hcond, linked, hlinked, hcondition⟩ :=
    exists_of_mem_left hheader (mem_headerTerms.mpr ⟨ht, hfield⟩)
  obtain rfl : link = linked := Option.some.inj (hlink.symm.trans hlinked)
  obtain ⟨inner, hinner⟩ := exists_allOf
    (Text.flatMap_ne_nil (List.ne_nil_of_mem hcond) fun c _ => exprs_ne_nil c config.dialect)
  have innerConjuncts : inner.conjuncts =
      (onHeader.flatMap (·.exprs config.dialect)).flatMap Expr.conjuncts :=
    eq_flatMap_of_allOf (fun _ _ => rfl) hinner
  have outerConjuncts : (c.tree config.dialect).conjuncts =
      (c.predicates.flatMap (·.exprs config.dialect)).flatMap Expr.conjuncts :=
    flatMap_allOf (fun _ _ => rfl) _
  have member : Predicate.headerMember ((sourceOf found).column link.foreignKey) link.tableRef
      onHeader ∈ c.predicates := by
    rw [hpredicates, memberPredicates, hlink]
    simp [List.ne_nil_of_mem hcond]
  refine ⟨cond, hcondition, inner, ?_, fun e he => ?_⟩
  · have source : (c.tree config.dialect).source = sourceOf found := made.source
    rw [outerConjuncts, source]
    refine List.mem_flatMap.mpr ⟨.member _ _ _ inner, List.mem_flatMap.mpr ⟨_, member, ?_⟩,
      List.mem_singleton_self _⟩
    rw [Predicate.exprs, hinner]
    exact List.mem_singleton_self _
  · rw [innerConjuncts]
    refine List.mem_flatMap.mpr ⟨e, List.mem_flatMap.mpr ⟨cond, hcond, he⟩, ?_⟩
    rw [Condition.conjuncts_of_mem_exprs he]
    exact List.mem_singleton_self e

-- ---------------------------------------------------------------------------
-- What breaks the law
-- ---------------------------------------------------------------------------

theorem Compilation.mem_columns_of_implicit (made : Compilation config r found ts c)
    (hf : f ∈ found.entry.implicitFilters)
    (unnamed : ∀ t ∈ ts, Text.sameIgnoringAsciiCase t.field.text f.field = false) (d : Dialect) :
    (sourceOf found).column f.field ∈ (c.tree d).columns := by
  obtain ⟨onTerms, -, hpredicates⟩ := made.predicates
  have filtered : f ∈ found.entry.implicitFilters.filter fun f => !namesField ts f.field :=
    List.mem_filter.mpr ⟨hf, by simpa using namesField_eq_false.mpr unnamed⟩
  have predicate : Predicate.plain (.compare ((sourceOf found).column f.field) .eq
      (.text f.value)) ∈ c.predicates := by
    rw [hpredicates]
    exact List.mem_append_right _ (List.mem_map.mpr ⟨f, filtered, rfl⟩)
  have named : (sourceOf found).column f.field ∈
      (Expr.compare ((sourceOf found).column f.field) .eq (.value (.text f.value))).columns :=
    List.mem_singleton_self _
  exact mem_columns_tree.mpr (.inl ⟨_, predicate, _, List.mem_singleton_self _, named⟩)

/-- The law holds of a statement on a line table if and only if no implicit filter that it carries
is on a field of the header. -/
theorem headerFieldLaw_iff (built : catalog.Built) (h : compile catalog config r = .ok c) :
    ∃ found ts q, Concerns catalog r found ts ∧ read? c.statement = some q ∧
      q.source = sourceOf found ∧ ∀ link, found.entry.header = some link →
        (HeaderFieldLaw config r found.entry link ts q ↔ ∀ f ∈ found.entry.implicitFilters,
          (∀ t ∈ ts, Text.sameIgnoringAsciiCase t.field.text f.field = false) →
            ¬ HeaderOnly link f.field) := by
  obtain ⟨found, ts, concerns, made, wellFormed, hfilter⟩ := compilation_of_compile built h
  obtain ⟨name, -, hfound⟩ := concerns.resolved
  have hsource : (c.tree config.dialect).source = sourceOf found := made.source
  refine ⟨found, ts, c.tree config.dialect, concerns, Compiled.read_statement wellFormed hfilter,
    hsource, fun link hlink => ⟨fun law f hf unnamed => ?_, fun lawful => ?_⟩⟩
  · have onLine : ((sourceOf found).column f.field).aliasName =
        (c.tree config.dialect).source.aliasName := by rw [hsource]; rfl
    exact law.apart ((sourceOf found).column f.field) (made.mem_columns_of_implicit hf unnamed _)
      (congrArg Text.lowercase onLine)
  · -- What is called by the alias of the header is not read from the line table.
    have distinct := built.resolve_apart hfound hlink
    constructor
    · intro col hcol halias
      rw [hsource] at halias
      rcases mem_columns_tree.mp hcol with ⟨p, hp, e, he, hcol⟩ | hcol
      · cases made.origin hp he hcol with
        | header hlinked name =>
          obtain rfl := Option.some.inj (hlink.symm.trans hlinked)
          exact absurd halias.symm distinct
        | foreignKey hlinked =>
          obtain rfl := Option.some.inj (hlink.symm.trans hlinked)
          exact not_headerOnly_foreignKey link
        | own ht hfield => exact not_headerOnly_of_own hlink hfield
        | implicit hf unnamed => exact lawful _ hf unnamed
      · rcases made.order_apart hlink hcol with hheader | hname
        · rw [hheader] at halias
          exact absurd halias.symm distinct
        · exact hname
    · intro t ht hfield
      exact made.testsHeader hlink ht ((isHeaderField_iff hlink).mpr hfield.1)
    · intro f hf unnamed hfield
      exact absurd hfield (lawful f hf unnamed)
    · intro name hname hfield
      obtain ⟨orderBy, horderBy, htree⟩ := made.orderTree hlink
      obtain rfl := Except.ok.inj (hname.symm.trans horderBy)
      simp only [(isHeaderField_iff hlink).mpr hfield.1, if_true] at htree
      rw [hsource]
      exact htree

def lineOfHead : HeaderLink := ⟨"head", "h", "fk", ["name"]⟩

/-- The name of an order is tested and looked up in the order; the kind of a line is its own. -/
theorem headerFieldLaw_linesOfADay : orderLines.Built ∧ ∃ c q,
    compile orderLines {} linesOfADay = .ok c ∧ read? c.statement = some q ∧
    HeaderFieldLaw {} linesOfADay orderLine lineOfHead termsOfADay q := by
  obtain ⟨c, hc, -⟩ := compile_linesOfADay
  obtain ⟨found, ts, q, concerns, hread, -, law⟩ := headerFieldLaw_iff built_orderLines hc
  obtain ⟨rfl, rfl⟩ := concerns_linesOfADay concerns
  refine ⟨built_orderLines, c, q, hc, hread, (law lineOfHead rfl).mpr fun f hf _ hfield => ?_⟩
  obtain rfl := List.mem_singleton.mp hf
  have kind : Text.lowercase "kind" ∉ lineOfHead.fields := by decide +kernel
  exact kind hfield.1

def namedLine : CatalogEntry where
  table := "line"
  header := some lineOfHead
  implicitFilters := [⟨"name", "A"⟩]

def namedLines : Catalog := .build [("line", namedLine)]

def allLines : Request where
  recordType := some "line"

/-- The name of the order is taken to be one of the line. -/
theorem not_headerFieldLaw_namedLines : namedLines.Built ∧ ∃ c q,
    compile namedLines {} allLines = .ok c ∧
    c.statement = ⟨"SELECT l.* FROM line l WHERE l.name = ? ORDER BY l.fk ASC", [.text "A"]⟩ ∧
    read? c.statement = some q ∧ ¬ HeaderFieldLaw {} allLines namedLine lineOfHead [] q := by
  have built : namedLines.Built :=
    .ofEntries (show Catalog.ofEntries [("line", namedLine)] = .ok namedLines from rfl)
  obtain ⟨c, hc, hstatement⟩ : ∃ c, compile namedLines {} allLines = .ok c ∧ c.statement =
      ⟨"SELECT l.* FROM line l WHERE l.name = ? ORDER BY l.fk ASC", [.text "A"]⟩ :=
    exists_ok_of_toOption (by decide +kernel)
  have hread : read? ⟨"SELECT l.* FROM line l WHERE l.name = ? ORDER BY l.fk ASC", [.text "A"]⟩ =
      some ⟨[.all "l"], ⟨"line", "l"⟩, some (.compare ⟨"l", "name"⟩ .eq (.value (.text "A"))),
        .column ⟨"l", "fk"⟩, false⟩ := by decide +kernel
  refine ⟨built, c, _, hc, hstatement, hstatement ▸ hread, fun law => ?_⟩
  have onLine : (⟨"l", "name"⟩ : Column) ∈ [⟨"l", "name"⟩, ⟨"l", "fk"⟩] := List.mem_cons_self
  have name : HeaderOnly lineOfHead "name" := ⟨by decide +kernel, by decide +kernel⟩
  exact law.apart ⟨"l", "name"⟩ onLine rfl name

end FilterSql.Query
