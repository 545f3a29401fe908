import FilterSql.Proofs.Query.Compilation
import FilterSql.Proofs.Query.TermMeaning

/-!
# What a filter means

`statement_means`: the WHERE clause of a compiled request admits a row if and only if the terms of
the filter and the implicit filters hold of it. The clause is taken from the text of the statement:
it is read back from there with the parameters and given its three-valued meaning.
-/

namespace FilterSql.Query

open Sql

variable {V : Type} (s : Store V)

/-- What a filter with terms `ts` asks of a row of the table of an entry. -/
structure FilterHolds (config : Config) (entry : CatalogEntry) (tables : Tables V) (row : Row V)
    (ts : List Term) : Prop where
  own : ∀ t ∈ ts, entry.isHeaderField t.field.text = false → t.Holds s config (row t.field.text)
  /-- One row of the header table answers all terms on header fields at once. -/
  header : ∀ link, entry.header = some link → (∃ t ∈ ts, entry.isHeaderField t.field.text = true) →
    ∃ other ∈ tables link.table, Related s (row link.foreignKey) .eq (other "id") ∧
      ∀ t ∈ ts, entry.isHeaderField t.field.text = true →
        t.Holds s config (other t.field.text)
  implicit : ∀ f ∈ entry.implicitFilters,
    (∀ t ∈ ts, Text.sameIgnoringAsciiCase t.field.text f.field = false) →
      Related s (row f.field) .eq (some (s.ofScalar (.text f.value)))

theorem FilterHolds.of_perm {config : Config} {entry : CatalogEntry} {tables : Tables V}
    {row : Row V} {ts us : List Term} (h : FilterHolds s config entry tables row ts)
    (perm : ts.Perm us) : FilterHolds s config entry tables row us := by
  refine ⟨fun t ht => h.own t (perm.mem_iff.mpr ht), fun link hlink hsome => ?_,
    fun f hf hunnamed => h.implicit f hf fun t ht => hunnamed t (perm.mem_iff.mp ht)⟩
  obtain ⟨t, ht, hheader⟩ := hsome
  obtain ⟨other, hother, hrelated, hterms⟩ :=
    h.header link hlink ⟨t, perm.mem_iff.mpr ht, hheader⟩
  exact ⟨other, hother, hrelated, fun t ht => hterms t (perm.mem_iff.mpr ht)⟩

-- ---------------------------------------------------------------------------
-- Scopes
-- ---------------------------------------------------------------------------

theorem value?_innermost (a : String) (row : Row V) (scope : Scope V) (name : String) :
    Scope.value? ((a, row) :: scope) ⟨a, name⟩ = some (row name) := by
  simp [Scope.value?]

theorem exists_allOf {es : List Expr} (h : es ≠ []) : ∃ e, allOf es = some e := by
  obtain ⟨e, es, rfl⟩ := List.exists_cons_of_ne_nil h
  exact ⟨_, rfl⟩

theorem eval_allOf {tables : Tables V} {scope : Scope V} (es : List Expr) :
    (∀ e ∈ allOf es, e.eval s tables scope = some true) ↔
      ∀ e ∈ es, e.eval s tables scope = some true := by
  induction es with
  | nil => simp [allOf]
  | cons e es ih =>
    rw [List.forall_mem_cons, ← ih]
    cases h : allOf es with
    | none => simp [allOf, h]
    | some all => simp [allOf, h, Expr.eval, Truth.and_eq_true]

theorem eval_term {config : Config} {t : Term} {tables : Tables V} {scope : Scope V} {row : Row V}
    (h : t.condition config a = .ok c) :
    (∀ e ∈ c.exprs config.dialect, e.eval s tables ((a, row) :: scope) = some true) ↔
      t.Holds s config (row t.field.text) := by
  have denotes := Term.denotes_of_condition h
  rw [← denotes.holds s]
  refine eval_exprs s ?_ config.dialect
  rw [denotes.column]
  exact value?_innermost a row scope t.field.text

theorem forall_related {R : α → β → Prop} {P : α → Prop} {Q : β → Prop}
    (h : List.Forall₂ R as bs) (hR : ∀ a b, R a b → (Q b ↔ P a)) :
    (∀ b ∈ bs, Q b) ↔ ∀ a ∈ as, P a := by
  induction h with
  | nil => simp
  | cons hab _ ih => rw [List.forall_mem_cons, List.forall_mem_cons, hR _ _ hab, ih]

-- ---------------------------------------------------------------------------
-- Membership of the header
-- ---------------------------------------------------------------------------

theorem eval_member {tables : Tables V} {scope : Scope V} {x : Option V} {c : Column}
    (hx : scope.value? c = some x) (header : TableRef) (name : String) (e : Expr) :
    (Expr.member c (header.column name) header e).eval s tables scope = some true ↔
      ∃ other ∈ tables header.table,
        Related s x .eq (other name) ∧
        e.eval s tables ((header.aliasName, other) :: scope) = some true := by
  have found (other : Row V) : (Scope.value? ((header.aliasName, other) :: scope)
      (header.column name)).join = other name := by
    rw [TableRef.column, value?_innermost, Option.join_some]
  rw [Expr.eval, Truth.any_eq_true, hx, Option.join_some]
  simp only [List.mem_map, List.mem_filter, decide_eq_true_eq]
  constructor
  · rintro ⟨inner, ⟨⟨other, hother, rfl⟩, htrue⟩, hrelated⟩
    rw [found, compares_eq_true] at hrelated
    exact ⟨other, hother, hrelated, htrue⟩
  · rintro ⟨other, hother, hrelated, htrue⟩
    refine ⟨_, ⟨⟨other, hother, rfl⟩, htrue⟩, ?_⟩
    rw [found, compares_eq_true]
    exact hrelated

theorem exprs_ne_nil (c : Condition) (d : Dialect) : c.exprs d ≠ [] := by
  cases c <;> exact List.cons_ne_nil _ _

theorem eval_memberPredicates {d : Dialect} {entry : CatalogEntry} {tables : Tables V} {row : Row V}
    {onHeader : List Condition} (source : TableRef) (hlink : entry.header = some link) :
    (∀ p ∈ memberPredicates source entry onHeader, ∀ e ∈ p.exprs d,
        e.eval s tables [(source.aliasName, row)] = some true) ↔
      (onHeader ≠ [] → ∃ other ∈ tables link.table,
        Related s (row link.foreignKey) .eq (other "id") ∧ ∀ c ∈ onHeader, ∀ e ∈ c.exprs d,
          e.eval s tables [(link.aliasName, other), (source.aliasName, row)] = some true) := by
  unfold memberPredicates
  rw [hlink]
  cases onHeader with
  | nil => simp
  | cons first more =>
    obtain ⟨all, hall⟩ := exists_allOf
      (Text.flatMap_ne_nil (List.cons_ne_nil first more) fun c _ => exprs_ne_nil c d)
    have atOnce (scope : Scope V) : all.eval s tables scope = some true ↔
        ∀ c ∈ first :: more, ∀ e ∈ c.exprs d, e.eval s tables scope = some true := by
      rw [← List.forall_mem_flatMap, ← eval_allOf, hall]
      simp
    have hkey : Scope.value? [(source.aliasName, row)] (source.column link.foreignKey) =
        some (row link.foreignKey) := value?_innermost source.aliasName row [] link.foreignKey
    simp only [List.isEmpty_cons, Bool.false_eq_true, if_false, List.forall_mem_singleton,
      Predicate.exprs, hall, Option.map_some, Option.toList_some, eval_member s hkey, atOnce]
    exact ⟨fun h _ => h, fun h => h (List.cons_ne_nil first more)⟩

-- ---------------------------------------------------------------------------
-- The whole filter
-- ---------------------------------------------------------------------------

theorem admits_tree {c : Compiled} {d : Dialect} {tables : Tables V} {row : Row V} :
    (c.tree d).Admits s tables row ↔ ∀ p ∈ c.predicates, ∀ e ∈ p.exprs d,
      e.eval s tables [(c.plan.source.aliasName, row)] = some true := by
  rw [← List.forall_mem_flatMap]
  exact eval_allOf s _

theorem namesField_eq_false {ts : List Term} {field : String} :
    namesField ts field = false ↔
      ∀ t ∈ ts, Text.sameIgnoringAsciiCase t.field.text field = false := by
  simp [namesField, Identifier.sameAs]

theorem eval_implicitPredicates {d : Dialect} {source : TableRef} {entry : CatalogEntry}
    {tables : Tables V} {row : Row V} {ts : List Term} :
    (∀ p ∈ implicitPredicates source entry ts, ∀ e ∈ p.exprs d,
        e.eval s tables [(source.aliasName, row)] = some true) ↔
      ∀ f ∈ entry.implicitFilters,
        (∀ t ∈ ts, Text.sameIgnoringAsciiCase t.field.text f.field = false) →
          Related s (row f.field) .eq (some (s.ofScalar (.text f.value))) := by
  have one (f : ImplicitFilter) :
      (∀ e ∈ (Condition.compare (source.column f.field) .eq (.text f.value)).exprs d,
        e.eval s tables [(source.aliasName, row)] = some true) ↔
      Related s (row f.field) .eq (some (s.ofScalar (.text f.value))) := by
    have hx : Scope.value? [(source.aliasName, row)] (source.column f.field) = some (row f.field) :=
      value?_innermost source.aliasName row [] f.field
    rw [eval_exprs s (c := .compare (source.column f.field) .eq (.text f.value)) hx d]
    rfl
  unfold implicitPredicates
  rw [List.forall_mem_map]
  simp only [List.mem_filter, Bool.not_eq_true', namesField_eq_false, Predicate.exprs, one,
    and_imp]

theorem mem_headerTerms {entry : CatalogEntry} {ts : List Term} :
    t ∈ headerTerms entry ts ↔ t ∈ ts ∧ entry.isHeaderField t.field.text = true :=
  List.mem_filter

theorem mem_ownTerms {entry : CatalogEntry} {ts : List Term} :
    t ∈ ownTerms entry ts ↔ t ∈ ts ∧ entry.isHeaderField t.field.text = false := by
  simp [ownTerms]

theorem eval_headerPredicates {config : Config} {entry : CatalogEntry} {tables : Tables V}
    {row : Row V} {ts : List Term} {onHeader : List Condition} (source : TableRef)
    (h : List.Forall₂ (fun t c => ∃ link, entry.header = some link ∧
      t.condition config link.aliasName = .ok c) (headerTerms entry ts) onHeader) :
    (∀ p ∈ memberPredicates source entry onHeader, ∀ e ∈ p.exprs config.dialect,
        e.eval s tables [(source.aliasName, row)] = some true) ↔
      ∀ link, entry.header = some link →
        (∃ t ∈ ts, entry.isHeaderField t.field.text = true) →
        ∃ other ∈ tables link.table, Related s (row link.foreignKey) .eq (other "id") ∧
          ∀ t ∈ ts, entry.isHeaderField t.field.text = true →
            t.Holds s config (other t.field.text) := by
  cases hlink : entry.header with
  | none => simp [memberPredicates, hlink]
  | some link =>
    have some_term : onHeader ≠ [] ↔ ∃ t ∈ ts, entry.isHeaderField t.field.text = true := by
      have lengths := h.length_eq
      rw [← List.length_pos_iff, ← lengths, List.length_pos_iff_exists_mem]
      simp only [mem_headerTerms]
    have terms (other : Row V) : (∀ c ∈ onHeader, ∀ e ∈ c.exprs config.dialect,
        e.eval s tables [(link.aliasName, other), (source.aliasName, row)] = some true) ↔
        ∀ t ∈ ts, entry.isHeaderField t.field.text = true →
          t.Holds s config (other t.field.text) := by
      rw [forall_related (P := fun t => t.Holds s config (other t.field.text)) h]
      · simp only [mem_headerTerms, and_imp]
      · rintro t c ⟨linked, hlinked, ht⟩
        obtain rfl : link = linked := Option.some.inj (hlink.symm.trans hlinked)
        exact eval_term s ht
    simp only [eval_memberPredicates s source hlink, some_term, terms, Option.some.injEq,
      forall_eq']

theorem eval_ownPredicates {config : Config} {entry : CatalogEntry} {tables : Tables V}
    {row : Row V} {ts : List Term} {own : List Condition} (source : TableRef)
    (h : List.Forall₂ (fun t c => t.condition config source.aliasName = .ok c) (ownTerms entry ts)
      own) :
    (∀ p ∈ own.map Predicate.plain, ∀ e ∈ p.exprs config.dialect,
        e.eval s tables [(source.aliasName, row)] = some true) ↔
      ∀ t ∈ ts, entry.isHeaderField t.field.text = false →
        t.Holds s config (row t.field.text) := by
  rw [List.forall_mem_map, forall_related (P := fun t => t.Holds s config (row t.field.text)) h]
  · simp only [mem_ownTerms, and_imp]
  · intro t c ht
    exact eval_term s ht

theorem Compilation.admits (made : Compilation config r found ts c) {tables : Tables V}
    {row : Row V} : (c.tree config.dialect).Admits s tables row ↔
      FilterHolds s config found.entry tables row ts := by
  obtain ⟨onTerms, honTerms, hpredicates⟩ := made.predicates
  obtain ⟨onHeader, own, hheader, hown, rfl⟩ := termPredicates_eq_ok honTerms
  rw [admits_tree, made.source, hpredicates, List.forall_mem_append, List.forall_mem_append,
    eval_headerPredicates s _ hheader, eval_ownPredicates s _ hown, eval_implicitPredicates]
  constructor
  · rintro ⟨⟨header, own⟩, implicit⟩
    exact ⟨own, header, implicit⟩
  · rintro ⟨own, header, implicit⟩
    exact ⟨⟨header, own⟩, implicit⟩

-- ---------------------------------------------------------------------------
-- A line of a day
-- ---------------------------------------------------------------------------

/-- A store that holds texts and compares them by their characters. -/
def textStore : Store String where
  ofScalar := Scalar.display
  toDate day _ := some day
  compare a b := some (compareOfLessAndEq a b)
  text? := some

def rowOf (columns : List (String × String)) : Row String := fun name => columns.lookup name

def oneOrder : Tables String
  | "head" => [rowOf [("id", "7"), ("name", "5% off")]]
  | _ => []

def lineOfThatOrder : Row String := rowOf [("fk", "7"), ("d", "2024-01-02 10:00"), ("kind", "A")]

def termsOfADay : List Term :=
  [{ field := ⟨"d", by decide⟩, op := .equals, value := some (.text "1/2/2024") },
    { field := ⟨"name", by decide⟩, op := .contains, value := some (.text "5%") }]

theorem concerns_linesOfADay (concerns : Concerns orderLines linesOfADay found ts) :
    found = ⟨"line", "l", orderLine⟩ ∧ ts = termsOfADay := by
  obtain ⟨⟨name, hname, hfound⟩, hts⟩ := concerns
  have trimmed : linesOfADay.recordType.bind Text.trimmed? = some "Line" := by decide +kernel
  have resolved : orderLines.resolve "Line" = .ok ⟨"line", "l", orderLine⟩ := by decide +kernel
  have terms : Filter.terms linesOfADay.filter = .ok termsOfADay := by decide +kernel
  obtain rfl : "Line" = name := Option.some.inj (trimmed.symm.trans hname)
  exact ⟨Except.ok.inj (hfound.symm.trans resolved), Except.ok.inj (hts.symm.trans terms)⟩

theorem filterHolds_lineOfThatOrder :
    FilterHolds textStore {} orderLine oneOrder lineOfThatOrder termsOfADay := by
  refine ⟨fun t ht hown => ?_, fun link hlink _ => ?_, fun f hf _ => ?_⟩
  · rcases List.mem_pair.mp ht with rfl | rfl
    · have window : Term.window? (.text "1/2/2024") = some ⟨"2024-01-02", "2024-01-03"⟩ := by
        decide +kernel
      refine ⟨_, rfl, .inl ⟨rfl, (exists_relatedToDay_iff textStore window _ _ _).mpr ?_⟩⟩
      exact ⟨⟨_, _, _, rfl, rfl, rfl, by decide +kernel⟩,
        ⟨_, _, _, rfl, rfl, rfl, by decide +kernel⟩⟩
    · exact absurd hown (by decide)
  · obtain rfl := Option.some.inj hlink
    refine ⟨_, List.mem_singleton_self _, ⟨_, _, _, rfl, rfl, rfl, by decide⟩, ?_⟩
    intro t ht hheader
    rcases List.mem_pair.mp ht with rfl | rfl
    · exact absurd hheader (by decide)
    · have occurs : Place.Occurs .anywhere "5%" "5% off" := ⟨[], " off".toList, by decide⟩
      exact ⟨_, _, rfl, rfl, fun _ => rfl, fun _ => occurs⟩
  · obtain rfl := List.mem_singleton.mp hf
    exact ⟨_, _, _, rfl, rfl, rfl, by decide⟩

-- ---------------------------------------------------------------------------
-- The whole statement
-- ---------------------------------------------------------------------------

/-- The statement of a compiled request is read as a query that admits a row if and only if the
filter of the request holds of it. -/
theorem statement_means (built : catalog.Built) (h : compile catalog config r = .ok c) :
    ∃ found ts q, Concerns catalog r found ts ∧ read? c.statement = some q ∧
      q.source = sourceOf found ∧ ∀ (V : Type) (s : Store V) (tables : Tables V) (row : Row V),
        q.Admits s tables row ↔ FilterHolds s config found.entry tables row ts := by
  obtain ⟨found, ts, concerns, made, wellFormed, hfilter⟩ := compilation_of_compile built h
  exact ⟨found, ts, c.tree config.dialect, concerns, Compiled.read_statement wellFormed hfilter,
    made.source, fun V s tables row => made.admits s⟩

/-- The query finds the line by its day, its kind and the name of its order. -/
theorem statement_means_linesOfADay : orderLines.Built ∧ ∃ c q,
    compile orderLines {} linesOfADay = .ok c ∧ read? c.statement = some q ∧
    q.source = ⟨"line", "l"⟩ ∧ q.Admits textStore oneOrder lineOfThatOrder := by
  obtain ⟨c, hc, -⟩ := compile_linesOfADay
  obtain ⟨found, ts, q, concerns, hread, hsource, admits⟩ := statement_means built_orderLines hc
  obtain ⟨rfl, rfl⟩ := concerns_linesOfADay concerns
  have admitted := (admits String textStore oneOrder lineOfThatOrder).mpr
    filterHolds_lineOfThatOrder
  exact ⟨built_orderLines, c, q, hc, hread, hsource, admitted⟩

end FilterSql.Query
