import FilterSql.Proofs.Query.Compilation

/-!
# Placeholders and parameters in step

`compile_in_step`: no fragment that is put together on the way to a plan has other than as many
parameters as placeholders, and in the statement the `i`-th question mark from the left is the place
of the `i`-th parameter. The parameters are those of the terms on the header, of the other terms and
of the implicit filters, in this order.
-/

namespace FilterSql.Query

open Sql

/-- The fragments that are put together for a request, on a run that fails later too. -/
inductive Assembled (catalog : Catalog) (config : Config) (r : Request) : Fragment → Prop
  | onTable (concerns : Concerns catalog r found ts) (ht : t ∈ ts)
      (h : t.condition config found.aliasName = .ok c) :
      Assembled catalog config r (c.fragment config.dialect)
  | onHeader (concerns : Concerns catalog r found ts) (hlink : found.entry.header = some link)
      (ht : t ∈ ts) (h : t.condition config link.aliasName = .ok c) :
      Assembled catalog config r (c.fragment config.dialect)
  | range (h : Assembled catalog config r
      ((Condition.outside c first last).fragment config.dialect)) :
      Assembled catalog config r (Condition.withinFragment config.dialect c first last)
  | member (concerns : Concerns catalog r found ts) (hlink : found.entry.header = some link)
      (hne : headerTerms found.entry ts ≠ [])
      (h : conditions config link.aliasName (headerTerms found.entry ts) = .ok cs) :
      Assembled catalog config r ((Predicate.headerMember ((sourceOf found).column link.foreignKey)
        link.tableRef cs).fragment config.dialect)
  | implicit (concerns : Concerns catalog r found ts)
      (hp : p ∈ implicitPredicates (sourceOf found) found.entry ts) :
      Assembled catalog config r (p.fragment config.dialect)

def appliedFilters (entry : CatalogEntry) (ts : List Term) : List ImplicitFilter :=
  entry.implicitFilters.filter fun f => !namesField ts f.field

theorem balanced_of_negate {f : Fragment} (h : f.negate.Balanced) : f.Balanced := by
  have opening : Fragment.placeholders "NOT (" = 0 := by decide
  have closing : Fragment.placeholders ")" = 0 := by decide
  simpa [Fragment.Balanced, Fragment.negate, opening, closing] using h

theorem assembled_balanced (built : catalog.Built) (h : Assembled catalog config r f) :
    f.Balanced := by
  induction h with
  | onTable concerns ht h => exact (condition_wellFormed (concerns.safe built).2 h).balanced _
  | onHeader concerns hlink ht h =>
    have hlinked := (header_safe (concerns.safe built).1 hlink).1
    exact (condition_wellFormed hlinked.2 h).balanced _
  | range _ ih => exact balanced_of_negate ih
  | @member found ts link cs concerns hlink hne h =>
    obtain ⟨safe, halias⟩ := concerns.safe built
    obtain ⟨hlinked, hkey⟩ := header_safe safe hlink
    have related := conditions_eq_ok.mp h
    have inner : ∀ c ∈ cs, c.WellFormed := by
      intro c hc
      obtain ⟨t, -, ht⟩ := exists_of_mem_right related hc
      exact condition_wellFormed hlinked.2 ht
    have hcs : cs ≠ [] := by
      rintro rfl
      exact hne (List.forall₂_nil_right_iff.mp related)
    exact Predicate.WellFormed.balanced (p := .headerMember _ _ cs)
      ⟨(source_safe safe halias).column hkey, hlinked, hcs, inner⟩ _
  | implicit concerns hp =>
    obtain ⟨safe, halias⟩ := concerns.safe built
    exact (implicitPredicates_wellFormed safe halias hp).balanced _

theorem compile_ne_unbalanced (built : catalog.Built) (f : Fragment) :
    compile catalog config r ≠ .error (.unbalanced f) := by
  rw [compile_eq_outline built]
  cases outline catalog config r <;> simp [Except.mapError, Except.map]

-- ---------------------------------------------------------------------------
-- The order of the parameters
-- ---------------------------------------------------------------------------

theorem flatMap_params {config : Config} {d : Dialect}
    (h : List.Forall₂ (fun t c => ∃ a, Term.condition config a t = .ok c) ts cs) :
    cs.flatMap (fun c => (c.fragment d).params) = ts.flatMap (·.boundValues config) := by
  induction h with
  | nil => rfl
  | cons hc _ ih =>
    obtain ⟨a, hc⟩ := hc
    rw [List.flatMap_cons, List.flatMap_cons, ih, (Term.denotes_of_condition hc).params]

theorem params_memberPredicates {source : TableRef} {entry : CatalogEntry} {d : Dialect}
    {onHeader : List Condition} (h : onHeader ≠ [] → entry.header.isSome) :
    (memberPredicates source entry onHeader).flatMap (fun p => (p.fragment d).params) =
      onHeader.flatMap fun c => (c.fragment d).params := by
  unfold memberPredicates
  cases onHeader with
  | nil => cases entry.header <;> rfl
  | cons c cs =>
    obtain ⟨link, hlink⟩ := Option.isSome_iff_exists.mp (h (List.cons_ne_nil _ _))
    simp [hlink, Predicate.fragment, Fragment.conjunction, List.flatMap_map]

theorem params_statement (made : Compilation config r found ts c)
    (hfilter : c.plan.filter = c.predicates.map (·.fragment config.dialect)) :
    c.statement.params = (headerTerms found.entry ts).flatMap (·.boundValues config) ++
      (ownTerms found.entry ts).flatMap (·.boundValues config) ++
      (appliedFilters found.entry ts).map fun f => .text f.value := by
  obtain ⟨onTerms, honTerms, hpredicates⟩ := made.predicates
  obtain ⟨onHeader, own, hheader, hown, rfl⟩ := termPredicates_eq_ok honTerms
  have hlink : onHeader ≠ [] → found.entry.header.isSome := by
    intro hne
    obtain ⟨c, hc⟩ := List.exists_mem_of_ne_nil _ hne
    obtain ⟨t, -, link, hlink, -⟩ := exists_of_mem_right hheader hc
    exact Option.isSome_iff_exists.mpr ⟨link, hlink⟩
  have hparams : c.statement.params =
      c.predicates.flatMap fun p => (p.fragment config.dialect).params := by
    simp [Compiled.statement, Plan.statement, Fragment.conjunction, hfilter, List.flatMap_map]
  have headerValues : onHeader.flatMap (fun c => (c.fragment config.dialect).params) =
      (headerTerms found.entry ts).flatMap (·.boundValues config) := by
    refine flatMap_params (hheader.imp fun t c h => ?_)
    obtain ⟨link, -, ht⟩ := h
    exact ⟨link.aliasName, ht⟩
  have ownValues : own.flatMap (fun c => ((Predicate.plain c).fragment config.dialect).params) =
      (ownTerms found.entry ts).flatMap (·.boundValues config) :=
    flatMap_params (hown.imp fun _ _ h => ⟨_, h⟩)
  rw [hparams, hpredicates, List.flatMap_append, List.flatMap_append,
    params_memberPredicates hlink, headerValues, List.flatMap_map, ownValues, implicitPredicates,
    List.flatMap_map, List.map_eq_flatMap]
  rfl

-- ---------------------------------------------------------------------------
-- In step
-- ---------------------------------------------------------------------------

/-- Placeholders and parameters are in step. Over a catalog that has been built no fragment of any
run is unbalanced. Of a compiled request the statement and every fragment of the filter are
balanced, the parameters are those of the header terms, of the other terms and of the implicit
filters, in this order, and a question mark of the statement stands at a slot whose value is the
parameter with the number of that question mark. -/
theorem compile_in_step (built : catalog.Built) (config : Config) (r : Request) :
    (∀ f, Assembled catalog config r f → f.Balanced) ∧
    (∀ f, compile catalog config r ≠ .error (.unbalanced f)) ∧
    ∀ c, compile catalog config r = .ok c →
      c.statement.Balanced ∧ (∀ f ∈ c.plan.filter, f.Balanced) ∧
      (∃ found ts, Concerns catalog r found ts ∧
        c.statement.params = (headerTerms found.entry ts).flatMap (·.boundValues config) ++
          (ownTerms found.entry ts).flatMap (·.boundValues config) ++
          (appliedFilters found.entry ts).map fun f => .text f.value) ∧
      ∀ before after, c.statement.sql = before ++ "?" ++ after →
        ∃ front v back, c.lexemes config.dialect = front ++ .slot v :: back ∧
          text front = before ∧ text back = after ∧
          c.statement.params[Fragment.placeholders before]? = some v := by
  refine ⟨fun f => assembled_balanced built, compile_ne_unbalanced built, fun c h => ?_⟩
  obtain ⟨found, ts, concerns, made, wellFormed, hfilter⟩ := compilation_of_compile built h
  have hstatement := c.statement_eq_write hfilter
  have regular := (wellFormed.legible config.dialect).regular
  refine ⟨hstatement ▸ balanced_write regular, fun f hf => ?_,
    ⟨found, ts, concerns, params_statement made hfilter⟩, fun before after hsql => ?_⟩
  · rw [hfilter] at hf
    obtain ⟨p, hp, rfl⟩ := List.mem_map.mp hf
    exact (wellFormed.predicates p hp).balanced _
  · rw [hstatement] at hsql ⊢
    exact value_of_text regular hsql

/-- The header term comes second in the request and binds the first parameter. -/
theorem compile_in_step_linesOfADay : orderLines.Built ∧ ∃ c,
    compile orderLines {} linesOfADay = .ok c ∧ c.statement.Balanced ∧
    c.statement.params =
      [.text "%5\\%%", .text "2024-01-02", .text "2024-01-03", .text "A"] ∧
    ∃ front back, c.lexemes .duckdb = front ++ .slot (.text "A") :: back ∧
      text back = " ORDER BY (SELECT h.name FROM head h WHERE h.id = l.fk) ASC" := by
  obtain ⟨c, hc, hstatement⟩ := compile_linesOfADay
  obtain ⟨-, -, hstep⟩ := compile_in_step built_orderLines {} linesOfADay
  obtain ⟨balanced, -, -, hslot⟩ := hstep c hc
  have hparams := congrArg Fragment.params hstatement
  let before := "SELECT l.* FROM line l WHERE l.fk IN (SELECT h.id FROM head h WHERE h.name " ++
    "LIKE ? ESCAPE '\\') AND l.d >= ? AND l.d < ? AND l.kind = "
  have hsql : c.statement.sql = before ++ "?" ++
      " ORDER BY (SELECT h.name FROM head h WHERE h.id = l.fk) ASC" :=
    (congrArg Fragment.sql hstatement).trans (by decide +kernel)
  have hbefore : Fragment.placeholders before = 3 := by decide +kernel
  obtain ⟨front, v, back, hlexemes, -, hback, hv⟩ := hslot _ _ hsql
  rw [hparams, hbefore] at hv
  obtain rfl : Scalar.text "A" = v := Option.some.inj hv
  exact ⟨built_orderLines, c, hc, balanced, hparams, front, back, hlexemes, hback⟩

end FilterSql.Query
