import FilterSql.Proofs.Query.Arrangement
import FilterSql.Proofs.Query.TwoRuns

/-!
# Filters on one field

Several conditions on one column are joined by AND in the order of their terms, just as the parts of
one condition are. `queryWith_eq`: filters whose terms put the same phrases to one field, in
whatever pieces, become the same query, on the table of a record and on its header.
-/

namespace FilterSql.Query

open Sql

/-- The terms are about one field and put the phrases to its column, on whatever table that is. -/
structure Asks (config : Config) (field : Identifier) (phrases : Column → List (List Lexeme))
    (ts : List Term) : Prop where
  nonempty : ts ≠ []
  onField : ∀ t ∈ ts, t.field = field
  conditions : ∀ a, ∃ condition : Term → Condition,
    (∀ t ∈ ts, t.condition config a = .ok (condition t)) ∧
      (ts.map condition).flatMap (·.phrases config.dialect) = phrases ⟨a, field.text⟩

def SamePhrases (d : Dialect) (ps qs : List Predicate) : Prop :=
  ps.flatMap (·.phrases d) = qs.flatMap (·.phrases d)

variable {config : Config} {field : Identifier} {phrases : Column → List (List Lexeme)}
  {ts us : List Term}

-- ---------------------------------------------------------------------------
-- Predicates
-- ---------------------------------------------------------------------------

theorem filter_field (keep : Bool → Bool) (entry : CatalogEntry)
    (hfield : ∀ t ∈ ts, Term.field t = field) :
    ts.filter (fun t => keep (entry.isHeaderField t.field.text)) =
      if keep (entry.isHeaderField field.text) then ts else [] := by
  split
  · rename_i h
    exact List.filter_eq_self.mpr fun t ht => hfield t ht ▸ h
  · rename_i h
    exact List.filter_eq_nil_iff.mpr fun t ht => hfield t ht ▸ h

theorem samePhrases_memberPredicates {cs cs' : List Condition} (hne : cs ≠ []) (hne' : cs' ≠ [])
    (h : cs.flatMap (·.phrases d) = cs'.flatMap (·.phrases d)) (source : TableRef)
    (entry : CatalogEntry) :
    SamePhrases d (memberPredicates source entry cs) (memberPredicates source entry cs') := by
  unfold memberPredicates
  split
  · rfl
  · rw [if_neg (by simpa using hne), if_neg (by simpa using hne')]
    simp only [SamePhrases, List.flatMap_singleton, Predicate.phrases, h]

theorem samePhrases_arrangedTerms {condition condition' : Term → Condition} (found : ResolvedRecord)
    (hts : ts ≠ []) (hus : us ≠ []) (htfield : ∀ t ∈ ts, t.field = field)
    (hufield : ∀ u ∈ us, u.field = field)
    (h : (ts.map condition).flatMap (·.phrases d) = (us.map condition').flatMap (·.phrases d)) :
    SamePhrases d (arrangedTerms found ts condition) (arrangedTerms found us condition') := by
  have plain (ts : List Term) (condition : Term → Condition) :
      (ts.map (Predicate.plain ∘ condition)).flatMap (·.phrases d) =
        (ts.map condition).flatMap (·.phrases d) := by
    simp only [List.flatMap_map, Function.comp_def, Predicate.phrases]
  have header := filter_field id found.entry htfield
  have header' := filter_field id found.entry hufield
  have own := filter_field not found.entry htfield
  have own' := filter_field not found.entry hufield
  unfold arrangedTerms headerTerms ownTerms
  simp only [id] at header header'
  rw [header, header', own, own']
  cases found.entry.isHeaderField field.text with
  | true =>
    have member := samePhrases_memberPredicates (by simpa using hts) (by simpa using hus) h
      (sourceOf found) found.entry
    simpa [SamePhrases] using member
  | false =>
    have none : memberPredicates (sourceOf found) found.entry [] = [] := by
      unfold memberPredicates
      split <;> rfl
    simpa [SamePhrases, none, plain] using h

theorem namesField_eq (hne : ts ≠ []) (hfield : ∀ t ∈ ts, t.field = field) (name : String) :
    namesField ts name = field.sameAs name := by
  unfold namesField
  rw [Bool.eq_iff_iff, List.any_eq_true]
  constructor
  · rintro ⟨t, ht, hname⟩
    exact hfield t ht ▸ hname
  · intro hname
    obtain ⟨t, ht⟩ := List.exists_mem_of_ne_nil ts hne
    exact ⟨t, ht, hfield t ht ▸ hname⟩

namespace Asks

theorem termPredicates (h : Asks config field phrases ts) (found : ResolvedRecord) :
    ∃ condition : Term → Condition,
      termPredicates config (sourceOf found) found.entry ts =
        .ok (arrangedTerms found ts condition) ∧
      (ts.map condition).flatMap (·.phrases config.dialect) =
        phrases ⟨tableAlias found field, field.text⟩ := by
  obtain ⟨condition, hcondition, hphrases⟩ := h.conditions (tableAlias found field)
  refine ⟨condition, termPredicates_eq_arranged fun t ht => ?_, hphrases⟩
  rw [h.onField t ht]
  exact hcondition t ht

theorem predicatesAgree (h : Asks config field phrases ts) (h' : Asks config field phrases us) :
    PredicatesAgree (· = ·) (SamePhrases config.dialect) config config ts us := by
  intro found
  obtain ⟨condition, hts, hphrases⟩ := h.termPredicates found
  obtain ⟨condition', hus, hphrases'⟩ := h'.termPredicates found
  rw [hts, hus]
  have onTerms := samePhrases_arrangedTerms found h.nonempty h'.nonempty h.onField h'.onField
    (hphrases.trans hphrases'.symm)
  have implicit : implicitPredicates (sourceOf found) found.entry ts =
      implicitPredicates (sourceOf found) found.entry us := by
    simp only [implicitPredicates, namesField_eq h.nonempty h.onField,
      namesField_eq h'.nonempty h'.onField]
  refine .ok ?_
  rw [SamePhrases, List.flatMap_append, List.flatMap_append, implicit, onTerms]

end Asks

-- ---------------------------------------------------------------------------
-- Queries
-- ---------------------------------------------------------------------------

def queryWith (catalog : Catalog) (config : Config) (r : Request) (filter : Json) :
    Except CompileFailure Statement :=
  Compiled.statement <$> compile catalog config { r with filter }

theorem Compiled.Beside.statement {c c' : Compiled} (beside : c.Beside (SamePhrases d) c')
    (h : c.Written d) (h' : c'.Written d) : c.statement = c'.statement := by
  have isEmpty {ps : List Predicate} : ps.isEmpty = (ps.flatMap (·.phrases d)).isEmpty := by
    cases ps with
    | nil => rfl
    | cons p ps => simp [p.phrases_ne_nil d]
  have filter : c.whereLexemes d = c'.whereLexemes d := by
    unfold whereLexemes
    rw [isEmpty, isEmpty, beside.predicates]
  have lexemes : c.lexemes d = c'.lexemes d := by
    unfold Compiled.lexemes
    rw [filter, beside.plan]
    rfl
  rw [statement_eq_write h, statement_eq_write h', lexemes]

/-- Filters that ask the same of one field become the same query. -/
theorem queryWith_eq (built : catalog.Built) (hf : Filter.terms f = .ok ts)
    (hg : Filter.terms g = .ok us) (h : Asks config field phrases ts)
    (h' : Asks config field phrases us) (r : Request) :
    queryWith catalog config r f = queryWith catalog config r g := by
  have terms : Agree (· = ·) (fun ts us => Asks config field phrases ts ∧
      Asks config field phrases us) (Filter.terms f) (Filter.terms g) := by
    rw [hf, hg]
    exact .ok ⟨h, h'⟩
  have both := compile_beside built r terms fun ts us ⟨h, h'⟩ => h.predicatesAgree h'
  unfold queryWith
  rcases both.either with ⟨e, he, he'⟩ | ⟨c, c', hc, hc', beside, hwritten, hwritten'⟩
  · rw [he, he']
  · rw [hc, hc', Except.map_ok, Except.map_ok, beside.statement hwritten hwritten']

theorem queryWith_ok (built : catalog.Built) (hf : Filter.terms f = .ok ts)
    (h : Asks config field phrases ts) (r : Request)
    (unfiltered : queryWith catalog config r .null = .ok q) :
    ∃ q, queryWith catalog config r f = .ok q := by
  have terms : Agree (· = ·) (fun ts us => ts = [] ∧ Asks config field phrases us)
      (Filter.terms .null) (Filter.terms f) := by
    rw [hf]
    exact .ok ⟨rfl, h⟩
  have predicates (ts us : List Term) (hts : ts = [] ∧ Asks config field phrases us) :
      PredicatesAgree (· = ·) (fun _ _ => True) config config ts us := by
    intro found
    obtain ⟨condition, hus, -⟩ := hts.2.termPredicates found
    have hnil : Query.termPredicates config (sourceOf found) found.entry [] =
        .ok (arrangedTerms found [] condition) :=
      termPredicates_eq_arranged fun t ht => (List.not_mem_nil ht).elim
    rw [hts.1, hus, hnil]
    exact .ok trivial
  have both := compile_beside built r terms predicates
  unfold queryWith at unfiltered ⊢
  rcases both.either with ⟨e, he, -⟩ | ⟨c, c', -, hc', -⟩
  · rw [he] at unfiltered
    cases unfiltered
  · exact ⟨c'.statement, by rw [hc', Except.map_ok]⟩

end FilterSql.Query
