import FilterSql.Proofs.Query.Compilation

/-!
# Where the conditions of the terms stand

The predicates of a query as a function of the condition that each term has.
`arranged_of_compilation` reads the conditions off a query that has been compiled;
`termPredicates_eq_arranged` is the way back, from terms which all have a condition.
-/

namespace FilterSql.Query

def tableAlias (found : ResolvedRecord) (field : Identifier) : String :=
  match found.entry.header with
  | some link => if found.entry.isHeaderField field.text then link.aliasName else found.aliasName
  | none => found.aliasName

/-- The predicates of the terms: first membership of the header rows, then the terms on the table
itself. -/
def arrangedTerms (found : ResolvedRecord) (ts : List Term) (condition : Term → Condition) :
    List Predicate :=
  memberPredicates (sourceOf found) found.entry ((headerTerms found.entry ts).map condition) ++
    (ownTerms found.entry ts).map (.plain ∘ condition)

def arranged (found : ResolvedRecord) (ts : List Term) (condition : Term → Condition) :
    List Predicate :=
  arrangedTerms found ts condition ++ implicitPredicates (sourceOf found) found.entry ts

variable {found : ResolvedRecord} {config : Config} {ts : List Term}

theorem tableAlias_of_header {t : Term} (hlink : found.entry.header = some link)
    (h : t ∈ headerTerms found.entry ts) : tableAlias found t.field = link.aliasName := by
  simp [tableAlias, hlink, (List.mem_filter.mp h).2]

theorem tableAlias_of_own {t : Term} (h : t ∈ ownTerms found.entry ts) :
    tableAlias found t.field = found.aliasName := by
  have own : found.entry.isHeaderField t.field.text = false := by
    simpa using (List.mem_filter.mp h).2
  unfold tableAlias
  split <;> simp [own]

theorem conditions_eq_map {condition : Term → Condition}
    (h : ∀ t ∈ ts, t.condition config a = .ok (condition t)) :
    conditions config a ts = .ok (ts.map condition) :=
  conditions_eq_ok.mpr (List.forall₂_map_right_iff.mpr (List.forall₂_same.mpr h))

theorem termPredicates_eq_arranged {condition : Term → Condition}
    (h : ∀ t ∈ ts, t.condition config (tableAlias found t.field) = .ok (condition t)) :
    termPredicates config (sourceOf found) found.entry ts =
      .ok (arrangedTerms found ts condition) := by
  have own : conditions config found.aliasName (ownTerms found.entry ts) =
      .ok ((ownTerms found.entry ts).map condition) := by
    refine conditions_eq_map fun t ht => ?_
    rw [← tableAlias_of_own ht]
    exact h t (List.mem_of_mem_filter ht)
  unfold termPredicates arrangedTerms memberPredicates
  cases hlink : found.entry.header with
  | none =>
    have all : ownTerms found.entry ts = ts := by
      simp [ownTerms, CatalogEntry.isHeaderField, hlink]
    rw [all] at own ⊢
    simp [sourceOf, own, bind, Except.bind, pure, Except.pure]
  | some link =>
    have onHeader : conditions config link.aliasName (headerTerms found.entry ts) =
        .ok ((headerTerms found.entry ts).map condition) := by
      refine conditions_eq_map fun t ht => ?_
      rw [← tableAlias_of_header hlink ht]
      exact h t (List.mem_of_mem_filter ht)
    unfold ownTerms at own ⊢
    unfold headerTerms at onHeader ⊢
    simp [sourceOf, own, onHeader, bind, Except.bind, pure, Except.pure]

theorem exists_condition (h : termPredicates config (sourceOf found) found.entry ts = .ok ps)
    (ht : t ∈ ts) : ∃ c, t.condition config (tableAlias found t.field) = .ok c := by
  obtain ⟨onHeader, own, hheader, hown, -⟩ := termPredicates_eq_ok h
  cases hfield : found.entry.isHeaderField t.field.text with
  | true =>
    have hmem : t ∈ headerTerms found.entry ts := List.mem_filter.mpr ⟨ht, hfield⟩
    obtain ⟨c, -, link, hlink, hc⟩ := exists_of_mem_left hheader hmem
    exact ⟨c, tableAlias_of_header hlink hmem ▸ hc⟩
  | false =>
    have hmem : t ∈ ownTerms found.entry ts := List.mem_filter.mpr ⟨ht, by simp [hfield]⟩
    obtain ⟨c, -, hc⟩ := exists_of_mem_left hown hmem
    exact ⟨c, tableAlias_of_own hmem ▸ hc⟩

theorem arranged_of_compilation (made : Compilation config r found ts c) :
    ∃ condition : Term → Condition,
      (∀ t ∈ ts, t.condition config (tableAlias found t.field) = .ok (condition t)) ∧
      c.predicates = arranged found ts condition := by
  obtain ⟨onTerms, honTerms, hpredicates⟩ := made.predicates
  have : Nonempty Condition := ⟨.null ⟨"", ""⟩ false⟩
  choose! condition hcondition using fun t (ht : t ∈ ts) => exists_condition honTerms ht
  have arrangement := honTerms.symm.trans (termPredicates_eq_arranged hcondition)
  exact ⟨condition, hcondition, by rw [hpredicates, Except.ok.inj arrangement, arranged]⟩

end FilterSql.Query
