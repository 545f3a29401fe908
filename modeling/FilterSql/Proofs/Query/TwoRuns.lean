import FilterSql.Proofs.Agreement
import FilterSql.Proofs.Query.Compilation

/-!
# Two compilations side by side

Two compilations over one catalog, of requests that differ in their filters and under settings of
their own. `outline_beside`: they come out alike if their terms and the predicates of these do,
since nothing else depends on the filter or on the settings. Over a catalog that has been built
`compile_beside` says the same of whole compilations.
-/

namespace FilterSql.Query

/-- Compiled requests that differ in their predicates alone, and these are related by `R`. -/
structure Compiled.Beside (R : List Predicate → List Predicate → Prop) (c c' : Compiled) :
    Prop where
  recordType : c.recordType = c'.recordType
  plan : c'.plan = { c.plan with filter := c'.plan.filter }
  predicates : R c.predicates c'.predicates

/-- The predicates for the terms of two filters come out alike, those of the catalog included. -/
def PredicatesAgree (E : QueryError → QueryError → Prop)
    (R : List Predicate → List Predicate → Prop) (config config' : Config) (ts us : List Term) :
    Prop :=
  ∀ found : ResolvedRecord, Agree E
    (fun ps qs => R (ps ++ implicitPredicates (sourceOf found) found.entry ts)
      (qs ++ implicitPredicates (sourceOf found) found.entry us))
    (termPredicates config (sourceOf found) found.entry ts)
    (termPredicates config' (sourceOf found) found.entry us)

variable {E : QueryError → QueryError → Prop} {T : List Term → List Term → Prop}
  {R : List Predicate → List Predicate → Prop} {config config' : Config} {f g : Json}

theorem outline_beside (hE : ∀ e, E e e) (catalog : Catalog) (r : Request)
    (hterms : Agree E T (Filter.terms f) (Filter.terms g))
    (h : ∀ ts us, T ts us → PredicatesAgree E R config config' ts us) :
    Agree E (Compiled.Beside R) (outline catalog config { r with filter := f })
      (outline catalog config' { r with filter := g }) := by
  unfold outline
  dsimp only
  split
  · refine hterms.bind fun ts us hts => (Agree.refl hE _).bind fun found _ hfound =>
      (Agree.refl hE _).bind fun select _ hselect =>
        (Agree.refl hE _).bind fun orderBy _ horderBy => ?_
    subst hfound hselect horderBy
    exact (h ts us hts found).bind fun ps qs hps => .ok ⟨rfl, rfl, hps⟩
  · exact .error (hE _)

def Compiled.Written (d : Dialect) (c : Compiled) : Prop :=
  c.plan.filter = c.predicates.map (·.fragment d)

theorem compile_beside (built : catalog.Built) (r : Request)
    (hterms : Agree (· = ·) T (Filter.terms f) (Filter.terms g))
    (h : ∀ ts us, T ts us → PredicatesAgree (· = ·) R config config' ts us) :
    Agree (· = ·)
      (fun c c' => c.Beside R c' ∧ c.Written config.dialect ∧ c'.Written config'.dialect)
      (compile catalog config { r with filter := f })
      (compile catalog config' { r with filter := g }) := by
  rw [compile_eq_outline built, compile_eq_outline built]
  have outlines := outline_beside (fun _ => rfl) catalog r hterms h
  refine (outlines.mapError fun e e' he => congrArg CompileFailure.refused he).map
    fun c c' beside => ⟨⟨beside.recordType, ?_, beside.predicates⟩, rfl, rfl⟩
  let filter := (c'.withFilter config'.dialect).plan.filter
  exact congrArg (fun p : Plan => { p with filter }) beside.plan

end FilterSql.Query
