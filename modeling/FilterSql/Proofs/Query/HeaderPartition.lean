import FilterSql.Proofs.Query.ConditionText
import FilterSql.Proofs.Query.Refusal

/-!
# Terms on the header and the others

On a line table the terms on header fields become one predicate in front of the others.
`termPredicates_divided`: nothing is lost in this and nothing made twice, and how the two kinds of
terms alternate in the filter makes no difference, not even to the error.
-/

namespace FilterSql.Query

/-- The terms `ts` are those on fields of the header and the others, taken in turn from the one list
and the other. -/
inductive Divided (link : HeaderLink) : List Term → List Term → List Term → Prop
  | nil : Divided link [] [] []
  | header (field : Text.lowercase t.field.text ∈ link.fields)
      (rest : Divided link onHeader own ts) : Divided link (t :: onHeader) own (t :: ts)
  | other (field : Text.lowercase t.field.text ∉ link.fields)
      (rest : Divided link onHeader own ts) : Divided link onHeader (t :: own) (t :: ts)

/-- What the term is compiled to for the table that has this alias, which `compilesTo_iff` spells
out. -/
def Term.CompilesTo (config : Config) (aliasName : String) (t : Term) (f : Fragment) : Prop :=
  ∃ c, t.condition config aliasName = .ok c ∧ f = c.fragment config.dialect

def memberFragment (source : TableRef) (link : HeaderLink) (headers : List Fragment) :
    Fragment where
  sql := source.aliasName ++ "." ++ link.foreignKey ++ " IN (SELECT " ++ link.aliasName ++
    ".id FROM " ++ link.table ++ " " ++ link.aliasName ++ " WHERE " ++
    String.intercalate " AND " (headers.map (·.sql)) ++ ")"
  params := headers.flatMap (·.params)

/-- The fragments of the terms: each of the others has its own, and those on the header have one in
front, if there are any. -/
inductive Routed (config : Config) (source : TableRef) (link : HeaderLink)
    (onHeader own : List Term) : List Fragment → Prop
  | plain (none : onHeader = [])
      (hown : List.Forall₂ (Term.CompilesTo config source.aliasName) own others) :
      Routed config source link onHeader own others
  | member (some : onHeader ≠ [])
      (hheader : List.Forall₂ (Term.CompilesTo config link.aliasName) onHeader headers)
      (hown : List.Forall₂ (Term.CompilesTo config source.aliasName) own others) :
      Routed config source link onHeader own (memberFragment source link headers :: others)

-- ---------------------------------------------------------------------------
-- Division
-- ---------------------------------------------------------------------------

theorem divided_iff {entry : CatalogEntry} (hlink : entry.header = some link) :
    Divided link onHeader own ts ↔ headerTerms entry ts = onHeader ∧ ownTerms entry ts = own := by
  have field {t : Term} : entry.isHeaderField t.field.text = true ↔
      Text.lowercase t.field.text ∈ link.fields := isHeaderField_iff hlink
  constructor
  · intro h
    induction h with
    | nil => exact ⟨rfl, rfl⟩
    | header hfield _ ih =>
      rw [← ih.1, ← ih.2]
      simp [headerTerms, ownTerms, field.mpr hfield]
    | other hfield _ ih =>
      rw [← ih.1, ← ih.2]
      simp [headerTerms, ownTerms, Bool.eq_false_iff.mpr (mt field.mp hfield)]
  · rintro ⟨rfl, rfl⟩
    induction ts with
    | nil => exact .nil
    | cons t ts ih =>
      by_cases hfield : entry.isHeaderField t.field.text = true
      · simpa [headerTerms, ownTerms, hfield] using Divided.header (field.mp hfield) ih
      · simpa [headerTerms, ownTerms, hfield] using Divided.other (mt field.mpr hfield) ih

theorem Divided.perm (h : Divided link onHeader own ts) : (onHeader ++ own).Perm ts := by
  induction h with
  | nil => exact .nil
  | header _ _ ih => exact ih.cons _
  | other _ _ ih => exact List.perm_middle.trans (ih.cons _)

-- ---------------------------------------------------------------------------
-- Predicates
-- ---------------------------------------------------------------------------

theorem memberFragment_eq (d : Dialect) (source : TableRef) (link : HeaderLink)
    (cs : List Condition) :
    (Predicate.headerMember (source.column link.foreignKey) link.tableRef cs).fragment d =
      memberFragment source link (cs.map (·.fragment d)) := by
  simp only [Predicate.fragment, memberFragment, Fragment.conjunction, Fragment.mk.injEq,
    TableRef.column, Column.sql, TableRef.sql, HeaderLink.tableRef, primaryKey, String.append_assoc,
    and_true]
  rfl

/-- What a term is compiled to: the text of the condition that it denotes, and its values. -/
theorem compilesTo_iff {config : Config} {t : Term} : t.CompilesTo config a f ↔
    ∃ c, Term.Denotes config ⟨a, t.field.text⟩ t c ∧
      c.Writes config.dialect f.sql f.params := by
  refine exists_congr fun c => and_congr Term.condition_eq_ok_iff ?_
  rw [← Condition.fragment_eq_iff, eq_comm]

theorem compilesTo_of_conditions {config : Config}
    (h : List.Forall₂ (fun t c => t.condition config aliasName = .ok c) ts cs) :
    List.Forall₂ (Term.CompilesTo config aliasName) ts (cs.map (·.fragment config.dialect)) :=
  List.forall₂_map_right_iff.mpr (h.imp fun _ _ compiled => ⟨_, compiled, rfl⟩)

theorem termPredicates_routed {config : Config} (hlink : entry.header = some link)
    (divided : Divided link onHeader own ts)
    (h : termPredicates config source entry ts = .ok ps) :
    Routed config source link onHeader own (ps.map (·.fragment config.dialect)) := by
  obtain ⟨rfl, rfl⟩ := (divided_iff hlink).mp divided
  obtain ⟨headers, others, hheader, hown, rfl⟩ := termPredicates_eq_ok h
  have outside : (others.map Predicate.plain).map (·.fragment config.dialect) =
      others.map (·.fragment config.dialect) := by
    rw [List.map_map]
    rfl
  have hheaders : List.Forall₂ (fun t c => t.condition config link.aliasName = .ok c)
      (headerTerms entry ts) headers := by
    refine hheader.imp fun t c compiled => ?_
    obtain ⟨link', hlink', ht⟩ := compiled
    obtain rfl := Option.some.inj (hlink.symm.trans hlink')
    exact ht
  rw [List.map_append, outside]
  cases headers with
  | nil =>
    have none : headerTerms entry ts = [] := List.forall₂_nil_right_iff.mp hheaders
    simpa [memberPredicates, hlink] using Routed.plain none (compilesTo_of_conditions hown)
  | cons c cs =>
    have some : headerTerms entry ts ≠ [] := by
      intro none
      rw [none] at hheaders
      cases hheaders
    have member := memberFragment_eq config.dialect source link (c :: cs)
    simp only [memberPredicates, hlink, List.isEmpty_cons, Bool.false_eq_true, if_false,
      List.map_cons, List.map_nil, List.cons_append, List.nil_append, member]
    exact .member some (compilesTo_of_conditions hheaders) (compilesTo_of_conditions hown)

theorem Routed.length (h : Routed config source link onHeader own fs) :
    fs.length = own.length + if onHeader = [] then 0 else 1 := by
  cases h with
  | plain none hown => simp [none, hown.length_eq]
  | member some hheader hown => simp [some, hown.length_eq]

theorem termPredicates_in_place {config : Config} (hlink : entry.header = none)
    (h : termPredicates config source entry ts = .ok ps) :
    List.Forall₂ (Term.CompilesTo config source.aliasName) ts
      (ps.map (·.fragment config.dialect)) := by
  simp only [termPredicates, hlink, bind_eq_ok, pure_eq_ok, conditions_eq_ok] at h
  obtain ⟨cs, hcs, rfl⟩ := h
  rw [List.map_map]
  exact compilesTo_of_conditions hcs

theorem termPredicates_eq_of_divided {config : Config} (hlink : entry.header = some link)
    (h : Divided link onHeader own ts) (h' : Divided link onHeader own us) :
    termPredicates config source entry us = termPredicates config source entry ts := by
  obtain ⟨header, others⟩ := (divided_iff hlink).mp h
  obtain ⟨header', others'⟩ := (divided_iff hlink).mp h'
  unfold headerTerms at header header'
  unfold ownTerms at others others'
  simp only [termPredicates, hlink, header, others, header', others']

/-- Without a header every term has its predicate in its place. On a line table the terms are divided
into those on header fields and the others. These two lists are all that the outcome depends on. The
error is that of the first term with a fault, first on the header and then among the others. If there
is none, the conditions on the header are one predicate in front, and the others follow it. -/
theorem termPredicates_divided (config : Config) (source : TableRef) (entry : CatalogEntry) :
    (entry.header = none → ∀ ts,
      (∀ e, termPredicates config source entry ts = .error e ↔ First Term.Fault ts e) ∧
      ∀ ps, termPredicates config source entry ts = .ok ps →
        List.Forall₂ (Term.CompilesTo config source.aliasName) ts
          (ps.map (·.fragment config.dialect))) ∧
    ∀ link, entry.header = some link →
      (∀ ts, ∃ onHeader own, Divided link onHeader own ts) ∧
      ∀ onHeader own ts, Divided link onHeader own ts →
        (onHeader ++ own).Perm ts ∧
        (∀ us, Divided link onHeader own us →
          termPredicates config source entry us = termPredicates config source entry ts) ∧
        (∀ e, termPredicates config source entry ts = .error e ↔
          First Term.Fault (onHeader ++ own) e) ∧
        ∀ ps, termPredicates config source entry ts = .ok ps →
          Routed config source link onHeader own (ps.map (·.fragment config.dialect)) ∧
          ps.length = own.length + if onHeader = [] then 0 else 1 := by
  constructor
  · refine fun hlink ts => ⟨fun e => ?_, fun ps => termPredicates_in_place hlink⟩
    rw [termPredicates_eq_error, inTurn, hlink]
  · intro link hlink
    refine ⟨fun ts => ⟨_, _, (divided_iff hlink).mpr ⟨rfl, rfl⟩⟩,
      fun onHeader own ts divided => ?_⟩
    refine ⟨divided.perm, fun us => termPredicates_eq_of_divided hlink divided,
      fun e => ?_, fun ps h => ?_⟩
    · obtain ⟨rfl, rfl⟩ := (divided_iff hlink).mp divided
      rw [termPredicates_eq_error, inTurn, hlink]
    · have routed := termPredicates_routed hlink divided h
      exact ⟨routed, by simpa using routed.length⟩

/-- The name is one of the order, in whatever case it is written. -/
example : (Filter.terms (.object [("item", .string "x"), ("NAME", .string "a"),
      ("name", .string "b")]) >>= termPredicates {} ⟨"line", "l"⟩ orderLine).toOption.map
        (·.map (·.fragment .duckdb)) =
    some [⟨"l.fk IN (SELECT h.id FROM head h WHERE h.NAME = ? AND h.name = ?)",
      [.text "a", .text "b"]⟩, ⟨"l.item = ?", [.text "x"]⟩] := by
  decide +kernel

end FilterSql.Query
