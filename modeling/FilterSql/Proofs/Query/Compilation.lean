import FilterSql.Proofs.Catalog.Names
import FilterSql.Proofs.Query.OperatorKind

/-!
# What a compiled request is made of

`Compilation` says of a compiled request where each part of it comes from: the record that the
request is about, the terms of its filter, the predicates in their order. `outline_eq_ok` reads this
off a run that has succeeded. Over a catalog that has been built all names of a compiled request are
safe, so that no fragment of it is unbalanced and its statement is what its lexemes write down.
-/

namespace FilterSql.Query

open Sql

/-- The record and the filter terms that a request is about. -/
structure Concerns (catalog : Catalog) (r : Request) (found : ResolvedRecord) (ts : List Term) :
    Prop where
  resolved : ∃ name, r.recordType.bind Text.trimmed? = some name ∧ catalog.resolve name = .ok found
  terms : Filter.terms r.filter = .ok ts

def sourceOf (found : ResolvedRecord) : TableRef := ⟨found.entry.table, found.aliasName⟩

structure Compilation (config : Config) (r : Request) (found : ResolvedRecord) (ts : List Term)
    (c : Compiled) : Prop where
  recordType : c.recordType = found.key
  source : c.plan.source = sourceOf found
  select : selection r.fields = .ok c.plan.select
  order : ∃ orderBy, orderColumn r.orderBy = .ok orderBy ∧
    c.plan.order = orderKey found.entry orderBy
  predicates : ∃ onTerms, termPredicates config (sourceOf found) found.entry ts = .ok onTerms ∧
    c.predicates = onTerms ++ implicitPredicates (sourceOf found) found.entry ts

def headerTerms (entry : CatalogEntry) (ts : List Term) : List Term :=
  ts.filter fun t => entry.isHeaderField t.field.text

def ownTerms (entry : CatalogEntry) (ts : List Term) : List Term :=
  ts.filter fun t => !entry.isHeaderField t.field.text

def memberPredicates (source : TableRef) (entry : CatalogEntry) (conditions : List Condition) :
    List Predicate :=
  match entry.header with
  | none => []
  | some h =>
    if conditions.isEmpty then []
    else [.headerMember (source.column h.foreignKey) h.tableRef conditions]

theorem isHeaderField_iff {entry : CatalogEntry} (hlink : entry.header = some link) :
    entry.isHeaderField field = true ↔ Text.lowercase field ∈ link.fields := by
  simp [CatalogEntry.isHeaderField, hlink]

theorem conditions_eq_ok {config : Config} :
    conditions config a ts = .ok cs ↔
      List.Forall₂ (fun t c => t.condition config a = .ok c) ts cs :=
  mapM_eq_ok

theorem termPredicates_eq_ok {config : Config}
    (h : termPredicates config source entry ts = .ok ps) :
    ∃ onHeader own,
      List.Forall₂ (fun t c => ∃ link, entry.header = some link ∧
        t.condition config link.aliasName = .ok c) (headerTerms entry ts) onHeader ∧
      List.Forall₂ (fun t c => t.condition config source.aliasName = .ok c)
        (ownTerms entry ts) own ∧
      ps = memberPredicates source entry onHeader ++ own.map .plain := by
  unfold termPredicates at h
  cases hlink : entry.header with
  | none =>
    simp only [hlink, bind_eq_ok, pure_eq_ok, conditions_eq_ok] at h
    obtain ⟨own, hown, rfl⟩ := h
    have notHeader (field : String) : entry.isHeaderField field = false := by
      simp [CatalogEntry.isHeaderField, hlink]
    refine ⟨[], own, ?_, ?_, by simp [memberPredicates, hlink]⟩
    · simp [headerTerms, notHeader]
    · simpa [ownTerms, notHeader] using hown
  | some link =>
    simp only [hlink, bind_eq_ok, pure_eq_ok, conditions_eq_ok] at h
    obtain ⟨onHeader, hheader, own, hown, rfl⟩ := h
    refine ⟨onHeader, own, hheader.imp fun t c ht => ⟨link, rfl, ht⟩, hown, ?_⟩
    have hempty : (ts.filter fun t => entry.isHeaderField t.field.text).isEmpty =
        onHeader.isEmpty := by
      generalize ts.filter _ = chosen at hheader
      cases hheader <;> rfl
    simp only [memberPredicates, hlink, hempty]

-- ---------------------------------------------------------------------------
-- Safe names
-- ---------------------------------------------------------------------------

theorem source_safe {found : ResolvedRecord} (safe : found.entry.Safe found.key)
    (halias : isSafeIdentifier found.aliasName = true) : (sourceOf found).Safe :=
  ⟨safe.2 _ List.mem_cons_self, halias⟩

theorem header_safe {entry : CatalogEntry} (safe : entry.Safe key) (h : entry.header = some link) :
    link.tableRef.Safe ∧ isSafeIdentifier link.foreignKey = true := by
  have names := safe.2
  simp only [CatalogEntry.names, h] at names
  exact ⟨⟨names (.headerTable, link.table) (by simp),
    names (.headerAlias, link.aliasName) (by simp)⟩, names (.foreignKey, link.foreignKey) (by simp)⟩

theorem implicitFilter_safe {entry : CatalogEntry} (safe : entry.Safe key)
    (h : f ∈ entry.implicitFilters) : isSafeIdentifier f.field = true := by
  refine safe.2 (.implicitFilterField, f.field) ?_
  refine List.mem_cons_of_mem _ (List.mem_append_right _ ?_)
  exact List.mem_map.mpr ⟨f, h, rfl⟩

theorem condition_wellFormed {config : Config} {t : Term} (halias : isSafeIdentifier a = true)
    (h : t.condition config a = .ok c) : c.WellFormed := by
  have denotes := Term.denotes_of_condition h
  refine ⟨?_, denotes.filled⟩
  rw [denotes.column]
  exact ⟨halias, t.field.safe⟩

theorem memberPredicates_wellFormed {source : TableRef} {entry : CatalogEntry}
    (hsource : source.Safe) (safe : entry.Safe key) (hconditions : ∀ c ∈ onHeader, c.WellFormed)
    (h : p ∈ memberPredicates source entry onHeader) : p.WellFormed := by
  unfold memberPredicates at h
  split at h
  · cases h
  · rename_i link hlink
    obtain ⟨hlinked, hkey⟩ := header_safe safe hlink
    split at h
    · cases h
    · rename_i hne
      rw [List.mem_singleton.mp h]
      exact ⟨hsource.column hkey, hlinked, by simpa using hne, hconditions⟩

theorem orderKey_safe {entry : CatalogEntry} (safe : entry.Safe key) (orderBy : Option Identifier) :
    (orderKey entry orderBy).Safe := by
  unfold orderKey
  split
  · rename_i field link hlink
    obtain ⟨hlinked, hkey⟩ := header_safe safe hlink
    split
    · exact ⟨hlinked, hkey, field.safe⟩
    · exact field.safe
  · rename_i field _
    exact field.safe
  · rename_i link hlink
    exact (header_safe safe hlink).2
  · exact isSafeIdentifier_primaryKey

theorem implicitPredicates_wellFormed {found : ResolvedRecord} (safe : found.entry.Safe found.key)
    (halias : isSafeIdentifier found.aliasName = true)
    (hp : p ∈ implicitPredicates (sourceOf found) found.entry ts) : p.WellFormed := by
  obtain ⟨f, hf, rfl⟩ := List.mem_map.mp hp
  have hfield := implicitFilter_safe safe (List.mem_of_mem_filter hf)
  exact ⟨(source_safe safe halias).column hfield, trivial⟩

theorem selection_eq_ok (h : selection fields = .ok chosen) :
    chosen = .all ∨ ∃ names ids, fields = some names ∧ chosen = .columns ids ∧ ids ≠ [] ∧
      ∀ id ∈ ids, id.text ∈ names.map Text.trim := by
  unfold selection at h
  split at h
  · exact .inl (Except.ok.inj h).symm
  · exact .inl (Except.ok.inj h).symm
  · rename_i names hne
    simp only [bind_eq_ok, pure_eq_ok, mapM_eq_ok] at h
    obtain ⟨ids, hids, rfl⟩ := h
    refine .inr ⟨names, ids, rfl, rfl, ?_, fun id hid => ?_⟩
    · rintro rfl
      exact hne (List.forall₂_nil_right_iff.mp hids ▸ rfl)
    · obtain ⟨name, hname, hchecked⟩ := exists_of_mem_right hids hid
      exact List.mem_map.mpr ⟨name, hname, (Identifier.check_eq_ok.mp hchecked).symm⟩

theorem Compilation.wellFormed (made : Compilation config r found ts c)
    (safe : found.entry.Safe found.key) (halias : isSafeIdentifier found.aliasName = true) :
    c.WellFormed := by
  have hsource := source_safe safe halias
  obtain ⟨onTerms, honTerms, hpredicates⟩ := made.predicates
  obtain ⟨onHeader, own, hheader, hown, rfl⟩ := termPredicates_eq_ok honTerms
  obtain ⟨orderBy, -, horder⟩ := made.order
  have hselect : c.plan.select ≠ .columns [] := by
    rcases selection_eq_ok made.select with hall | ⟨_, ids, -, hids, hne, -⟩
    · simp [hall]
    · simpa [hids] using hne
  refine ⟨made.source ▸ hsource, hselect, fun p hp => ?_, horder ▸ orderKey_safe safe orderBy⟩
  rw [hpredicates, List.mem_append, List.mem_append] at hp
  rcases hp with (hp | hp) | hp
  · refine memberPredicates_wellFormed hsource safe (fun c hc => ?_) hp
    obtain ⟨t, -, link, hlink, ht⟩ := exists_of_mem_right hheader hc
    exact condition_wellFormed (header_safe safe hlink).1.2 ht
  · obtain ⟨c, hc, rfl⟩ := List.mem_map.mp hp
    obtain ⟨t, -, ht⟩ := exists_of_mem_right hown hc
    exact condition_wellFormed hsource.2 ht
  · exact implicitPredicates_wellFormed safe halias hp

-- ---------------------------------------------------------------------------
-- The outcome of a whole compilation
-- ---------------------------------------------------------------------------

theorem outline_eq_ok (h : outline catalog config r = .ok c) :
    ∃ found ts, Concerns catalog r found ts ∧ Compilation config r found ts c := by
  unfold outline at h
  split at h
  · rename_i name hname
    simp only [bind_eq_ok, pure_eq_ok] at h
    obtain ⟨ts, hts, found, hfound, select, hselect, orderBy, horderBy, onTerms, honTerms, rfl⟩ := h
    exact ⟨found, ts, ⟨⟨name, hname, hfound⟩, hts⟩, rfl, rfl, hselect, ⟨orderBy, horderBy, rfl⟩,
      ⟨onTerms, honTerms, rfl⟩⟩
  · cases h

theorem Concerns.unique (concerns : Concerns catalog r found ts)
    (concerns' : Concerns catalog r found' ts') : found = found' ∧ ts = ts' := by
  obtain ⟨⟨name, hname, hfound⟩, hts⟩ := concerns
  obtain ⟨⟨name', hname', hfound'⟩, hts'⟩ := concerns'
  obtain rfl := Option.some.inj (hname.symm.trans hname')
  exact ⟨Except.ok.inj (hfound.symm.trans hfound'), Except.ok.inj (hts.symm.trans hts')⟩

theorem Concerns.safe (concerns : Concerns catalog r found ts) (built : catalog.Built) :
    found.entry.Safe found.key ∧ isSafeIdentifier found.aliasName = true := by
  obtain ⟨name, -, hfound⟩ := concerns.resolved
  exact built.namesSafe.resolve hfound

theorem outline_wellFormed (built : catalog.Built) (h : outline catalog config r = .ok c) :
    c.WellFormed := by
  obtain ⟨found, ts, concerns, made⟩ := outline_eq_ok h
  obtain ⟨safe, halias⟩ := concerns.safe built
  exact made.wellFormed safe halias

theorem Predicate.WellFormed.balanced {p : Predicate} (wellFormed : p.WellFormed) (d : Dialect) :
    (p.fragment d).Balanced := by
  rw [p.fragment_eq_write]
  exact balanced_write (legible_joined (wellFormed.legible d)).regular

theorem Condition.WellFormed.balanced {c : Condition} (wellFormed : c.WellFormed) (d : Dialect) :
    (c.fragment d).Balanced :=
  Predicate.WellFormed.balanced (p := .plain c) wellFormed d

def Compiled.withFilter (c : Compiled) (d : Dialect) : Compiled :=
  { c with plan := { c.plan with filter := c.predicates.map (·.fragment d) } }

theorem mapM_checkedFragment {ps : List Predicate} (h : ∀ p ∈ ps, (p.fragment d).Balanced) :
    ps.mapM (checkedFragment d) = .ok (ps.map (·.fragment d)) := by
  refine mapM_eq_ok.mpr (List.forall₂_map_right_iff.mpr (List.forall₂_same.mpr fun p hp => ?_))
  simp [checkedFragment, h p hp]

/-- Over a catalog that has been built every outline is completed. -/
theorem compile_eq_outline (built : catalog.Built) (config : Config) (r : Request) :
    compile catalog config r =
      ((outline catalog config r).mapError .refused).map (·.withFilter config.dialect) := by
  unfold compile
  cases h : outline catalog config r with
  | error e => rfl
  | ok c =>
    have hfilter := mapM_checkedFragment fun p hp =>
      ((outline_wellFormed built h).predicates p hp).balanced config.dialect
    simp only [Except.mapError, bind, Except.bind, hfilter]
    rfl

theorem compile_eq_ok (built : catalog.Built) :
    compile catalog config r = .ok c ↔
      ∃ o, outline catalog config r = .ok o ∧ o.withFilter config.dialect = c := by
  rw [compile_eq_outline built]
  cases outline catalog config r <;> simp [Except.mapError, Except.map]

theorem compilation_of_compile (built : catalog.Built) (h : compile catalog config r = .ok c) :
    ∃ found ts, Concerns catalog r found ts ∧ Compilation config r found ts c ∧ c.WellFormed ∧
      c.plan.filter = c.predicates.map (·.fragment config.dialect) := by
  obtain ⟨o, ho, rfl⟩ := (compile_eq_ok built).mp h
  obtain ⟨found, ts, concerns, made⟩ := outline_eq_ok ho
  have wellFormed := outline_wellFormed built ho
  exact ⟨found, ts, concerns,
    ⟨made.recordType, made.source, made.select, made.order, made.predicates⟩,
    ⟨wellFormed.source, wellFormed.select, wellFormed.predicates, wellFormed.order⟩, rfl⟩

-- ---------------------------------------------------------------------------
-- A small catalog
-- ---------------------------------------------------------------------------

/-- The lines of orders of one kind. The name is one of the order. -/
def orderLine : CatalogEntry where
  table := "line"
  header := some ⟨"head", "h", "fk", ["name"]⟩
  implicitFilters := [⟨"kind", "A"⟩]

def orderLines : Catalog := .build [("line", orderLine)]

def linesOfADay : Request where
  recordType := some "Line"
  filter := .object [("d", .string "1/2/2024"),
    ("name", .object [("operator", .string "contains"), ("value", .string "5%")])]
  orderBy := some "name"

theorem built_orderLines : orderLines.Built :=
  .ofEntries (show Catalog.ofEntries [("line", orderLine)] = .ok orderLines from rfl)

theorem compile_linesOfADay : ∃ c, compile orderLines {} linesOfADay = .ok c ∧
    c.statement = ⟨"SELECT l.* FROM line l WHERE l.fk IN (SELECT h.id FROM head h WHERE h.name " ++
      "LIKE ? ESCAPE '\\') AND l.d >= ? AND l.d < ? AND l.kind = ? ORDER BY " ++
      "(SELECT h.name FROM head h WHERE h.id = l.fk) ASC",
      [.text "%5\\%%", .text "2024-01-02", .text "2024-01-03", .text "A"]⟩ :=
  exists_ok_of_toOption (by decide +kernel)

end FilterSql.Query
