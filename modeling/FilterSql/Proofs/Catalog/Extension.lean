import FilterSql.Proofs.Catalog.Aliases
import FilterSql.Proofs.FirstFault

/-!
# Extending a catalog

`Catalog.extend_laws`: to extend a catalog is to build it from all of the entries in one go. In
either way the names are checked in the order in which they are given, those of entries that are
replaced later included, and of the entries under one key the last is kept.
-/

namespace FilterSql

open Query

def UnsafeName (n : NameRole × String) (e : QueryError) : Prop :=
  isSafeIdentifier n.2 = false ∧ e = .unsafeIdentifier n.1 n.2

/-- Everything that is named in an entry under a key is a safe identifier. -/
structure CatalogEntry.AllSafe (key : String) (entry : CatalogEntry) : Prop where
  key : isSafeIdentifier key = true
  table : isSafeIdentifier entry.table = true
  headerTable : ∀ link, entry.header = some link → isSafeIdentifier link.table = true
  headerAlias : ∀ link, entry.header = some link → isSafeIdentifier link.aliasName = true
  foreignKey : ∀ link, entry.header = some link → isSafeIdentifier link.foreignKey = true
  headerFields : ∀ link, entry.header = some link → ∀ f ∈ link.fields, isSafeIdentifier f = true
  filterFields : ∀ f ∈ entry.implicitFilters, isSafeIdentifier f.field = true

theorem CatalogEntry.safe_iff {entry : CatalogEntry} : entry.Safe key ↔ entry.AllSafe key := by
  simp only [CatalogEntry.Safe, CatalogEntry.names, List.cons_append, List.forall_mem_cons,
    List.forall_mem_append, List.forall_mem_map]
  constructor
  · rintro ⟨hkey, htable, hheader, hfilters⟩
    have named (link : HeaderLink) (hlink : entry.header = some link) :
        isSafeIdentifier link.table = true ∧ isSafeIdentifier link.aliasName = true ∧
          isSafeIdentifier link.foreignKey = true ∧
          ∀ f ∈ link.fields, isSafeIdentifier f = true := by
      simpa only [hlink, List.forall_mem_cons, List.forall_mem_map] using hheader
    exact {
      key := hkey
      table := htable
      headerTable := fun link hlink => (named link hlink).1
      headerAlias := fun link hlink => (named link hlink).2.1
      foreignKey := fun link hlink => (named link hlink).2.2.1
      headerFields := fun link hlink => (named link hlink).2.2.2
      filterFields := hfilters }
  · intro safe
    refine ⟨safe.key, safe.table, ?_, safe.filterFields⟩
    cases hlink : entry.header with
    | none => simp
    | some link =>
      simp only [List.forall_mem_cons, List.forall_mem_map]
      exact ⟨safe.headerTable link hlink, safe.headerAlias link hlink, safe.foreignKey link hlink,
        safe.headerFields link hlink⟩

namespace Catalog

def givenNames (given : List (String × CatalogEntry)) : List (NameRole × String) :=
  given.flatMap fun (key, entry) => (.recordType, key) :: entry.names

/-- The last of the entries that are given for a key, in whatever letter case. -/
inductive LastGiven : List (String × CatalogEntry) → String → CatalogEntry → Prop
  | intro (later : ∀ e ∈ after, Text.lowercase e.1 ≠ Text.lowercase name) :
      LastGiven (before ++ (name, entry) :: after) (Text.lowercase name) entry

-- ---------------------------------------------------------------------------
-- Checking
-- ---------------------------------------------------------------------------

theorem checkEntry_ok {entry : CatalogEntry} (safe : entry.Safe key) :
    checkEntry key entry = .ok () := by
  refine forM_ok fun n hn => map_eq_ok.mpr ?_
  have hsafe : isSafeIdentifier n.2 = true := by
    rcases List.mem_cons.mp hn with rfl | hn
    · exact safe.1
    · exact safe.2 n hn
  exact ⟨⟨n.2, hsafe⟩, Identifier.check_eq_ok.mpr rfl, rfl⟩

theorem checkEntry_eq_error {entry : CatalogEntry} : checkEntry key entry = .error e ↔
    First UnsafeName ((.recordType, key) :: entry.names) e := by
  rw [checkEntry, forM_eq_error]
  exact First.congr fun n _ e => map_eq_error.trans Identifier.check_eq_error

variable {c : Catalog} {given : List (String × CatalogEntry)}

theorem ofEntries_eq_error :
    ofEntries given = .error e ↔ First UnsafeName (givenNames given) e := by
  rw [ofEntries, bind_eq_error, forM_eq_error, givenNames, First.flatMap_iff]
  simp only [pure, Except.pure, reduceCtorEq, and_false, exists_false, or_false]
  exact First.congr fun entry _ e => checkEntry_eq_error

theorem ofEntries_ok (safe : ∀ e ∈ given, e.2.Safe e.1) :
    ofEntries given = .ok (build (.ofList (Keyed.lowered given))) :=
  bind_eq_ok.mpr ⟨(), forM_ok fun e he => checkEntry_ok (safe e he), rfl⟩

theorem ofEntries_ok_iff : (∃ c, ofEntries given = .ok c) ↔ ∀ e ∈ given, e.2.AllSafe e.1 := by
  simp only [← CatalogEntry.safe_iff]
  constructor
  · rintro ⟨c, h⟩
    exact (ofEntries_eq_ok h).2
  · intro safe
    exact ⟨_, ofEntries_ok safe⟩

-- ---------------------------------------------------------------------------
-- Entries
-- ---------------------------------------------------------------------------

theorem entries_of_ofEntries (h : ofEntries given = .ok c) :
    c.entries = .ofList (Keyed.lowered given) := by
  rw [(ofEntries_eq_ok h).1]
  rfl

theorem mem_entries_iff (h : ofEntries given = .ok c) :
    (key, entry) ∈ c.entries ↔ LastGiven given key entry := by
  rw [entries_of_ofEntries h, Keyed.mem_ofList_iff]
  constructor
  · rintro ⟨before, after, hgiven, hafter⟩
    obtain ⟨before, rest, rfl, -, hrest⟩ := List.map_eq_append_iff.mp hgiven
    obtain ⟨⟨name, _⟩, after, rfl, hname, rfl⟩ := List.map_eq_cons_iff.mp hrest
    obtain ⟨rfl, rfl⟩ := Prod.mk.inj hname
    exact .intro fun e he => hafter _ (List.mem_map_of_mem he)
  · rintro ⟨later⟩
    rename_i after name before
    refine ⟨Keyed.lowered before, Keyed.lowered after, ?_, fun e he => ?_⟩
    · rw [Keyed.lowered_append, Keyed.lowered_cons]
    · obtain ⟨given, hgiven, rfl⟩ := List.mem_map.mp he
      exact later given hgiven

/-- Entries that are safe stand before others as if they were in the catalog already. -/
theorem ofEntries_append (safe : ∀ e ∈ given, e.2.Safe e.1)
    (more : List (String × CatalogEntry)) : ofEntries (given ++ more) =
      (fun _ => build (.insertAll (.ofList (Keyed.lowered given)) (Keyed.lowered more))) <$>
        more.forM fun (key, entry) => checkEntry key entry := by
  have checked : (given.forM fun (key, entry) => checkEntry key entry) = .ok () :=
    forM_ok fun e he => checkEntry_ok (safe e he)
  rw [ofEntries, List.forM_eq_forM, List.forM_append, ← List.forM_eq_forM, checked,
    ← Keyed.ofList_append, ← Keyed.lowered_append]
  rfl

theorem extend_of_ofEntries (h : ofEntries given = .ok c) (more : List (String × CatalogEntry)) :
    c.extend more = ofEntries (given ++ more) := by
  obtain ⟨entries, rfl, proper⟩ := ofEntries_proper h
  have again : Keyed.ofList (Keyed.lowered entries) = .ofList (Keyed.lowered given) := by
    have kept : entries = .ofList (Keyed.lowered given) := entries_of_ofEntries h
    rw [Keyed.lowered_eq_self proper.lower, kept]
    exact Keyed.ofList_of_ascending (Keyed.ascending_insertAll .nil _)
  show ofEntries (entries ++ more) = ofEntries (given ++ more)
  rw [ofEntries_append proper.safe, ofEntries_append (ofEntries_eq_ok h).2, again]

theorem ofEntries_append_eq (a b : List (String × CatalogEntry)) :
    ofEntries (a ++ b) = ofEntries a >>= (·.extend b) := by
  cases h : ofEntries a with
  | ok c => exact (extend_of_ofEntries h b).symm
  | error e =>
    refine ofEntries_eq_error.mpr ?_
    rw [givenNames, List.flatMap_append]
    exact First.append_iff.mpr (.inl (ofEntries_eq_error.mp h))

-- ---------------------------------------------------------------------------
-- The catalogs that there are
-- ---------------------------------------------------------------------------

theorem ofEntries_builtin : ofEntries builtinEntries = .ok builtin := by
  rw [ofEntries_ok builtinEntries_safe, Keyed.lowered_eq_self builtinEntries_lower, builtin]

/-- Every catalog is built from entries in one go. -/
theorem Built.exists_given (built : Built c) : ∃ given, Catalog.ofEntries given = .ok c := by
  induction built with
  | builtin => exact ⟨builtinEntries, ofEntries_builtin⟩
  | ofEntries h => exact ⟨_, h⟩
  | @extend _ _ extra _ h ih =>
    obtain ⟨given, hgiven⟩ := ih
    refine ⟨given ++ extra, ?_⟩
    rw [ofEntries_append_eq, hgiven, ok_bind, h]

theorem Built.extend_nil (built : Built c) : c.extend [] = .ok c := by
  obtain ⟨given, h⟩ := built.exists_given
  have law := ofEntries_append_eq given []
  rw [List.append_nil, h, ok_bind] at law
  exact law.symm

/-- Building a catalog and extending it has the outcome of building it in one go, the catalog or the
error, and the built-in catalog is no exception. Nothing is changed by an extension with no entries.
The entries make a catalog exactly if everything that is named in any of them is safe, and else the
error is the first name that is not. Keys that differ in letter case only are one key, for which the
last entry stands. -/
theorem extend_laws :
    (∀ a b, ofEntries (a ++ b) = ofEntries a >>= (·.extend b)) ∧
    (∀ given e, ofEntries given = .error e ↔ First UnsafeName (givenNames given) e) ∧
    (∀ given, (∃ c, ofEntries given = .ok c) ↔ ∀ e ∈ given, e.2.AllSafe e.1) ∧
    (∀ given c, ofEntries given = .ok c → c.recordTypes.Nodup ∧
      ∀ key entry, (key, entry) ∈ c.entries ↔ LastGiven given key entry) ∧
    (∀ c, Built c → c.extend [] = .ok c) ∧
    ∀ b, builtin.extend b = ofEntries (builtinEntries ++ b) := by
  refine ⟨ofEntries_append_eq, fun _ _ => ofEntries_eq_error, fun _ => ofEntries_ok_iff,
    fun given c h => ⟨?_, fun _ _ => mem_entries_iff h⟩, fun _ built => built.extend_nil,
    fun b => ?_⟩
  · rw [recordTypes, entries_of_ofEntries h]
    exact Keyed.nodup_keys_ofList _
  · rw [ofEntries_append_eq, ofEntries_builtin, ok_bind]

/-- The key is the same in either letter case, and what is replaced is checked all the same. -/
example :
    (ofEntries [("Shelf", { table := "a" }), ("shelf", { table := "b" })]).toOption.map
      (·.entries) = some [("shelf", { table := "b" })] ∧
    (ofEntries [("Shelf", { table := "a b" }), ("shelf", { table := "b" })]).toOption.isNone := by
  decide +kernel

end Catalog

end FilterSql
