import FilterSql.Catalog.Builtin
import FilterSql.Proofs.Keyed
import FilterSql.Proofs.Outcome
import FilterSql.Proofs.Query.Identifier

/-!
# Names in a catalog

`Catalog.Built`: the catalogs that there are, which is the built-in one and what is made from lists
of entries, extended any number of times. `Built.namesSafe`: every key, every name in an entry and
every alias of such a catalog is a safe identifier. The built-in entries are checked here, since
`Catalog.builtin` does not check them.
-/

namespace FilterSql

open Query

-- ---------------------------------------------------------------------------
-- Aliases
-- ---------------------------------------------------------------------------

theorem Alias.isSafeIdentifier_candidate (safe : isSafeIdentifier name = true) :
    isSafeIdentifier (candidate conflicts name) = true := by
  have low := isSafeIdentifier_lowercase safe
  obtain ⟨c, rest, hname, -, -⟩ := isSafeIdentifier_iff.mp low
  simp only [candidate, hname]
  rw [← hname]
  split
  · exact isSafeIdentifier_take low 2
  · exact isSafeIdentifier_take low 0

theorem Alias.isSafeIdentifier_firstFree (safe : isSafeIdentifier stem = true)
    (h : firstFree? taken stem n tries = some name) : isSafeIdentifier name = true := by
  induction tries generalizing n with
  | zero => simp [firstFree?] at h
  | succ tries ih =>
    simp only [firstFree?] at h
    split at h
    · exact ih h
    · cases h
      exact isSafeIdentifier_append_number safe n

theorem Alias.isSafeIdentifier_choose (safe : isSafeIdentifier stem = true) :
    isSafeIdentifier (choose taken stem) = true := by
  unfold choose
  split
  · cases h : firstFree? taken stem 2 (taken.length + 1) with
    | none => exact safe
    | some name => exact isSafeIdentifier_firstFree safe h
  · exact safe

theorem Alias.isSafeIdentifier_assign (safe : ∀ name ∈ names, isSafeIdentifier name = true)
    (h : e ∈ assign conflicts taken names) : isSafeIdentifier e.2 = true := by
  induction names generalizing taken with
  | nil => cases h
  | cons name rest ih =>
    rcases List.mem_cons.mp h with rfl | h
    · exact isSafeIdentifier_choose (isSafeIdentifier_candidate (safe name List.mem_cons_self))
    · exact ih (fun n hn => safe n (List.mem_cons_of_mem _ hn)) h

theorem Alias.mem_insertByLength : n ∈ insertByLength name names ↔ n = name ∨ n ∈ names := by
  induction names with
  | nil => simp [insertByLength]
  | cons m rest ih =>
    unfold insertByLength
    split
    · exact List.mem_cons
    · rw [List.mem_cons, ih, List.mem_cons, or_left_comm]

theorem Alias.mem_byLength : n ∈ byLength names ↔ n ∈ names := by
  induction names with
  | nil => exact Iff.rfl
  | cons m rest ih =>
    rw [byLength, List.foldr_cons, mem_insertByLength, List.mem_cons]
    exact or_congr_right ih

-- ---------------------------------------------------------------------------
-- Catalogs
-- ---------------------------------------------------------------------------

def CatalogEntry.Safe (key : String) (entry : CatalogEntry) : Prop :=
  isSafeIdentifier key = true ∧ ∀ n ∈ entry.names, isSafeIdentifier n.2 = true

instance (key : String) (entry : CatalogEntry) : Decidable (entry.Safe key) :=
  inferInstanceAs (Decidable (_ ∧ _))

namespace Catalog

inductive Built : Catalog → Prop
  | builtin : Built builtin
  | ofEntries {entries : List (String × CatalogEntry)} (h : ofEntries entries = .ok c) : Built c
  | extend {extra : List (String × CatalogEntry)} (base : Built b) (h : b.extend extra = .ok c) :
      Built c

structure NamesSafe (c : Catalog) : Prop where
  entries : ∀ e ∈ c.entries, e.2.Safe e.1
  aliases : ∀ a ∈ c.aliases, isSafeIdentifier a.2 = true

theorem build_namesSafe {entries : Keyed CatalogEntry} (safe : ∀ e ∈ entries, e.2.Safe e.1) :
    (build entries).NamesSafe := by
  refine ⟨safe, fun a ha => Alias.isSafeIdentifier_assign (fun name hname => ?_) ha⟩
  obtain ⟨e, he, rfl⟩ := List.mem_map.mp (Alias.mem_byLength.mp hname)
  exact (safe e he).1

theorem checkEntry_eq_ok (h : checkEntry key entry = .ok ()) : entry.Safe key := by
  have names := forM_eq_ok h
  have safe : ∀ n ∈ (NameRole.recordType, key) :: entry.names, isSafeIdentifier n.2 = true := by
    intro n hn
    obtain ⟨checked, hchecked, -⟩ := map_eq_ok.mp (names n hn)
    exact Identifier.check_eq_ok.mp hchecked ▸ checked.safe
  exact ⟨safe _ List.mem_cons_self, fun n hn => safe n (List.mem_cons_of_mem _ hn)⟩

theorem ofEntries_eq_ok {entries : List (String × CatalogEntry)} (h : ofEntries entries = .ok c) :
    c = build (.ofList (entries.map fun (key, entry) => (Text.lowercase key, entry))) ∧
      ∀ e ∈ entries, e.2.Safe e.1 := by
  simp only [ofEntries, bind_eq_ok, pure_eq_ok] at h
  obtain ⟨_, hchecked, rfl⟩ := h
  exact ⟨rfl, fun e he => checkEntry_eq_ok (forM_eq_ok hchecked e he)⟩

theorem ofEntries_namesSafe {entries : List (String × CatalogEntry)}
    (h : ofEntries entries = .ok c) : c.NamesSafe := by
  obtain ⟨rfl, safe⟩ := ofEntries_eq_ok h
  refine build_namesSafe fun e he => ?_
  obtain ⟨given, hmem, rfl⟩ := List.mem_map.mp (Keyed.mem_ofList he)
  exact ⟨isSafeIdentifier_lowercase (safe given hmem).1, (safe given hmem).2⟩

theorem builtinEntries_safe : ∀ e ∈ builtinEntries, e.2.Safe e.1 := by decide +kernel

theorem builtin_namesSafe : builtin.NamesSafe :=
  build_namesSafe fun e he => builtinEntries_safe e (Keyed.mem_ofList he)

theorem Built.namesSafe (built : Built c) : c.NamesSafe := by
  cases built with
  | builtin => exact builtin_namesSafe
  | ofEntries h => exact ofEntries_namesSafe h
  | extend _ h => exact ofEntries_namesSafe h

theorem NamesSafe.resolve {c : Catalog} (safe : c.NamesSafe) (h : c.resolve name = .ok found) :
    found.entry.Safe found.key ∧ isSafeIdentifier found.aliasName = true := by
  simp only [Catalog.resolve] at h
  split at h
  · rename_i entry hentry
    obtain rfl := Except.ok.inj h
    have hsafe : entry.Safe (keyOf name) :=
      safe.entries (keyOf name, entry) (Keyed.mem_of_lookup hentry)
    refine ⟨hsafe, ?_⟩
    have fallback : isSafeIdentifier Alias.fallback = true := by decide
    cases halias : c.aliases.lookup (keyOf name) with
    | none => simpa only [Option.getD_none] using fallback
    | some a =>
      have hsafe : isSafeIdentifier a = true :=
        safe.aliases (keyOf name, a) (Keyed.mem_of_lookup halias)
      simpa only [Option.getD_some] using hsafe
  · cases h

end Catalog

end FilterSql
