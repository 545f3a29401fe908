import FilterSql.Proofs.Catalog.AliasChoice

/-!
# The aliases of a catalog

`Catalog.Built.aliasInvariant`: in every catalog that can be made each key has an alias of its own,
which is free and the first one in the order of the candidates, and every spelling of a record type
has the alias that the record type is resolved to.
-/

namespace FilterSql

open Query

namespace Catalog

-- ---------------------------------------------------------------------------
-- What is said of aliases
-- ---------------------------------------------------------------------------

/-- The names that the alias of a key must not be: reserved words, the aliases of header tables, and
the aliases of the keys that come earlier. -/
def Taken (c : Catalog) (key name : String) : Prop :=
  name ∈ Alias.reserved ∨
  (∃ e ∈ c.entries, ∃ link, e.2.header = some link ∧ Text.lowercase link.aliasName = name) ∨
  ∃ other ∈ c.recordTypes, Alias.Earlier other key ∧ c.aliasOf other = name

/-- What holds of the aliases of a catalog, key by key. -/
structure AliasInvariant (c : Catalog) : Prop where
  /-- Whatever is to be numbered, the numbers that are taken come to an end. -/
  ends : ∀ key ∈ c.recordTypes, ∀ stem, ∃ n, 2 ≤ n ∧ ¬c.Taken key (stem ++ toString n)
  distinct : ∀ a ∈ c.recordTypes, ∀ b ∈ c.recordTypes, a ≠ b → c.aliasOf a ≠ c.aliasOf b
  safe : ∀ key ∈ c.recordTypes, isSafeIdentifier (c.aliasOf key) = true
  lower : ∀ key ∈ c.recordTypes, Text.lowercase (c.aliasOf key) = c.aliasOf key
  unreserved : ∀ key ∈ c.recordTypes, c.aliasOf key ∉ Alias.reserved
  apart : ∀ key ∈ c.recordTypes, ∀ e ∈ c.entries, ∀ link, e.2.header = some link →
    Text.lowercase (c.aliasOf key) ≠ Text.lowercase link.aliasName
  chosen : ∀ key ∈ c.recordTypes, ∃ stem, Alias.Candidate c.recordTypes key stem ∧
    Alias.Chosen (c.Taken key) stem (c.aliasOf key)
  resolved : ∀ key ∈ c.recordTypes, ∃ found, c.resolve key = .ok found ∧ found.key = key
  /-- White space and letter case aside, a text that is resolved is the key of a record type. -/
  spelled : ∀ s found, c.resolve s = .ok found →
    found.key = Text.lowercase (Text.trim s) ∧ found.key ∈ c.recordTypes ∧
      c.aliasOf s = found.aliasName ∧ c.aliasOf found.key = found.aliasName

-- ---------------------------------------------------------------------------
-- Entries of catalogs
-- ---------------------------------------------------------------------------

structure Proper (entries : Keyed CatalogEntry) : Prop where
  distinct : (entries.map Prod.fst).Nodup
  safe : ∀ e ∈ entries, e.2.Safe e.1
  lower : ∀ e ∈ entries, Text.lowercase e.1 = e.1

theorem ofEntries_proper {entries : List (String × CatalogEntry)} (h : ofEntries entries = .ok c) :
    ∃ proper, c = build proper ∧ Proper proper := by
  have names := ofEntries_namesSafe h
  obtain ⟨rfl, safe⟩ := ofEntries_eq_ok h
  refine ⟨_, rfl, Keyed.nodup_keys_ofList _, names.entries, fun e he => ?_⟩
  obtain ⟨given, hmem, rfl⟩ := List.mem_map.mp (Keyed.mem_ofList he)
  exact lowercase_lowercase (safe given hmem).1

theorem builtinEntries_lower : ∀ e ∈ builtinEntries, Text.lowercase e.1 = e.1 := by decide +kernel

theorem Built.proper (built : Built c) : ∃ entries, c = build entries ∧ Proper entries := by
  cases built with
  | builtin =>
    exact ⟨_, rfl, Keyed.nodup_keys_ofList _, builtin_namesSafe.entries,
      fun e he => builtinEntries_lower e (Keyed.mem_ofList he)⟩
  | ofEntries h => exact ofEntries_proper h
  | extend _ h => exact ofEntries_proper h

-- ---------------------------------------------------------------------------
-- The aliases of proper entries
-- ---------------------------------------------------------------------------

namespace Proper

variable {entries : Keyed CatalogEntry}

theorem key_safe (proper : Proper entries) (hkey : key ∈ (build entries).recordTypes) :
    isSafeIdentifier key = true ∧ Text.lowercase key = key := by
  obtain ⟨e, he, rfl⟩ := List.mem_map.mp hkey
  exact ⟨(proper.safe e he).1, proper.lower e he⟩

theorem keyOf_key (proper : Proper entries) (hkey : key ∈ (build entries).recordTypes) :
    keyOf key = key := by
  obtain ⟨safe, lower⟩ := proper.key_safe hkey
  rw [keyOf, trim_of_isSafeIdentifier safe, lower]

theorem nodup_aliases (proper : Proper entries) :
    ((build entries).aliases.map Prod.fst).Nodup := by
  show ((Alias.assign _ _ _).map Prod.fst).Nodup
  rw [Alias.names_assign]
  refine (Alias.pairwise_byLength proper.distinct).imp fun h heq => ?_
  exact Alias.earlier_irrefl _ (heq ▸ h)

theorem aliasOf_of_mem (proper : Proper entries) (hkey : key ∈ (build entries).recordTypes)
    (h : (key, found) ∈ (build entries).aliases) : (build entries).aliasOf key = found := by
  rw [aliasOf, proper.keyOf_key hkey, Keyed.lookup_of_mem proper.nodup_aliases h, Option.getD_some]

theorem aliasOf_mem (proper : Proper entries) (hkey : key ∈ (build entries).recordTypes) :
    (key, (build entries).aliasOf key) ∈ (build entries).aliases := by
  have named : key ∈ (build entries).aliases.map Prod.fst := by
    show key ∈ (Alias.assign _ _ _).map Prod.fst
    rw [Alias.names_assign]
    exact Alias.mem_byLength.mpr hkey
  obtain ⟨⟨_, found⟩, hmem, rfl⟩ := List.mem_map.mp named
  rwa [proper.aliasOf_of_mem hkey hmem]

theorem mem_takenAliases : name ∈ takenAliases entries ↔ name ∈ Alias.reserved ∨
    ∃ e ∈ entries, ∃ link, e.2.header = some link ∧ Text.lowercase link.aliasName = name := by
  simp [takenAliases]

/-- When a key has its turn, the names in the list are those that its alias must not be. -/
theorem taken_iff (proper : Proper entries) (hkey : key ∈ (build entries).recordTypes) :
    ∃ taken : List String, (∀ name, name ∈ taken ↔ (build entries).Taken key name) ∧
      Alias.Chosen (· ∈ taken) (Alias.candidate (build entries).conflicts key)
        ((build entries).aliasOf key) := by
  obtain ⟨before, after, hnames, hbefore, chosen⟩ :=
    Alias.assigned_of_mem (proper.aliasOf_mem hkey)
  have order := Alias.pairwise_byLength proper.distinct
  rw [hnames] at order
  have earlier (other : String) :
      other ∈ before ↔ other ∈ (build entries).recordTypes ∧ Alias.Earlier other key := by
    rw [Alias.mem_before_iff order, ← hnames, Alias.mem_byLength]
    exact Iff.rfl
  refine ⟨_, fun name => ?_, chosen⟩
  rw [Alias.takenAfter, List.mem_append, mem_takenAliases, or_comm, or_assoc]
  refine or_congr Iff.rfl (or_congr Iff.rfl ?_)
  constructor
  · intro hname
    obtain ⟨⟨other, _⟩, hmem, rfl⟩ := List.mem_map.mp hname
    have named := List.mem_map_of_mem (f := Prod.fst) hmem
    rw [Alias.names_assign] at named
    obtain ⟨hother, hearlier⟩ := (earlier other).mp named
    exact ⟨other, hother, hearlier, proper.aliasOf_of_mem hother (hbefore _ hmem)⟩
  · rintro ⟨other, hother, hearlier, rfl⟩
    have named : other ∈ before := (earlier other).mpr ⟨hother, hearlier⟩
    rw [← Alias.names_assign (build entries).conflicts (takenAliases entries) before] at named
    obtain ⟨⟨_, found⟩, hmem, rfl⟩ := List.mem_map.mp named
    rw [proper.aliasOf_of_mem hother (hbefore _ hmem)]
    exact List.mem_map_of_mem hmem

theorem candidate (proper : Proper entries) (hkey : key ∈ (build entries).recordTypes) :
    Alias.Candidate (build entries).recordTypes key
      (Alias.candidate (build entries).conflicts key) := by
  obtain ⟨safe, lower⟩ := proper.key_safe hkey
  refine Alias.candidate_candidate proper.distinct hkey ?_ lower
  rintro rfl
  cases safe

theorem chosen (proper : Proper entries) (hkey : key ∈ (build entries).recordTypes) :
    Alias.Chosen ((build entries).Taken key) (Alias.candidate (build entries).conflicts key)
      ((build entries).aliasOf key) := by
  obtain ⟨taken, same, chosen⟩ := proper.taken_iff hkey
  exact chosen.congr same

theorem ends (proper : Proper entries) (hkey : key ∈ (build entries).recordTypes) (stem : String) :
    ∃ n, 2 ≤ n ∧ ¬(build entries).Taken key (stem ++ toString n) := by
  obtain ⟨taken, same, -⟩ := proper.taken_iff hkey
  obtain ⟨found, hfound⟩ := Option.isSome_iff_exists.mp (Alias.isSome_firstFree? taken stem 2)
  obtain ⟨n, hn, rfl, free, -⟩ := Alias.firstFree?_eq_some hfound
  exact ⟨n, hn, mt (same _).mpr free⟩

theorem distinct_aliases (proper : Proper entries) (ha : a ∈ (build entries).recordTypes)
    (hb : b ∈ (build entries).recordTypes) (hne : a ≠ b) :
    (build entries).aliasOf a ≠ (build entries).aliasOf b := by
  intro same
  -- Of two keys the one that has its turn later must avoid the alias of the other.
  cases h : Alias.precedes a b with
  | true =>
    have earlier := (Alias.precedes_iff hne).mp h
    exact (proper.chosen hb).free (.inr (.inr ⟨a, ha, earlier, same⟩))
  | false =>
    have earlier := Alias.earlier_of_not_precedes h
    exact (proper.chosen ha).free (.inr (.inr ⟨b, hb, earlier, same.symm⟩))

theorem alias_safe (proper : Proper entries) (hkey : key ∈ (build entries).recordTypes) :
    isSafeIdentifier ((build entries).aliasOf key) = true :=
  (build_namesSafe proper.safe).aliases _ (proper.aliasOf_mem hkey)

theorem alias_lower (proper : Proper entries) (hkey : key ∈ (build entries).recordTypes) :
    Text.lowercase ((build entries).aliasOf key) = (build entries).aliasOf key := by
  obtain ⟨safe, lower⟩ := proper.key_safe hkey
  refine (lowercase_eq_self_iff (proper.alias_safe hkey)).mpr ((proper.chosen hkey).lower ?_)
  exact Alias.candidate_lower ((lowercase_eq_self_iff safe).mp lower) (proper.candidate hkey)

theorem alias_apart (proper : Proper entries) (hkey : key ∈ (build entries).recordTypes)
    (he : e ∈ entries) (hlink : e.2.header = some link) :
    Text.lowercase ((build entries).aliasOf key) ≠ Text.lowercase link.aliasName := by
  rw [proper.alias_lower hkey]
  intro same
  exact (proper.chosen hkey).free (.inr (.inl ⟨e, he, link, hlink, same.symm⟩))

end Proper

-- ---------------------------------------------------------------------------
-- Resolving
-- ---------------------------------------------------------------------------

theorem resolve_eq_ok {c : Catalog} (h : c.resolve s = .ok found) :
    found.key = keyOf s ∧ (found.key, found.entry) ∈ c.entries ∧
      found.aliasName = (c.aliases.lookup (keyOf s)).getD Alias.fallback := by
  simp only [resolve] at h
  split at h
  · rename_i entry hentry
    obtain rfl := Except.ok.inj h
    exact ⟨rfl, Keyed.mem_of_lookup hentry, rfl⟩
  · cases h

namespace Proper

variable {entries : Keyed CatalogEntry}

theorem resolve_key (proper : Proper entries) (hkey : key ∈ (build entries).recordTypes) :
    ∃ found, (build entries).resolve key = .ok found ∧ found.key = key := by
  have own := proper.keyOf_key hkey
  obtain ⟨⟨_, entry⟩, hmem, rfl⟩ := List.mem_map.mp hkey
  have hentry : (build entries).entries.lookup _ = some entry :=
    Keyed.lookup_of_mem proper.distinct hmem
  refine ⟨_, by rw [resolve, own, hentry], rfl⟩

theorem resolve_spelling (proper : Proper entries) (h : (build entries).resolve s = .ok found) :
    found.key ∈ (build entries).recordTypes ∧ (build entries).aliasOf s = found.aliasName ∧
      (build entries).aliasOf found.key = found.aliasName := by
  obtain ⟨hkey, hentry, halias⟩ := resolve_eq_ok h
  have listed : found.key ∈ (build entries).recordTypes := List.mem_map_of_mem hentry
  have assigned := Keyed.lookup_of_mem proper.nodup_aliases (proper.aliasOf_mem listed)
  rw [← hkey, assigned, Option.getD_some] at halias
  refine ⟨listed, ?_, halias.symm⟩
  rw [aliasOf, ← hkey, assigned, Option.getD_some, halias]

end Proper

theorem Built.resolve_apart {c : Catalog} {found : ResolvedRecord} (built : c.Built)
    (h : c.resolve s = .ok found) (hlink : found.entry.header = some link) :
    Text.lowercase found.aliasName ≠ Text.lowercase link.aliasName := by
  obtain ⟨entries, rfl, proper⟩ := built.proper
  obtain ⟨listed, -, halias⟩ := proper.resolve_spelling h
  obtain ⟨-, hentry, -⟩ := resolve_eq_ok h
  rw [← halias]
  exact proper.alias_apart listed hentry hlink

/-- However often entries have been added or replaced, the aliases are as they should be. -/
theorem Built.aliasInvariant {c : Catalog} (built : c.Built) : c.AliasInvariant := by
  obtain ⟨entries, rfl, proper⟩ := built.proper
  exact {
    ends := fun key hkey stem => proper.ends hkey stem
    distinct := fun a ha b hb hne => proper.distinct_aliases ha hb hne
    safe := fun key hkey => proper.alias_safe hkey
    lower := fun key hkey => proper.alias_lower hkey
    unreserved := fun key hkey hreserved => (proper.chosen hkey).free (.inl hreserved)
    apart := fun key hkey e he link hlink => proper.alias_apart hkey he hlink
    chosen := fun key hkey => ⟨_, proper.candidate hkey, proper.chosen hkey⟩
    resolved := fun key hkey => proper.resolve_key hkey
    spelled := fun s found h => ⟨(resolve_eq_ok h).1, proper.resolve_spelling h⟩ }

/-- A reserved word, an alias of a header table and an alias with a number are in the way. -/
def crowdedEntries : List (String × CatalogEntry) :=
  [("Nob", { table := "c", header := some ⟨"d", "No2", "fk", ["name"]⟩ }),
    ("no3x", { table := "b" }), ("NO", { table := "a" })]

theorem aliasInvariant_crowded : ∃ c, ofEntries crowdedEntries = .ok c ∧ c.Built ∧
    c.AliasInvariant ∧ c.aliases = [("no", "no3"), ("nob", "nob"), ("no3x", "no32")] := by
  have made : ∃ c, ofEntries crowdedEntries = .ok c ∧
      c.aliases = [("no", "no3"), ("nob", "nob"), ("no3x", "no32")] :=
    exists_ok_of_toOption (by decide +kernel)
  obtain ⟨c, hc, haliases⟩ := made
  have built : c.Built := .ofEntries hc
  exact ⟨c, hc, built, built.aliasInvariant, haliases⟩

end Catalog

end FilterSql
