import FilterSql.Proofs.Catalog.Extension
import FilterSql.Proofs.Settings.Precedence

/-!
# Record types of the settings files

The letter case of a record type does not count for the catalog, but it does where one file is laid
over another: there `Line` and `line` are two keys. `recordTypePrecedence_iff`: what the upper file
says of a record type counts, unless the lower file spells it in a way that comes later in the order
of code points and says something else.
-/

namespace FilterSql

open Query

-- ---------------------------------------------------------------------------
-- Spellings of a key
-- ---------------------------------------------------------------------------

namespace Keyed

variable {α : Type} {m : Keyed α}

/-- The last entry whose key is a spelling of `k`. -/
structure LastSpelling (m : Keyed α) (k : String) (e : String × α) : Prop where
  mem : e ∈ m
  spells : Text.lowercase e.1 = k
  last : ∀ x ∈ m, Text.lowercase x.1 = k → x.1 ≤ e.1

theorem lookup_lowered_eq_none (h : ∀ e ∈ m, Text.lowercase e.1 ≠ k) :
    (lowered m).reverse.lookup k = none := by
  refine List.lookup_eq_none_iff.mpr fun low hlow => ?_
  obtain ⟨e, he, rfl⟩ := List.mem_map.mp (List.mem_reverse.mp hlow)
  exact bne_iff_ne.mpr (h e he).symm

theorem lookup_lowered (order : Ascending m) (h : LastSpelling m k e) :
    (lowered m).reverse.lookup k = some e.2 := by
  induction m with
  | nil => exact absurd h.mem List.not_mem_nil
  | cons first rest ih =>
    obtain ⟨hfirst, hrest⟩ := List.pairwise_cons.mp order
    rw [lowered_cons, List.reverse_cons, List.lookup_append]
    rcases List.mem_cons.mp h.mem with rfl | hmem
    · have later : (lowered rest).reverse.lookup k = none := by
        refine lookup_lowered_eq_none fun x hx hk => ?_
        exact String.not_lt.mpr (h.last x (List.mem_cons_of_mem _ hx) hk) (hfirst x hx)
      rw [later, h.spells]
      simp
    · rw [ih hrest ⟨hmem, h.spells, fun x hx => h.last x (List.mem_cons_of_mem _ hx)⟩,
        Option.some_or]

end Keyed

-- ---------------------------------------------------------------------------
-- Configured catalogs
-- ---------------------------------------------------------------------------

namespace Catalog

def Defines (c : Catalog) (name : String) (entry : CatalogEntry) : Prop :=
  ∃ found, c.resolve name = .ok found ∧ found.entry = entry

theorem defines_iff {c : Catalog} :
    c.Defines name entry ↔ c.entries.lookup (keyOf name) = some entry := by
  unfold Defines resolve
  cases hentry : c.entries.lookup (keyOf name) <;> simp [hentry]

theorem lowered_builtin : Keyed.lowered builtin.entries = builtin.entries :=
  Keyed.lowered_eq_self fun e he => builtinEntries_lower e (Keyed.mem_ofList he)

theorem nodup_builtin : (builtin.entries.map Prod.fst).Nodup :=
  Keyed.nodup_keys_ofList _

variable {extra : List (String × CatalogEntry)}

theorem configured_ok (safe : ∀ e ∈ Keyed.ofList extra, e.2.Safe e.1) :
    ∃ c, configured extra = .ok c := by
  refine ⟨_, ofEntries_ok fun e he => ?_⟩
  rcases List.mem_append.mp he with he | he
  · exact builtin_namesSafe.entries e he
  · exact safe e he

theorem lookup_configured (h : configured extra = .ok c) (k : String) :
    c.entries.lookup k =
      ((Keyed.lowered (Keyed.ofList extra)).reverse.lookup k).or (builtin.entries.lookup k) := by
  rw [entries_of_ofEntries h, Keyed.lowered_append, lowered_builtin, Keyed.lookup_ofList,
    List.reverse_append, List.lookup_append, Keyed.lookup_reverse nodup_builtin]

theorem safe_of_configured (h : configured extra = .ok c) (he : e ∈ Keyed.ofList extra) :
    e.2.Safe e.1 :=
  (ofEntries_eq_ok h).2 e (List.mem_append_right _ he)

end Catalog

-- ---------------------------------------------------------------------------
-- Two files
-- ---------------------------------------------------------------------------

namespace SettingsFile

/-- No record type is named twice, in whatever letter case. -/
def Distinct (f : SettingsFile) : Prop :=
  (f.recordTypes.map fun e => Text.lowercase e.1).Nodup

theorem Distinct.nodup {f : SettingsFile} (h : f.Distinct) :
    (f.recordTypes.map Prod.fst).Nodup := by
  have lowered : ((f.recordTypes.map Prod.fst).map Text.lowercase).Nodup := by
    rw [List.map_map]
    exact h
  exact lowered.of_map

theorem Distinct.eq {f : SettingsFile} (h : f.Distinct) (ha : a ∈ f.recordTypes)
    (hb : b ∈ f.recordTypes) (same : Text.lowercase a.1 = Text.lowercase b.1) : a = b :=
  List.inj_on_of_nodup_map h ha hb same

variable {below above : SettingsFile}

/-- The record types of two files: those of the upper one, and those that only the lower one has
under exactly that key. -/
theorem mem_stacked (hbelow : below.Distinct) (habove : above.Distinct) :
    e ∈ Keyed.ofList (stacked [below, above]).recordTypes ↔
      e ∈ above.recordTypes ∨ e ∈ below.recordTypes ∧ ∀ x ∈ above.recordTypes, x.1 ≠ e.1 := by
  obtain ⟨key, entry⟩ := e
  have order : Keyed.Ascending (stacked [below, above]).recordTypes :=
    Keyed.ascending_insertAll (Keyed.ascending_insertAll .nil _) _
  have lookup : (Keyed.ofList (stacked [below, above]).recordTypes).lookup key =
      (above.recordTypes.lookup key).or (below.recordTypes.lookup key) := by
    rw [Keyed.lookup_ofList, Keyed.lookup_reverse order.nodup_keys]
    show (Keyed.insertAll (Keyed.insertAll [] below.recordTypes) above.recordTypes).lookup key = _
    rw [Keyed.lookup_insertAll, Keyed.lookup_insertAll, Keyed.lookup_reverse habove.nodup,
      Keyed.lookup_reverse hbelow.nodup]
    simp
  rw [← Keyed.lookup_eq_some_iff (Keyed.nodup_keys_ofList _), lookup, Option.or_eq_some_iff,
    Keyed.lookup_eq_some_iff habove.nodup, Keyed.lookup_eq_some_iff hbelow.nodup,
    List.lookup_eq_none_iff]
  exact or_congr_right (and_comm.trans
    (and_congr_right fun _ => forall₂_congr fun _ _ => bne_iff_ne.trans ne_comm))

theorem lastSpelling_below (hbelow : below.Distinct) (habove : above.Distinct)
    (hp : p ∈ below.recordTypes) (hq : q ∈ above.recordTypes)
    (same : Text.lowercase p.1 = Text.lowercase q.1) (hlt : q.1 < p.1) :
    Keyed.LastSpelling (.ofList (stacked [below, above]).recordTypes) (Text.lowercase q.1) p where
  mem := by
    refine (mem_stacked hbelow habove).mpr (.inr ⟨hp, fun x hx heq => ?_⟩)
    obtain rfl := habove.eq hx hq (heq ▸ same)
    exact String.ne_of_lt hlt heq
  spells := same
  last x hx hspells := by
    rcases (mem_stacked hbelow habove).mp hx with hx | ⟨hx, -⟩
    · obtain rfl := habove.eq hx hq hspells
      exact Std.le_of_lt hlt
    · obtain rfl := hbelow.eq hx hp (hspells.trans same.symm)
      exact Std.le_refl _

theorem lastSpelling_above (hbelow : below.Distinct) (habove : above.Distinct)
    (hq : q ∈ above.recordTypes)
    (hle : ∀ p ∈ below.recordTypes, Text.lowercase p.1 = Text.lowercase q.1 → ¬q.1 < p.1) :
    Keyed.LastSpelling (.ofList (stacked [below, above]).recordTypes) (Text.lowercase q.1) q where
  mem := (mem_stacked hbelow habove).mpr (.inl hq)
  spells := rfl
  last x hx hspells := by
    rcases (mem_stacked hbelow habove).mp hx with hx | ⟨hx, -⟩
    · obtain rfl := habove.eq hx hq hspells
      exact Std.le_refl _
    · exact String.not_lt.mp (hle x hx hspells)

theorem lastSpelling_below_only (hbelow : below.Distinct) (habove : above.Distinct)
    (hp : p ∈ below.recordTypes)
    (hnone : ∀ q ∈ above.recordTypes, Text.lowercase q.1 ≠ Text.lowercase p.1) :
    Keyed.LastSpelling (.ofList (stacked [below, above]).recordTypes) (Text.lowercase p.1) p where
  mem := (mem_stacked hbelow habove).mpr
    (.inr ⟨hp, fun q hq heq => hnone q hq (congrArg Text.lowercase heq)⟩)
  spells := rfl
  last x hx hspells := by
    rcases (mem_stacked hbelow habove).mp hx with hx | ⟨hx, -⟩
    · exact absurd hspells (hnone x hx)
    · obtain rfl := hbelow.eq hx hp hspells
      exact Std.le_refl _

end SettingsFile

namespace Catalog

open SettingsFile

/-- The definitions of the upper file count before those of the lower one, and both before the
built-in ones, in whatever letter case a record type is written. -/
structure RecordTypePrecedence (below above : SettingsFile) (c : Catalog) : Prop where
  upper : ∀ name, ∀ q ∈ above.recordTypes, Text.lowercase q.1 = keyOf name → c.Defines name q.2
  lower : ∀ name, ∀ p ∈ below.recordTypes, Text.lowercase p.1 = keyOf name →
    (∀ q ∈ above.recordTypes, Text.lowercase q.1 ≠ keyOf name) → c.Defines name p.2
  builtIn : ∀ name, (∀ e ∈ above.recordTypes ++ below.recordTypes,
    Text.lowercase e.1 ≠ keyOf name) → ∀ entry, c.Defines name entry ↔ builtin.Defines name entry

variable {below above : SettingsFile}

theorem defines_of_lastSpelling {f : SettingsFile} (h : configured f.recordTypes = .ok c)
    (hlast : Keyed.LastSpelling (.ofList f.recordTypes) (keyOf name) e) : c.Defines name e.2 := by
  have order : Keyed.Ascending (Keyed.ofList f.recordTypes) :=
    Keyed.ascending_insertAll .nil _
  rw [defines_iff, lookup_configured h, Keyed.lookup_lowered order hlast, Option.some_or]

/-- The law holds of the catalog of two files if and only if no record type of the lower file has a
later spelling and another definition than in the upper one. -/
theorem recordTypePrecedence_iff (hbelow : below.Distinct) (habove : above.Distinct)
    (hs : Settings.ofLayers o (.stacked [below, above]) = .ok s)
    (hc : configured s.recordTypes = .ok c) :
    RecordTypePrecedence below above c ↔
      ∀ p ∈ below.recordTypes, ∀ q ∈ above.recordTypes,
        Text.lowercase p.1 = Text.lowercase q.1 → q.1 < p.1 → p.2 = q.2 := by
  have types : s.recordTypes = (stacked [below, above]).recordTypes := by
    rw [Settings.eq_layered hs]
    rfl
  rw [types] at hc
  constructor
  · intro law p hp q hq same hlt
    have safe := safe_of_configured hc ((mem_stacked hbelow habove).mpr (.inl hq))
    have key : keyOf q.1 = Text.lowercase q.1 := by rw [keyOf, trim_of_isSafeIdentifier safe.1]
    have byUpper := defines_iff.mp (law.upper q.1 q hq key.symm)
    have byLower := defines_iff.mp (defines_of_lastSpelling hc
      (key ▸ lastSpelling_below hbelow habove hp hq same hlt))
    exact Option.some.inj (byLower.symm.trans byUpper)
  · intro agree
    constructor
    · intro name q hq hname
      by_cases later : ∃ p ∈ below.recordTypes, Text.lowercase p.1 = Text.lowercase q.1 ∧ q.1 < p.1
      · obtain ⟨p, hp, same, hlt⟩ := later
        rw [← agree p hp q hq same hlt]
        exact defines_of_lastSpelling hc
          (hname ▸ lastSpelling_below hbelow habove hp hq same hlt)
      · refine defines_of_lastSpelling hc (hname ▸ lastSpelling_above hbelow habove hq ?_)
        exact fun p hp same hlt => later ⟨p, hp, same, hlt⟩
    · intro name p hp hname hnone
      rw [← hname] at hnone
      exact defines_of_lastSpelling hc (hname ▸ lastSpelling_below_only hbelow habove hp hnone)
    · intro name hnone entry
      have unnamed : ∀ e ∈ Keyed.ofList (stacked [below, above]).recordTypes,
          Text.lowercase e.1 ≠ keyOf name := fun e he =>
        hnone e (List.mem_append.mpr (((mem_stacked hbelow habove).mp he).imp_right And.left))
      rw [defines_iff, defines_iff, lookup_configured hc, Keyed.lookup_lowered_eq_none unnamed,
        Option.none_or]

/-- The customers of a shop, and a record type that is not built in. -/
def shopFile : SettingsFile where
  recordTypes := [("Customer", { table := "shop_customer" }), ("shelf", { table := "shelf" })]

/-- The customers of a branch of the shop, in another letter case. -/
def branchFile : SettingsFile where
  recordTypes := [("customer", { table := "branch_customer" })]

theorem recordTypePrecedence_branchFile : ∃ s c,
    Settings.ofLayers {} (.stacked [shopFile, branchFile]) = .ok s ∧
    configured s.recordTypes = .ok c ∧ RecordTypePrecedence shopFile branchFile c ∧
    c.Defines "CUSTOMER" { table := "branch_customer" } ∧
    c.Defines "shelf" { table := "shelf" } := by
  let s := Settings.layered {} (.stacked [shopFile, branchFile])
  have hs : Settings.ofLayers {} (.stacked [shopFile, branchFile]) = .ok s := rfl
  obtain ⟨c, hc⟩ : ∃ c, configured s.recordTypes = .ok c := configured_ok (by decide +kernel)
  have hshop : shopFile.Distinct := by unfold Distinct; decide +kernel
  have hbranch : branchFile.Distinct := by unfold Distinct; decide +kernel
  have law := (recordTypePrecedence_iff hshop hbranch hs hc).mpr (by decide +kernel)
  exact ⟨s, c, hs, hc, law, law.upper "CUSTOMER" _ (.head _) (by decide +kernel),
    law.lower "shelf" _ (.tail _ (.head _)) (by decide +kernel) (by decide +kernel)⟩

/-- With the shop over the branch, the customers are those of the branch all the same. -/
theorem not_recordTypePrecedence_shopFile : shopFile.Distinct ∧ branchFile.Distinct ∧ ∃ s c,
    Settings.ofLayers {} (.stacked [branchFile, shopFile]) = .ok s ∧
    configured s.recordTypes = .ok c ∧ c.Defines "customer" { table := "branch_customer" } ∧
    ¬RecordTypePrecedence branchFile shopFile c := by
  let s := Settings.layered {} (.stacked [branchFile, shopFile])
  have hs : Settings.ofLayers {} (.stacked [branchFile, shopFile]) = .ok s := rfl
  obtain ⟨c, hc⟩ : ∃ c, configured s.recordTypes = .ok c := configured_ok (by decide +kernel)
  have last : (Keyed.lowered (Keyed.ofList s.recordTypes)).reverse.lookup (keyOf "customer") =
      some { table := "branch_customer" } := by decide +kernel
  have htable : c.entries.lookup (keyOf "customer") = some { table := "branch_customer" } := by
    rw [lookup_configured hc, last, Option.some_or]
  refine ⟨by unfold Distinct; decide +kernel, by unfold Distinct; decide +kernel, s, c, hs, hc,
    defines_iff.mpr htable, fun law => ?_⟩
  have upper := law.upper "customer" ("Customer", { table := "shop_customer" }) (.head _)
    (by decide +kernel)
  have same : ({ table := "branch_customer" } : CatalogEntry) = { table := "shop_customer" } :=
    Option.some.inj (htable.symm.trans (defines_iff.mp upper))
  exact absurd same (by decide)

end Catalog

end FilterSql
