import Mathlib.Data.List.Nodup
import FilterSql.Keyed
import FilterSql.Text.Lowercase

/-!
# Lists of values under keys

What is in a list after values have been set in it, and what is found there. `ofList` leaves a list
as it is that is in the order of its keys, so that setting values in turn and setting them on top of
what is there already are the same.
-/

namespace FilterSql.Keyed

variable {α : Type}

theorem mem_insert {key : String} {value : α} {m : Keyed α} (h : e ∈ insert key value m) :
    e = (key, value) ∨ e ∈ m := by
  induction m with
  | nil => exact .inl (List.mem_singleton.mp h)
  | cons head rest ih =>
    unfold insert at h
    split at h
    · rcases List.mem_cons.mp h with h | h
      · exact .inl h
      · exact .inr (List.mem_cons_of_mem _ h)
    · split at h
      · exact List.mem_cons.mp h
      · rcases List.mem_cons.mp h with rfl | h
        · exact .inr List.mem_cons_self
        · exact (ih h).imp_right (List.mem_cons_of_mem _)

theorem mem_insertAll {below above : Keyed α} (h : e ∈ insertAll below above) :
    e ∈ below ∨ e ∈ above := by
  induction above generalizing below with
  | nil => exact .inl h
  | cons a above ih =>
    rw [insertAll_cons] at h
    rcases ih h with h | h
    · rcases mem_insert h with rfl | h
      · exact .inr List.mem_cons_self
      · exact .inl h
    · exact .inr (List.mem_cons_of_mem _ h)

theorem mem_ofList {entries : List (String × α)} (h : e ∈ ofList entries) : e ∈ entries :=
  (mem_insertAll h).resolve_left List.not_mem_nil

theorem mem_of_lookup {m : Keyed α} (h : m.lookup k = some v) : (k, v) ∈ m := by
  induction m with
  | nil => simp at h
  | cons e rest ih =>
    obtain ⟨key, value⟩ := e
    rw [lookup_cons_eq_ite] at h
    split at h
    · rename_i hk
      cases h
      exact hk ▸ List.mem_cons_self
    · exact List.mem_cons_of_mem _ (ih h)

-- ---------------------------------------------------------------------------
-- The order of the keys
-- ---------------------------------------------------------------------------

/-- Each key stands once and in its place. -/
def Ascending (m : Keyed α) : Prop := m.Pairwise fun a b => a.1 < b.1

theorem ascending_insert {key : String} {value : α} {m : Keyed α} (h : Ascending m) :
    Ascending (insert key value m) := by
  induction m with
  | nil => exact List.pairwise_singleton _ _
  | cons e rest ih =>
    obtain ⟨k, v⟩ := e
    obtain ⟨hfirst, hrest⟩ := List.pairwise_cons.mp h
    unfold insert
    split
    · rename_i heq
      subst heq
      exact List.pairwise_cons.mpr ⟨hfirst, hrest⟩
    · rename_i hne
      split
      · rename_i hlt
        refine List.pairwise_cons.mpr ⟨fun e he => ?_, h⟩
        rcases List.mem_cons.mp he with rfl | he
        · exact hlt
        · exact String.lt_trans hlt (hfirst e he)
      · rename_i hge
        refine List.pairwise_cons.mpr ⟨fun e he => ?_, ih hrest⟩
        rcases mem_insert he with rfl | he
        · exact Std.lt_of_le_of_ne (String.not_lt.mp hge) (Ne.symm hne)
        · exact hfirst e he

theorem ascending_insertAll {below : Keyed α} (h : Ascending below) (above : Keyed α) :
    Ascending (insertAll below above) := by
  induction above generalizing below with
  | nil => exact h
  | cons e above ih =>
    rw [insertAll_cons]
    exact ih (ascending_insert h)

theorem Ascending.nodup_keys {m : Keyed α} (h : Ascending m) : (m.map Prod.fst).Nodup :=
  List.pairwise_map.mpr (List.Pairwise.imp (fun hlt => String.ne_of_lt hlt) h)

theorem nodup_keys_ofList (entries : List (String × α)) :
    ((ofList entries).map Prod.fst).Nodup :=
  (ascending_insertAll .nil entries).nodup_keys

theorem lookup_of_mem {m : Keyed α} (distinct : (m.map Prod.fst).Nodup) (h : (k, v) ∈ m) :
    m.lookup k = some v := by
  induction m with
  | nil => cases h
  | cons e rest ih =>
    obtain ⟨key, value⟩ := e
    obtain ⟨hnew, hrest⟩ := List.nodup_cons.mp distinct
    rw [lookup_cons_eq_ite]
    rcases List.mem_cons.mp h with h | h
    · cases h
      rw [if_pos rfl]
    · have hkey : k ∈ rest.map Prod.fst := List.mem_map_of_mem h
      have hne : k ≠ key := fun heq => hnew (heq ▸ hkey)
      rw [if_neg hne, ih hrest h]

theorem insert_last {m : Keyed α} (h : ∀ e ∈ m, e.1 < key) (value : α) :
    insert key value m = m ++ [(key, value)] := by
  induction m with
  | nil => rfl
  | cons e rest ih =>
    obtain ⟨hfirst, hrest⟩ := List.forall_mem_cons.mp h
    have hne : key ≠ e.1 := (String.ne_of_lt hfirst).symm
    have hge : ¬ key < e.1 := String.not_lt.mpr (Std.le_of_lt hfirst)
    rw [insert, if_neg hne, if_neg hge, ih hrest, List.cons_append]

theorem insertAll_of_ascending {below above : Keyed α} (h : Ascending (below ++ above)) :
    insertAll below above = below ++ above := by
  induction above generalizing below with
  | nil => rw [insertAll_nil, List.append_nil]
  | cons e above ih =>
    have last := insert_last (fun x hx => (List.pairwise_append.mp h).2.2 x hx e (.head _)) e.2
    rw [List.append_cons] at h
    rw [insertAll_cons, last, ih h, ← List.append_cons]

theorem ofList_of_ascending {m : Keyed α} (h : Ascending m) : ofList m = m :=
  insertAll_of_ascending h

theorem insertAll_append (below above last : Keyed α) :
    insertAll below (above ++ last) = insertAll (insertAll below above) last :=
  List.foldl_append

theorem ofList_append (given later : List (String × α)) :
    ofList (given ++ later) = insertAll (ofList given) later :=
  insertAll_append [] given later

-- ---------------------------------------------------------------------------
-- Look-up
-- ---------------------------------------------------------------------------

section

variable {m : Keyed α}

/-- Of values under one key the last counts. -/
theorem lookup_insertAll (below above : Keyed α) (k : String) :
    (insertAll below above).lookup k = (above.reverse.lookup k).or (below.lookup k) := by
  induction above generalizing below with
  | nil => simp
  | cons e above ih =>
    rw [insertAll_cons, ih, List.reverse_cons, List.lookup_append, lookup_insert, Option.or_assoc,
      lookup_cons_eq_ite]
    split <;> simp

theorem lookup_ofList (entries : List (String × α)) (k : String) :
    (ofList entries).lookup k = entries.reverse.lookup k := by
  simp [ofList, lookup_insertAll]

theorem lookup_eq_some_iff (distinct : (m.map Prod.fst).Nodup) :
    m.lookup k = some v ↔ (k, v) ∈ m :=
  ⟨mem_of_lookup, lookup_of_mem distinct⟩

theorem lookup_reverse (distinct : (m.map Prod.fst).Nodup) (k : String) :
    m.reverse.lookup k = m.lookup k := by
  have reversed : (m.reverse.map Prod.fst).Nodup := by
    rw [List.map_reverse]
    exact List.nodup_reverse.mpr distinct
  ext v
  rw [lookup_eq_some_iff distinct, lookup_eq_some_iff reversed, List.mem_reverse]

theorem mem_ofList_iff {given : List (String × α)} : (k, v) ∈ ofList given ↔
    ∃ before after, given = before ++ (k, v) :: after ∧ ∀ e ∈ after, e.1 ≠ k := by
  rw [← lookup_eq_some_iff (nodup_keys_ofList given), lookup_ofList, List.lookup_eq_some_iff]
  constructor
  · rintro ⟨after, before, hgiven, hafter⟩
    refine ⟨before.reverse, after.reverse, ?_, fun e he => ?_⟩
    · rw [← List.reverse_inj, hgiven]
      simp
    · exact (bne_iff_ne.mp (hafter e (List.mem_reverse.mp he))).symm
  · rintro ⟨before, after, rfl, hafter⟩
    refine ⟨after.reverse, before.reverse, by simp, fun e he => ?_⟩
    exact bne_iff_ne.mpr (hafter e (List.mem_reverse.mp he)).symm

def lowered (m : List (String × α)) : Keyed α :=
  m.map fun (key, value) => (Text.lowercase key, value)

theorem lowered_cons (e : String × α) (m : List (String × α)) :
    lowered (e :: m) = (Text.lowercase e.1, e.2) :: lowered m := rfl

theorem lowered_append (m n : List (String × α)) : lowered (m ++ n) = lowered m ++ lowered n :=
  List.map_append

theorem lowered_eq_self (lower : ∀ e ∈ m, Text.lowercase e.1 = e.1) : lowered m = m := by
  refine (List.map_congr_left fun e he => ?_).trans (List.map_id _)
  exact Prod.ext (lower e he) rfl

end

end FilterSql.Keyed
