/-!
# Values under keys

Lists of values under text keys, in the order of the keys by code points. A key stands for one
value: a later value takes the place of an earlier one.
-/

namespace FilterSql

abbrev Keyed (α : Type) := List (String × α)

namespace Keyed

variable {α : Type}

def insert (key : String) (value : α) : Keyed α → Keyed α
  | [] => [(key, value)]
  | (k, v) :: rest =>
    if key = k then (key, value) :: rest
    else if key < k then (key, value) :: (k, v) :: rest
    else (k, v) :: insert key value rest

def insertAll (below above : Keyed α) : Keyed α :=
  above.foldl (fun m (key, value) => insert key value m) below

def ofList (entries : List (String × α)) : Keyed α := insertAll [] entries

@[simp] theorem insertAll_nil (m : Keyed α) : insertAll m [] = m := rfl

@[simp] theorem insertAll_cons (m : Keyed α) (e : String × α) (above : Keyed α) :
    insertAll m (e :: above) = insertAll (insert e.1 e.2 m) above := rfl

theorem lookup_cons_eq_ite (k key : String) (value : α) (m : Keyed α) :
    List.lookup k ((key, value) :: m) = if k = key then some value else m.lookup k := by
  by_cases h : k = key
  · simp [h]
  · simp [List.lookup_cons, beq_eq_false_iff_ne.2 h, h]

theorem lookup_insert (key k : String) (value : α) (m : Keyed α) :
    List.lookup k (insert key value m) = if k = key then some value else m.lookup k := by
  induction m with
  | nil => exact lookup_cons_eq_ite k key value []
  | cons e rest ih =>
    obtain ⟨other, v⟩ := e
    unfold insert
    split
    · rename_i h
      subst h
      by_cases hk : k = key <;> simp [lookup_cons_eq_ite, hk]
    · split
      · simp [lookup_cons_eq_ite]
      · rename_i hne _
        by_cases hk : k = other
        · simp [hk, Ne.symm hne]
        · simp [lookup_cons_eq_ite, hk, ih]

end Keyed

end FilterSql
