import FilterSql.Json.Number

/-!
# JSON values

Trees whose objects keep the order of their members. A member given twice keeps its first place and
takes the last value; `Members.insert` is that rule.
-/

namespace FilterSql

inductive Json where
  | null
  | bool (b : Bool)
  | number (n : Json.Number)
  | string (s : String)
  | array (items : List Json)
  | object (members : List (String × Json))
  deriving Inhabited

namespace Json

abbrev Members := List (String × Json)

namespace Members

def get? (ms : Members) (key : String) : Option Json := ms.lookup key

def has (ms : Members) (key : String) : Bool := (ms.get? key).isSome

/-- Sets a member: in place if the key is there, otherwise at the end. -/
def insert (key : String) (value : Json) : Members → Members
  | [] => [(key, value)]
  | (k, v) :: ms => if k = key then (key, value) :: ms else (k, v) :: insert key value ms

/-- Members in the order they were written, repeated keys merged. -/
def ofWritten (written : List (String × Json)) : Members :=
  written.foldl (fun ms kv => insert kv.1 kv.2 ms) []

theorem insert_of_not_mem {key : String} {value : Json} {ms : Members}
    (h : key ∉ ms.map Prod.fst) : insert key value ms = ms ++ [(key, value)] := by
  induction ms with
  | nil => rfl
  | cons kv ms ih =>
    simp only [List.map_cons, List.mem_cons, not_or] at h
    have hk : kv.1 ≠ key := fun e => h.1 e.symm
    simp [insert, hk, ih h.2]

theorem ofWritten_of_nodup {written : List (String × Json)} (h : (written.map Prod.fst).Nodup) :
    ofWritten written = written := by
  suffices ∀ ms : Members, ((ms ++ written).map Prod.fst).Nodup →
      written.foldl (fun ms kv => insert kv.1 kv.2 ms) ms = ms ++ written from this [] h
  clear h
  induction written with
  | nil => exact fun ms _ => (List.append_nil ms).symm
  | cons kv written ih =>
    intro ms h
    have hk : kv.1 ∉ ms.map Prod.fst := by
      rw [List.map_append, List.map_cons] at h
      exact fun hmem => (List.nodup_append.1 h).2.2 _ hmem _ List.mem_cons_self rfl
    rw [List.foldl_cons, insert_of_not_mem hk, ih _ (by rwa [List.append_assoc]),
      List.append_assoc]
    rfl

end Members

def members? : Json → Option Members
  | .object ms => some ms
  | _ => none

def string? : Json → Option String
  | .string s => some s
  | _ => none

def get? (j : Json) (key : String) : Option Json := j.members?.bind (·.get? key)

def ofInt (n : Int) : Json := .number (.integer n)

end Json

end FilterSql
