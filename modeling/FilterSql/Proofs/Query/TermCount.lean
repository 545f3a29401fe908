import FilterSql.Proofs.Query.ArrayShape
import FilterSql.Proofs.Query.FilterErrors
import FilterSql.Proofs.Query.FlatFilter

/-!
# The number of terms

Only the number of its elements makes a filter too large: `terms_eq_ite`. There are never more terms
than elements, so that the terms need not be counted again. The elements of an array are read one by
one, and if they all name their fields under the word `field`, two arrays in a row are read as one.
-/

namespace FilterSql.Query.Filter

def size : Json → Nat
  | .array items => items.length
  | .object members => members.length
  | _ => 0

def uncounted : Json → Except QueryError (List Term)
  | .array items => ofArray items
  | .object members => ofMembers members
  | _ => .ok []

-- ---------------------------------------------------------------------------
-- No more terms than elements
-- ---------------------------------------------------------------------------

theorem length_le_of_ofArray (h : ofArray items = .ok ts) : ts.length ≤ items.length := by
  rw [← (gives_of_ofArray h).1.length_eq]
  exact List.length_filter_le _ _

/-- A member gives one term of its own, or one end of a range at most. -/
theorem length_le_of_classified {ms : List Member} {plain : List (Option Term)}
    (h : List.Forall₂ (fun m t => Member.plainTerm? m = .ok t) ms plain) :
    (plain.filterMap id).length + (standing ms).length ≤ ms.length := by
  induction h with
  | nil => simp [standing]
  | @cons m t ms plain hm _ ih =>
    cases m with
    | plain key value =>
      obtain ⟨term, -, rfl⟩ := map_eq_ok.mp hm
      rw [List.filterMap_cons_some (show id (some term) = some term from rfl)]
      simp only [standing, List.length_cons]
      omega
    | bound field which value =>
      obtain rfl := Except.ok.inj hm
      rw [List.filterMap_cons_none (show id none = none from rfl)]
      have own : (ownLimit field which value ms).toList.length ≤ 1 := Option.length_toList_le
      rw [standing_bound, List.length_append, List.length_cons]
      omega

theorem length_le_of_ofMembers (h : ofMembers members = .ok ts) :
    ts.length ≤ members.length := by
  obtain ⟨plain, limits, hplain, hlimits, perm⟩ := ofMembers_eq_ok h
  rw [perm.length_eq, List.length_append, ← hlimits.length_eq]
  have count := length_le_of_classified hplain
  rwa [classified, List.length_map] at count

theorem length_le_of_uncounted (h : uncounted filter = .ok ts) : ts.length ≤ size filter := by
  cases filter with
  | array items => exact length_le_of_ofArray h
  | object members => exact length_le_of_ofMembers h
  | _ =>
    obtain rfl := Except.ok.inj h
    exact Nat.le_refl 0

-- ---------------------------------------------------------------------------
-- Too many elements
-- ---------------------------------------------------------------------------

theorem failsOnly_uncounted (filter : Json) : FailsOnly Malformed (uncounted filter) := by
  cases filter with
  | array items => exact failsOnly_ofArray items
  | object members => exact failsOnly_ofMembers members
  | _ => exact .ok []

/-- The terms pass the second count if the elements have passed the first one. -/
theorem terms_eq_ite (filter : Json) : terms filter =
    if maxTerms < size filter then .error (.tooManyFilters (size filter) maxTerms)
    else uncounted filter := by
  have counted : terms filter = do
      checkCount (size filter)
      let ts ← uncounted filter
      checkCount ts.length
      return ts := by
    cases filter <;> rfl
  rw [counted]
  unfold checkCount
  split
  · rfl
  · rename_i few
    cases read : uncounted filter with
    | error e => rfl
    | ok ts =>
      have fewer := length_le_of_uncounted read
      simp only [ok_bind, if_neg (show ¬maxTerms < ts.length by omega)]
      rfl

theorem terms_of_size_le (h : size filter ≤ maxTerms) : terms filter = uncounted filter := by
  rw [terms_eq_ite, if_neg (Nat.not_lt.mpr h)]

theorem uncounted_of_terms (h : terms filter = .ok ts) : uncounted filter = .ok ts := by
  rw [terms_eq_ite] at h
  split at h
  · cases h
  · exact h

theorem tooManyFilters_iff : terms filter = .error (.tooManyFilters count limit) ↔
    maxTerms < size filter ∧ count = size filter ∧ limit = maxTerms := by
  rw [terms_eq_ite]
  split
  · rename_i many
    simp [many, eq_comm]
  · rename_i few
    refine iff_of_false (fun h => ?_) fun h => few h.1
    -- Without the counts there is no such error.
    cases failsOnly_uncounted filter _ h

-- ---------------------------------------------------------------------------
-- One array after another
-- ---------------------------------------------------------------------------

theorem ofArray_append (hxs : shapeOf xs = .field) (hys : shapeOf ys = .field) :
    ofArray (xs ++ ys) = do
      let ts ← ofArray xs
      let us ← ofArray ys
      return ts ++ us := by
  have both : shapeOf (xs ++ ys) = .field := by
    rw [shapeOf_eq_field_iff] at *
    rw [List.all_append, hxs, hys]
    rfl
  simp only [ofArray_eq, both, hxs, hys, List.mapM_append]
  cases xs.mapM Shape.field.read with
  | error e => rfl
  | ok ts =>
    cases ys.mapM Shape.field.read with
    | error e => rfl
    | ok us => exact congrArg Except.ok List.filterMap_append

/-- A filter is too large if it has too many elements, whatever they are, and for no other reason.
Each element has one term, unless it is a value under the name of a field that is no record. -/
theorem terms_one_by_one :
    (∀ filter count limit, terms filter = .error (.tooManyFilters count limit) ↔
      maxTerms < size filter ∧ count = size filter ∧ limit = maxTerms) ∧
    (∀ filter ts, terms filter = .ok ts → ts.length ≤ size filter) ∧
    (∀ filter, size filter ≤ maxTerms → terms filter = uncounted filter) ∧
    (∀ items ts, terms (.array items) = .ok ts →
      (shapeOf items ≠ .keyed → List.Forall₂ (shapeOf items).Gives items ts) ∧
      (shapeOf items = .keyed →
        List.Forall₂ Shape.keyed.Gives (items.filter Shape.keyed.asks) ts)) ∧
    ∀ xs ys, shapeOf xs = .field → shapeOf ys = .field → (xs ++ ys).length ≤ maxTerms →
      terms (.array (xs ++ ys)) = do
        let ts ← terms (.array xs)
        let us ← terms (.array ys)
        return ts ++ us := by
  refine ⟨fun _ _ _ => tooManyFilters_iff,
    fun _ _ h => length_le_of_uncounted (uncounted_of_terms h),
    fun _ => terms_of_size_le, fun items ts h => ?_, fun xs ys hxs hys few => ?_⟩
  · obtain ⟨gives, all⟩ := gives_of_ofArray (uncounted_of_terms h)
    refine ⟨fun named => ?_, fun keyed => keyed ▸ gives⟩
    rwa [all named] at gives
  · have parts : (xs ++ ys).length = xs.length + ys.length := List.length_append
    have fewXs : size (.array xs) ≤ maxTerms := by simp only [size]; omega
    have fewYs : size (.array ys) ≤ maxTerms := by simp only [size]; omega
    have few : size (.array (xs ++ ys)) ≤ maxTerms := few
    rw [terms_of_size_le few, terms_of_size_le fewXs, terms_of_size_le fewYs]
    exact ofArray_append hxs hys

def threeKeys : List Json :=
  [.object [("a", .object [("operator", .string ">"), ("value", .ofInt 1)])],
    .object [("b", .ofInt 2)], .object [("field", .object [("operator", .string "is_null")])]]

def namesOnly (names : List String) : List Json :=
  names.map fun name => .object [("field", .string name), ("operator", .string "is_null")]

theorem terms_one_by_one_threeKeys :
    (∃ ts, terms (.array threeKeys) = .ok ts ∧ ts.length = 2 ∧
      List.Forall₂ Shape.keyed.Gives (threeKeys.filter Shape.keyed.asks) ts) ∧
    terms (.array (namesOnly ["a"] ++ namesOnly ["b", "c d", "-"])) =
      .error (.unsafeIdentifier .fieldName "c d") := by
  obtain ⟨-, -, -, elements, append⟩ := terms_one_by_one
  obtain ⟨ts, hts, count⟩ : ∃ ts, terms (.array threeKeys) = .ok ts ∧ ts.length = 2 :=
    exists_ok_of_toOption (by decide +kernel)
  refine ⟨⟨ts, hts, count, (elements _ ts hts).2 (by decide +kernel)⟩, ?_⟩
  rw [append _ _ (by decide +kernel) (by decide +kernel) (by decide)]
  rfl

end FilterSql.Query.Filter
