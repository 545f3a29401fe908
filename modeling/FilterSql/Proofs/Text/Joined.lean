import Mathlib.Data.List.Basic

/-!
# Joined parts

Texts, and other lists, that are put together from parts with a separator between them.
-/

namespace FilterSql.Text

variable {x : α} {sep : List α} {parts : List (List α)}

theorem mem_intercalate (h : x ∈ sep.intercalate parts) : x ∈ sep ∨ ∃ part ∈ parts, x ∈ part := by
  induction parts with
  | nil => cases h
  | cons part parts ih =>
    cases parts with
    | nil => exact .inr ⟨part, List.mem_cons_self, by simpa using h⟩
    | cons next parts =>
      rw [List.intercalate_cons_cons, List.mem_append, List.mem_append] at h
      rcases h with (h | h) | h
      · exact .inr ⟨part, List.mem_cons_self, h⟩
      · exact .inl h
      · exact (ih h).imp_right fun ⟨p, hp, hx⟩ => ⟨p, List.mem_cons_of_mem _ hp, hx⟩

theorem intercalate_cons (sep part : List α) (parts : List (List α)) :
    sep.intercalate (part :: parts) = part ++ parts.flatMap (sep ++ ·) := by
  induction parts generalizing part with
  | nil => simp
  | cons next parts ih =>
    rw [List.intercalate_cons_cons, ih, List.flatMap_cons, List.append_assoc, List.append_assoc]

theorem flatMap_ne_nil {f : α → List β} {as : List α} (hne : as ≠ []) (h : ∀ a ∈ as, f a ≠ []) :
    as.flatMap f ≠ [] := by
  obtain ⟨a, ha⟩ := List.exists_mem_of_ne_nil _ hne
  intro hnil
  exact h a ha (List.flatMap_eq_nil_iff.mp hnil a ha)

theorem intercalate_flatMap {f : α → List String} {sep : String} {as : List α}
    (h : ∀ a ∈ as, f a ≠ []) :
    sep.intercalate (as.map fun a => sep.intercalate (f a)) = sep.intercalate (as.flatMap f) := by
  induction as with
  | nil => rfl
  | cons a as ih =>
    have ha := h a List.mem_cons_self
    rw [List.map_cons, List.flatMap_cons]
    cases as with
    | nil => simp
    | cons b bs =>
      have hbs : (b :: bs).flatMap f ≠ [] :=
        flatMap_ne_nil (List.cons_ne_nil b bs) fun c hc => h c (List.mem_cons_of_mem _ hc)
      rw [String.intercalate_cons_of_ne_nil (by simp),
        ih fun c hc => h c (List.mem_cons_of_mem _ hc),
        String.intercalate_append_of_ne_nil ha hbs]

end FilterSql.Text
