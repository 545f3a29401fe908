import FilterSql.Proofs.Query.FilterErrors
import FilterSql.Proofs.Query.Refusal

/-!
# Whose fault an error is

No error of a compilation is one of the backend's: whoever is refused is told so as the one at
fault.
-/

namespace FilterSql.Query

theorem Malformed.isValidation (h : Malformed e) : e.isValidation = true := by
  cases h <;> rfl

/-- A filter that cannot be read is the fault of the request. -/
theorem Filter.validates_terms (filter : Json) :
    FailsOnly (·.isValidation = true) (terms filter) := by
  have checked (count : Nat) : FailsOnly (·.isValidation = true) (checkCount count) := by
    unfold checkCount
    split
    · exact .error rfl
    · exact .ok _
  have counted (ts : List Term) :
      FailsOnly (·.isValidation = true) (checkCount ts.length >>= fun _ => pure ts) :=
    .bind (checked _) fun _ => .ok ts
  unfold terms
  split
  · refine .bind (checked _) fun _ => .bind ?_ counted
    exact (failsOnly_ofArray _).mono fun _ => Malformed.isValidation
  · refine .bind (checked _) fun _ => .bind ?_ counted
    exact (failsOnly_ofMembers _).mono fun _ => Malformed.isValidation
  · exact counted []

theorem Term.Fault.isValidation {t : Term} (h : t.Fault e) : e.isValidation = true := by
  obtain ⟨operand, -, fault⟩ := h
  cases fault <;> rfl

theorem isValidation_of_fault (h : Fault catalog r stage e) : e.isValidation = true := by
  cases h with
  | recordType blank => rfl
  | filter malformed => exact Filter.validates_terms _ _ malformed
  | catalog named unknown => rfl
  | fields named bad =>
    obtain ⟨name, -, -, rfl⟩ := bad.exists_fault
    rfl
  | orderBy named nonblank bad =>
    obtain ⟨-, rfl⟩ := bad
    rfl
  | terms concerns bad =>
    obtain ⟨t, -, fault⟩ := bad.exists_fault
    exact fault.isValidation

theorem isValidation_of_compile (built : catalog.Built)
    (h : compile catalog config r = .error f) : ∃ e, f = .refused e ∧ e.isValidation = true := by
  obtain ⟨e, rfl, first⟩ := (compile_eq_error built).mp h
  obtain ⟨stage, -, fault⟩ := first.exists_fault
  exact ⟨e, rfl, isValidation_of_fault fault⟩

end FilterSql.Query
