import FilterSql.Proofs.Query.OperatorToken
import FilterSql.Proofs.Service.QueryAnswer

/-!
# The operators that a service lists

`Term.operatorOf_iff_namedBy`: the capabilities of a service list the names and the symbols by which
filters name their operators, and nothing else names one.
-/

namespace FilterSql.Query.Term

open Text Service Operator

/-- A token is accepted as an operator exactly if it names it, and no token names two. One that
names none is told back without the white space around it, as is every one that has a character
beyond ASCII. A service lists all names and the six symbols, which are tokens of the operators for
which it lists them. -/
theorem operatorOf_iff_namedBy {σ : Type} (s : Service σ) (token : String) :
    (∀ op, operatorOf (some (.string token)) = .ok op ↔ NamedBy (trim token) op) ∧
    (∀ a b, NamedBy (trim token) a → NamedBy (trim token) b → a = b) ∧
    (∀ e, operatorOf (some (.string token)) = .error e ↔
      (∀ op, ¬ NamedBy (trim token) op) ∧ e = .unsupportedOperator (trim token)) ∧
    (∀ c ∈ (trim token).toList, 0x80 ≤ c.toNat →
      operatorOf (some (.string token)) = .error (.unsupportedOperator (trim token))) ∧
    ∃ (names : List String) (listed : List (String × String)),
      (capabilities s).member? "operators" = some (.array (names.map .string)) ∧
      (capabilities s).member? "operatorSymbols" =
        some (.object (listed.map fun l => (l.1, .string l.2))) ∧
      (∀ op : Operator, op.name ∈ names) ∧
      (∀ name ∈ names, ∃ op, op.name = name ∧ operatorOf (some (.string name)) = .ok op) ∧
      (∀ word name, (word, name) ∈ listed ↔ ∃ op, Symbol word op ∧ op.name = name) ∧
      ∀ l ∈ listed, ∃ op, op.name = l.2 ∧ operatorOf (some (.string l.1)) = .ok op := by
  have symbols_iff (word name : String) : (word, name) ∈ symbols.map (fun l => (l.1, l.2.name)) ↔
      ∃ op, Symbol word op ∧ op.name = name := by
    simp [← mem_symbols_iff]
  refine ⟨fun op => operatorOf_eq_ok_iff, fun a b => NamedBy.unique,
    fun e => operatorOf_eq_error_iff, fun c hc beyond => ?_, ?_⟩
  · exact operatorOf_eq_error_iff.mpr ⟨not_namedBy_of_beyond hc beyond, rfl⟩
  · refine ⟨all.map Operator.name, symbols.map fun l => (l.1, l.2.name), ?_, ?_, ?_, ?_,
      symbols_iff, ?_⟩
    · rw [List.map_map]
      rfl
    · rw [List.map_map]
      rfl
    · exact fun op => List.mem_map_of_mem (mem_all op)
    · intro name hname
      obtain ⟨op, -, rfl⟩ := List.mem_map.mp hname
      exact ⟨op, rfl, operatorOf_eq_ok_iff.mpr (namedBy_name op)⟩
    · rintro ⟨word, name⟩ hl
      obtain ⟨op, short, rfl⟩ := (symbols_iff word name).mp hl
      exact ⟨op, rfl, operatorOf_eq_ok_iff.mpr short.namedBy⟩

/-- All symbols and names, some of them between blanks or in capitals, and two words that name
nothing. A dotted capital I is lowered to two characters, of which the second is beyond ASCII. -/
theorem operatorOf_iff_namedBy_tokens :
    List.Forall₂ (fun token op => operatorOf (some (.string token)) = .ok op)
      ["=", "!=", " > ", "<", ">=\t", "\n<="]
      [.equals, .notEquals, .greaterThan, .lessThan, .greaterThanOrEqual, .lessThanOrEqual] ∧
    List.Forall₂ (fun token op => operatorOf (some (.string token)) = .ok op)
      ["equals", "not_equals", "greater_than", "less_than", "greater_than_or_equal",
        "less_than_or_equal", "Contains", "STARTS_WITH", "ends_with", " not_contains", "IN", "Not_In ",
        "is_null", "is_not_null", "date_range", "date_equals", "date_before", "DATE_AFTER", "is_true",
        "is_false"]
      [.equals, .notEquals, .greaterThan, .lessThan, .greaterThanOrEqual, .lessThanOrEqual,
        .contains, .startsWith, .endsWith, .notContains, .isIn, .notIn, .isNull, .isNotNull,
        .dateRange, .dateEquals, .dateBefore, .dateAfter, .isTrue, .isFalse] ∧
    operatorOf (some (.string " == ")) = .error (.unsupportedOperator "==") ∧
    operatorOf (some (.string "not_İn")) = .error (.unsupportedOperator "not_İn") := by
  have accepted {token word : String} {op : Operator} (stripped : trim token = word)
      (named : NamedBy word op) : operatorOf (some (.string token)) = .ok op :=
    ((operatorOf_iff_namedBy (ofRows { total := 0 }) token).1 op).mpr (stripped ▸ named)
  have refused (token word : String) (stripped : trim token = word)
      (nameless : ∀ op, ¬ NamedBy word op) :
      operatorOf (some (.string token)) = .error (.unsupportedOperator word) := by
    subst stripped
    exact ((operatorOf_iff_namedBy (ofRows { total := 0 }) token).2.2.1 _).mpr ⟨nameless, rfl⟩
  refine ⟨?_, ?_, refused _ "==" (by decide) ?_, refused _ "not_İn" (by decide) ?_⟩
  · exact .cons (accepted (by decide) (.symbol .equals)) <|
      .cons (accepted (by decide) (.symbol .notEquals)) <|
      .cons (accepted (by decide) (.symbol .greaterThan)) <|
      .cons (accepted (by decide) (.symbol .lessThan)) <|
      .cons (accepted (by decide) (.symbol .greaterThanOrEqual)) <|
      .cons (accepted (by decide) (.symbol .lessThanOrEqual)) .nil
  · simp only [List.forall₂_cons, List.forall₂_nil_left_iff, and_true]
    refine ⟨?_, ?_, ?_, ?_, ?_, ?_, ?_, ?_, ?_, ?_, ?_, ?_, ?_, ?_, ?_, ?_, ?_, ?_, ?_, ?_⟩
    all_goals exact accepted rfl (.name (by decide))
  · rintro op (short | spelled)
    · have listed := mem_symbols_iff.mpr short
      simp [symbols] at listed
    · cases op <;> exact absurd spelled (by decide)
  · exact fun op => not_namedBy_of_beyond (c := 'İ') (by decide) (by decide) op

end FilterSql.Query.Term
