import FilterSql.Proofs.Query.FilterErrors
import FilterSql.Proofs.Query.Identifier
import FilterSql.Proofs.Query.OperatorToken

/-!
# Terms as records

What the members of a record mean for the term that it asks for. `Term.ofSpec_eq_ok_iff`: the term
has the field and the operator that are named, the scalar under `value`, the list under `values` or
under `value`, and the dates under the first of their keys. `Term.ofSpec_eq_error_iff`: a record is
refused for the name of its field before its operator, and for its operator before its list.
-/

namespace FilterSql.Query

open Text

def ScalarsOf (items : List Json) (vs : List Scalar) : Prop :=
  List.Forall₂ (fun item v => Scalar.ofJson? item = some v) items vs

/-- The date of a string, or of the text of a number. -/
inductive DateOf : Json → String → Prop
  | text (h : normalizeDate? s = some date) : DateOf (.string s) date
  | number (h : normalizeDate? n.text = some date) : DateOf (.number n) date

/-- The first of the keys that is there has the date. -/
inductive FirstDate (spec : Json.Members) : List String → String → Prop
  | here (found : spec.get? key = some j) (h : DateOf j date) : FirstDate spec (key :: keys) date
  | later (absent : spec.get? key = none) (rest : FirstDate spec keys date) :
      FirstDate spec (key :: keys) date

namespace Term

/-- The list under `value`, which `in` and `not_in` take from there. -/
inductive ListInValue (op : Operator) (value : Option Json) : Option (List Scalar) → Prop
  | found (takes : op = .isIn ∨ op = .notIn) (h : value = some (.array items))
      (scalars : ScalarsOf items vs) : ListInValue op value (some vs)
  | other (h : op = .isIn ∨ op = .notIn → ∀ items, value ≠ some (.array items)) :
      ListInValue op value none

/-- The list of a term: the one under `values`, or the one under `value` if there is no other. -/
inductive ListOf (op : Operator) (value values : Option Json) : Option (List Scalar) → Prop
  | given (h : values = some (.array items)) (scalars : ScalarsOf items vs)
      (fine : ListInValue op value vs?) : ListOf op value values (some vs)
  | absent (h : values = none ∨ values = some .null) (instead : ListInValue op value vs?) :
      ListOf op value values vs?

/-- What a record says of a term. -/
structure ReadOff (field : String) (spec : Json.Members) (t : Term) : Prop where
  field : t.field.text = trim field
  operator : ∃ token, spec.get? "operator" = some (.string token) ∧
    Operator.NamedBy (trim token) t.op
  value : ∀ v, t.value = some v ↔ ∃ j, spec.get? "value" = some j ∧ Scalar.ofJson? j = some v
  values : ListOf t.op (spec.get? "value") (spec.get? "values") t.values
  startDate : ∀ date, t.startDate = some date ↔
    FirstDate spec ["startdate", "startDate", "start_date"] date
  endDate : ∀ date, t.endDate = some date ↔
    FirstDate spec ["enddate", "endDate", "end_date"] date

inductive OperatorFault : Option Json → QueryError → Prop
  | missing : OperatorFault none (.unsupportedOperator "")
  | word (h : ∀ op, ¬ Operator.NamedBy (trim token) op) :
      OperatorFault (some (.string token)) (.unsupportedOperator (trim token))
  | noText (h : j.string? = none) : OperatorFault (some j) (.unsupportedOperator j.render)

inductive RecordFault (field : String) (spec : Json.Members) : QueryError → Prop
  | field (bad : isSafeIdentifier (trim field) = false) :
      RecordFault field spec (.unsafeIdentifier .fieldName (trim field))
  | operator (safe : isSafeIdentifier (trim field) = true)
      (bad : OperatorFault (spec.get? "operator") e) : RecordFault field spec e
  | list {op : Operator} (safe : isSafeIdentifier (trim field) = true)
      (operator : spec.get? "operator" = some (.string token))
      (named : Operator.NamedBy (trim token) op)
      (bad : ∀ vs?, ¬ ListOf op (spec.get? "value") (spec.get? "values") vs?) :
      RecordFault field spec (.missingOperand op .scalarList)

-- ---------------------------------------------------------------------------
-- Operators
-- ---------------------------------------------------------------------------

variable {field token : String} {op : Operator} {value values : Option Json}

theorem operatorOf_eq_ok {named : Option Json} : operatorOf named = .ok op ↔
    ∃ token, named = some (.string token) ∧ Operator.NamedBy (trim token) op := by
  constructor
  · intro h
    match named, h with
    | some (.string token), h => exact ⟨token, rfl, operatorOf_eq_ok_iff.mp h⟩
  · rintro ⟨token, rfl, h⟩
    exact operatorOf_eq_ok_iff.mpr h

theorem operatorOf_eq_error {named : Option Json} :
    operatorOf named = .error e ↔ OperatorFault named e := by
  constructor
  · intro h
    match named, h with
    | none, rfl => exact .missing
    | some (.string token), h =>
      obtain ⟨nameless, rfl⟩ := operatorOf_eq_error_iff.mp h
      exact .word nameless
    | some .null, rfl | some (.bool _), rfl | some (.number _), rfl | some (.array _), rfl
    | some (.object _), rfl => exact .noText rfl
  · rintro (_ | h | h)
    · rfl
    · exact operatorOf_eq_error_iff.mpr ⟨h, rfl⟩
    · rename_i j
      cases j with
      | string token => cases h
      | _ => rfl

theorem OperatorFault.exists_eq {named : Option Json} (h : OperatorFault named e) :
    ∃ told, e = .unsupportedOperator told := by
  cases h <;> exact ⟨_, rfl⟩

-- ---------------------------------------------------------------------------
-- Lists
-- ---------------------------------------------------------------------------

theorem scalarList_eq_ok {items : List Json} {vs : List Scalar} :
    scalarList op items = .ok vs ↔ ScalarsOf items vs := by
  rw [scalarList, mapM_eq_ok, ScalarsOf, iff_iff_eq]
  congr 1
  funext item v
  cases Scalar.ofJson? item <;> simp

theorem takesList_iff : op.takesList = true ↔ op = .isIn ∨ op = .notIn := by
  cases op <;> decide

theorem listInValue_eq_ok {vs? : Option (List Scalar)} :
    listInValue op value = .ok vs? ↔ ListInValue op value vs? := by
  unfold listInValue
  split
  next items =>
    split
    next takes =>
      rw [map_eq_ok]
      constructor
      · rintro ⟨vs, h, rfl⟩
        exact .found (takesList_iff.mp takes) rfl (scalarList_eq_ok.mp h)
      · rintro (⟨-, found, scalars⟩ | none)
        · cases found
          exact ⟨_, scalarList_eq_ok.mpr scalars, rfl⟩
        · exact absurd rfl (none (takesList_iff.mp takes) items)
    next other =>
      constructor
      · rintro ⟨⟩
        exact .other fun takes => absurd (takesList_iff.mpr takes) other
      · rintro (⟨takes, -, -⟩ | -)
        · exact absurd (takesList_iff.mpr takes) other
        · rfl
  next noList =>
    constructor
    · rintro ⟨⟩
      exact .other fun _ => noList
    · rintro (⟨-, found, -⟩ | -)
      · exact absurd found (noList _)
      · rfl

theorem listOperand_eq_ok {vs? : Option (List Scalar)} :
    listOperand op value values = .ok vs? ↔ ListOf op value values vs? := by
  unfold listOperand
  simp only [bind_eq_ok, listInValue_eq_ok]
  constructor
  · rintro ⟨instead, hinstead, h⟩
    split at h
    · obtain ⟨vs, hvs, rfl⟩ := map_eq_ok.mp h
      exact .given rfl (scalarList_eq_ok.mp hvs) hinstead
    · cases h
      exact .absent (.inr rfl) hinstead
    · cases h
      exact .absent (.inl rfl) hinstead
    · cases h
  · rintro (⟨rfl, scalars, fine⟩ | ⟨rfl | rfl, instead⟩)
    · exact ⟨_, fine, map_eq_ok.mpr ⟨_, scalarList_eq_ok.mpr scalars, rfl⟩⟩
    · exact ⟨_, instead, rfl⟩
    · exact ⟨_, instead, rfl⟩

theorem listOperand_eq_error : listOperand op value values = .error e ↔
    (∀ vs?, ¬ ListOf op value values vs?) ∧ e = .missingOperand op .scalarList := by
  simp only [← listOperand_eq_ok]
  constructor
  · intro h
    refine ⟨fun vs? found => ?_, failsOnly_listOperand op value values e h⟩
    rw [h] at found
    cases found
  · rintro ⟨none, rfl⟩
    cases h : listOperand op value values with
    | ok vs? => exact absurd h (none vs?)
    | error e => rw [failsOnly_listOperand op value values e h]

-- ---------------------------------------------------------------------------
-- Dates
-- ---------------------------------------------------------------------------

theorem dateText?_eq_some_iff {j : Json} : dateText? j = some date ↔ DateOf j date := by
  constructor
  · intro h
    cases j with
    | string s => exact .text h
    | number n => exact .number h
    | _ => cases h
  · rintro (h | h) <;> exact h

theorem dateUnder_eq_some_iff {spec : Json.Members} {keys : List String} :
    dateUnder spec keys = some date ↔ FirstDate spec keys date := by
  induction keys with
  | nil => exact iff_of_false nofun nofun
  | cons key keys ih =>
    unfold dateUnder at ih ⊢
    rw [List.findSome?_cons]
    cases found : spec.get? key with
    | some j =>
      rw [Option.bind_some, dateText?_eq_some_iff]
      constructor
      · exact .here found
      · rintro (⟨other, h⟩ | ⟨absent, -⟩)
        · cases found.symm.trans other
          exact h
        · cases found.symm.trans absent
    | none =>
      rw [ih]
      constructor
      · exact .later found
      · rintro (⟨other, -⟩ | ⟨-, rest⟩)
        · cases found.symm.trans other
        · exact rest

-- ---------------------------------------------------------------------------
-- Records
-- ---------------------------------------------------------------------------

theorem ofSpec_eq_ok_iff {spec : Json.Members} {t : Term} :
    ofSpec field spec = .ok t ↔ ReadOff field spec t := by
  simp only [ofSpec, bind_eq_ok, pure_eq_ok]
  constructor
  · rintro ⟨name, hname, op, hop, vs?, hvs, rfl⟩
    exact {
      field := Identifier.check_eq_ok.mp hname
      operator := operatorOf_eq_ok.mp hop
      value := fun v => Option.bind_eq_some_iff
      values := listOperand_eq_ok.mp hvs
      startDate := fun date => dateUnder_eq_some_iff
      endDate := fun date => dateUnder_eq_some_iff }
  · intro h
    refine ⟨t.field, Identifier.check_eq_ok.mpr h.field, t.op, operatorOf_eq_ok.mpr h.operator,
      t.values, listOperand_eq_ok.mpr h.values, ?_⟩
    have value : (spec.get? "value").bind Scalar.ofJson? = t.value :=
      Option.ext fun v => Option.bind_eq_some_iff.trans (h.value v).symm
    have startDate : dateUnder spec ["startdate", "startDate", "start_date"] = t.startDate :=
      Option.ext fun date => dateUnder_eq_some_iff.trans (h.startDate date).symm
    have endDate : dateUnder spec ["enddate", "endDate", "end_date"] = t.endDate :=
      Option.ext fun date => dateUnder_eq_some_iff.trans (h.endDate date).symm
    rw [value, startDate, endDate]

theorem ofSpec_eq_error_iff {spec : Json.Members} :
    ofSpec field spec = .error e ↔ RecordFault field spec e := by
  unfold ofSpec
  rw [bind_eq_error]
  constructor
  · rintro (h | ⟨name, hname, h⟩)
    · obtain ⟨bad, rfl⟩ := Identifier.check_eq_error.mp h
      exact .field bad
    · have safe := (Identifier.check_eq_ok.mp hname) ▸ name.safe
      rcases bind_eq_error.mp h with h | ⟨op, hop, h⟩
      · exact .operator safe (operatorOf_eq_error.mp h)
      · obtain ⟨token, operator, named⟩ := operatorOf_eq_ok.mp hop
        rcases bind_eq_error.mp h with h | ⟨_, _, h⟩
        · obtain ⟨bad, rfl⟩ := listOperand_eq_error.mp h
          exact .list safe operator named bad
        · cases h
  · rintro (bad | ⟨safe, bad⟩ | ⟨safe, operator, named, bad⟩)
    · exact .inl (Identifier.check_eq_error.mpr ⟨bad, rfl⟩)
    · exact .inr ⟨⟨trim field, safe⟩, Identifier.check_eq_ok.mpr rfl,
        bind_eq_error.mpr (.inl (operatorOf_eq_error.mpr bad))⟩
    · refine .inr ⟨⟨trim field, safe⟩, Identifier.check_eq_ok.mpr rfl, bind_eq_error.mpr (.inr ?_)⟩
      refine ⟨_, operatorOf_eq_ok.mpr ⟨_, operator, named⟩, bind_eq_error.mpr (.inl ?_)⟩
      exact listOperand_eq_error.mpr ⟨bad, rfl⟩

end Term

end FilterSql.Query
