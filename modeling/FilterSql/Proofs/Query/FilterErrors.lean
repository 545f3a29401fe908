import FilterSql.Proofs.FirstFault
import FilterSql.Query.Filter

/-!
# Errors of filters

What a filter that is not too large is refused for: the name of a field, an operator, or a list of
values. None of the functions that read a filter has another error.
-/

namespace FilterSql.Query

/-- The name of a field, an operator or an operand is not what it has to be. -/
inductive Malformed : QueryError → Prop
  | name : Malformed (.unsafeIdentifier .fieldName name)
  | operator : Malformed (.unsupportedOperator token)
  | operand : Malformed (.missingOperand op operand)

theorem Malformed.of_list (op : Operator) :
    ∀ e, e = .missingOperand op .scalarList → Malformed e := by
  rintro _ rfl
  exact .operand

theorem failsOnly_fieldIdentifier (name : String) :
    FailsOnly Malformed (fieldIdentifier name) := by
  unfold fieldIdentifier Identifier.check
  split
  · exact .ok _
  · exact .error .name

theorem failsOnly_scalarList (op : Operator) (items : List Json) :
    FailsOnly (· = .missingOperand op .scalarList) (scalarList op items) := by
  refine .mapM (fun item => ?_) items
  split
  · exact .ok _
  · exact .error rfl

namespace Term

theorem failsOnly_operatorOf (token : Option Json) : FailsOnly Malformed (operatorOf token) := by
  unfold operatorOf
  split
  · split
    · exact .ok _
    · exact .error .operator
  · exact .error .operator
  · exact .error .operator

theorem failsOnly_listOperand (op : Operator) (value values : Option Json) :
    FailsOnly (· = .missingOperand op .scalarList) (listOperand op value values) := by
  unfold listOperand listInValue
  refine .bind ?_ fun instead => ?_
  · split
    · split
      · exact (failsOnly_scalarList op _).map _
      · exact .ok _
    · exact .ok _
  · split
    · exact (failsOnly_scalarList op _).map _
    · exact .ok _
    · exact .ok _
    · exact .error rfl

theorem failsOnly_ofSpec (field : String) (spec : Json.Members) :
    FailsOnly Malformed (ofSpec field spec) := by
  unfold ofSpec
  refine .bind (failsOnly_fieldIdentifier _) fun _ => ?_
  refine .bind (failsOnly_operatorOf _) fun _ => ?_
  exact .bind ((failsOnly_listOperand _ _ _).mono (Malformed.of_list _)) fun _ => .ok _

end Term

namespace Filter

theorem failsOnly_fieldItem (item : Json) : FailsOnly Malformed (fieldItem item) := by
  unfold fieldItem
  split
  · exact (Term.failsOnly_ofSpec _ _).map _
  · exact .ok _

theorem failsOnly_keyedItem (item : Json) : FailsOnly Malformed (keyedItem item) := by
  unfold keyedItem keyedTerm?
  split
  · split
    · exact (Term.failsOnly_ofSpec _ _).map _
    · exact .ok _
  · exact .ok _

theorem failsOnly_fieldNameItem (item : Json) : FailsOnly Malformed (fieldNameItem item) := by
  unfold fieldNameItem
  split
  · exact (Term.failsOnly_ofSpec _ _).map _
  · exact .error .name

theorem failsOnly_ofArray (items : List Json) : FailsOnly Malformed (ofArray items) := by
  unfold ofArray
  refine .bind (.mapM (fun item => ?_) items) fun _ => .ok _
  split
  · exact failsOnly_fieldItem item
  · split
    · exact failsOnly_keyedItem item
    · exact failsOnly_fieldNameItem item

theorem failsOnly_plainTerm (key : String) (value : Json) :
    FailsOnly Malformed (plainTerm key value) := by
  unfold plainTerm
  split
  · split
    · exact Term.failsOnly_ofSpec _ _
    · exact .bind (failsOnly_fieldIdentifier _) fun _ => .ok _
  · refine .bind (failsOnly_fieldIdentifier _) fun _ => ?_
    exact .bind ((failsOnly_scalarList _ _).mono (Malformed.of_list _)) fun _ => .ok _
  · exact .bind (failsOnly_fieldIdentifier _) fun _ => .ok _

theorem failsOnly_ofMembers (members : Json.Members) : FailsOnly Malformed (ofMembers members) := by
  unfold ofMembers
  refine .bind (.mapM (fun m => ?_) _) fun _ => .bind (.mapM (fun r => ?_) _) fun _ => .ok _
  · cases m with
    | plain key value => exact (failsOnly_plainTerm key value).map _
    | bound => exact .ok _
  · exact .bind (failsOnly_fieldIdentifier _) fun _ => .ok _

end Filter

end FilterSql.Query
