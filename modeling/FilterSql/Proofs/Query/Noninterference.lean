import FilterSql.Proofs.Query.TwoRuns

/-!
# Values do not influence the text

The shape of a term is what is left of it when its values are hidden: which operands there are, how
many, and whether a text denotes a day. `compile_noninterference`: two requests whose filters have
terms of the same shapes compile to the same SQL text with equally many parameters, or fail in the
same way. This holds of every catalog, whether its names are safe or not.
-/

namespace FilterSql.Query

inductive OperandShape where
  | absent
  /-- A text that denotes a day. -/
  | day
  | other
  deriving DecidableEq, Repr

def OperandShape.of : Option Scalar → OperandShape
  | none => absent
  | some v => if (Term.window? v).isSome then day else other

/-- What is to be seen of a term. -/
structure Term.Shape where
  field : Identifier
  op : Operator
  value : OperandShape
  /-- The number of listed values. -/
  values : Option Nat
  startDate : OperandShape
  endDate : OperandShape
  deriving DecidableEq

def Term.shape (t : Term) : Term.Shape where
  field := t.field
  op := t.op
  value := .of t.value
  values := t.values.map List.length
  startDate := .of (t.startDate.map .text)
  endDate := .of (t.endDate.map .text)

def QueryError.SameKind (e e' : QueryError) : Prop := e.code = e'.code

def CompileFailure.SameKind : CompileFailure → CompileFailure → Prop
  | refused e, refused e' => e.SameKind e'
  | unbalanced _, unbalanced _ => True
  | _, _ => False

/-- Fragments that differ in the values of their parameters only. -/
structure Fragment.Alike (f g : Fragment) : Prop where
  sql : f.sql = g.sql
  count : f.params.length = g.params.length

namespace Fragment.Alike

theorem refl (f : Fragment) : f.Alike f := ⟨rfl, rfl⟩

theorem balanced_iff {f g : Fragment} (h : f.Alike g) : f.Balanced ↔ g.Balanced := by
  unfold Balanced
  rw [h.sql, h.count]

theorem conjunction (h : List.Forall₂ Alike fs gs) :
    (Fragment.conjunction fs).Alike (Fragment.conjunction gs) := by
  have texts : fs.map Fragment.sql = gs.map Fragment.sql := by
    rw [← List.forall₂_eq_eq_eq, List.forall₂_map_left_iff, List.forall₂_map_right_iff]
    exact h.imp fun _ _ => Alike.sql
  have counts : fs.map (·.params.length) = gs.map (·.params.length) := by
    rw [← List.forall₂_eq_eq_eq, List.forall₂_map_left_iff, List.forall₂_map_right_iff]
    exact h.imp fun _ _ => Alike.count
  refine ⟨congrArg (" AND ".intercalate ·) texts, ?_⟩
  show (fs.flatMap params).length = (gs.flatMap params).length
  rw [List.length_flatMap, List.length_flatMap, counts]

end Fragment.Alike

-- ---------------------------------------------------------------------------
-- Operands
-- ---------------------------------------------------------------------------

theorem OperandShape.of_eq {v w : Option Scalar} (h : of v = of w) :
    (v = none ∧ w = none) ∨ ∃ a b, v = some a ∧ w = some b ∧ of (some a) = of (some b) := by
  have present (v : Scalar) : of (some v) ≠ absent := by
    simp only [of]
    split <;> exact OperandShape.noConfusion
  cases v with
  | none =>
    cases w with
    | none => exact .inl ⟨rfl, rfl⟩
    | some b => exact absurd h.symm (present b)
  | some a =>
    cases w with
    | none => exact absurd h (present a)
    | some b => exact .inr ⟨a, b, rfl, rfl, h⟩

theorem OperandShape.isSome_window? {v w : Scalar} (h : of (some v) = of (some w)) :
    (Term.window? v).isSome = (Term.window? w).isSome := by
  simp only [of] at h
  cases hv : (Term.window? v).isSome with
  | false =>
    cases hw : (Term.window? w).isSome with
    | false => rfl
    | true => simp [hv, hw] at h
  | true =>
    cases hw : (Term.window? w).isSome with
    | false => simp [hv, hw] at h
    | true => rfl

namespace Term

theorem scalarOperand_agree {t u : Term} (h : t.shape = u.shape) :
    Agree QueryError.SameKind (fun v w => OperandShape.of (some v) = OperandShape.of (some w))
      (scalarOperand t) (scalarOperand u) := by
  unfold scalarOperand
  rcases OperandShape.of_eq (congrArg Shape.value h) with ⟨ht, hu⟩ | ⟨v, w, ht, hu, hvalue⟩
  · rw [ht, hu]
    exact .error rfl
  · rw [ht, hu]
    exact .ok hvalue

theorem requiredDay_agree {o o' : Operator} {v w : Scalar}
    (h : OperandShape.of (some v) = OperandShape.of (some w)) :
    Agree QueryError.SameKind (fun _ _ => True) (requiredDay o v) (requiredDay o' w) := by
  have hsome := OperandShape.isSome_window? h
  unfold requiredDay
  cases hv : window? v <;> cases hw : window? w
  · exact .error rfl
  · simp [hv, hw] at hsome
  · simp [hv, hw] at hsome
  · exact .ok trivial

theorem dayOperand_agree {t u : Term} (h : t.shape = u.shape) :
    Agree QueryError.SameKind (fun _ _ => True) (dayOperand t) (dayOperand u) := by
  unfold dayOperand
  rcases OperandShape.of_eq (congrArg Shape.value h) with ⟨ht, hu⟩ | ⟨v, w, ht, hu, hvalue⟩
  · rw [ht, hu]
    exact .error rfl
  · rw [ht, hu]
    exact requiredDay_agree hvalue

theorem listOfValues_agree {t u : Term} (h : t.shape = u.shape) :
    Agree QueryError.SameKind (fun vs ws => vs.length = ws.length) (listOfValues t)
      (listOfValues u) := by
  have hcount : t.values.map List.length = u.values.map List.length := congrArg Shape.values h
  unfold listOfValues
  cases ht : t.values with
  | none =>
    rw [ht] at hcount
    rw [Option.map_eq_none_iff.mp hcount.symm]
    exact .error rfl
  | some vs =>
    rw [ht] at hcount
    obtain ⟨ws, hws, hlength⟩ := Option.map_eq_some_iff.mp hcount.symm
    rw [hws]
    cases vs <;> cases ws <;> simp at hlength
    · exact .error rfl
    · exact .ok (by simp [hlength])

-- ---------------------------------------------------------------------------
-- Conditions
-- ---------------------------------------------------------------------------

theorem compareDay_alike (d : Dialect) (c : Column) (w w' : DayWindow) (cmp : Comparison) :
    ((compareDay c w cmp).fragment d).Alike ((compareDay c w' cmp).fragment d) := by
  cases cmp <;> exact ⟨rfl, rfl⟩

theorem compareValue_alike (config : Config) (c : Column) (cmp : Comparison)
    (h : OperandShape.of (some v) = OperandShape.of (some w)) (d : Dialect) :
    ((compareValue config.dateAware c cmp v).fragment d).Alike
      ((compareValue config.dateAware c cmp w).fragment d) := by
  have hsome : (comparedDay? config v).isSome = (comparedDay? config w).isSome := by
    unfold comparedDay?
    split
    · exact OperandShape.isSome_window? h
    · rfl
  rw [compareValue_eq, compareValue_eq]
  cases hv : comparedDay? config v <;> cases hw : comparedDay? config w
  · exact ⟨rfl, rfl⟩
  · simp [hv, hw] at hsome
  · simp [hv, hw] at hsome
  · exact compareDay_alike d c _ _ cmp

theorem dateRange_agree {t u : Term} (h : t.shape = u.shape) (c : Column) (d : Dialect) :
    Agree QueryError.SameKind (fun a b => (Condition.fragment d a).Alike (Condition.fragment d b))
      (dateRange t c) (dateRange u c) := by
  have bounds {v w : Option String}
      (h : OperandShape.of (v.map .text) = OperandShape.of (w.map .text)) :
      (v = none ∧ w = none) ∨ ∃ a b, v = some a ∧ w = some b ∧
        OperandShape.of (some (.text a)) = OperandShape.of (some (.text b)) := by
    rcases OperandShape.of_eq h with ⟨hv, hw⟩ | ⟨_, _, hv, hw, hday⟩
    · exact .inl ⟨Option.map_eq_none_iff.mp hv, Option.map_eq_none_iff.mp hw⟩
    · obtain ⟨a, ha, rfl⟩ := Option.map_eq_some_iff.mp hv
      obtain ⟨b, hb, rfl⟩ := Option.map_eq_some_iff.mp hw
      exact .inr ⟨a, b, ha, hb, hday⟩
  unfold dateRange
  rcases bounds (congrArg Shape.startDate h) with ⟨ht, hu⟩ | ⟨a, b, ht, hu, hstart⟩
  · rw [ht, hu]
    exact .error rfl
  · rcases bounds (congrArg Shape.endDate h) with ⟨ht', hu'⟩ | ⟨a', b', ht', hu', hend⟩
    · rw [ht, hu, ht', hu']
      exact .error rfl
    · rw [ht, hu, ht', hu']
      exact (requiredDay_agree hstart).bind fun _ _ _ =>
        (requiredDay_agree hend).bind fun _ _ _ => .ok ⟨rfl, rfl⟩

theorem condition_agree {t u : Term} (h : t.shape = u.shape) (config : Config) (a : String)
    (d : Dialect) :
    Agree QueryError.SameKind (fun c c' => (Condition.fragment d c).Alike (Condition.fragment d c'))
      (t.condition config a) (u.condition config a) := by
  have hfield : t.field = u.field := congrArg Shape.field h
  have hop : t.op = u.op := congrArg Shape.op h
  rw [condition_eq, condition_eq, hfield, hop]
  cases u.op.kind with
  | comparison cmp =>
    exact (scalarOperand_agree h).map fun v w hvw => compareValue_alike config _ cmp hvw d
  | text place negated => exact (scalarOperand_agree h).map fun v w _ => ⟨rfl, rfl⟩
  | membership negated =>
    refine (listOfValues_agree h).map fun vs ws hlength => ⟨?_, hlength⟩
    simp only [Condition.fragment, hlength]
  | null negated => exact .ok (.refl _)
  | range => exact dateRange_agree h _ d
  | day cmp => exact (dayOperand_agree h).map fun w w' _ => compareDay_alike d _ w w' cmp
  | flag value => exact .ok (.refl _)

end Term

-- ---------------------------------------------------------------------------
-- Whole requests
-- ---------------------------------------------------------------------------

theorem shapes_eq_iff : ts.map Term.shape = us.map Term.shape ↔
    List.Forall₂ (fun t u => Term.shape t = Term.shape u) ts us := by
  rw [← List.forall₂_eq_eq_eq, List.forall₂_map_left_iff, List.forall₂_map_right_iff]

theorem conditions_agree (h : List.Forall₂ (fun t u => Term.shape t = Term.shape u) ts us)
    (config : Config) (a : String) (d : Dialect) :
    Agree QueryError.SameKind
      (List.Forall₂ fun c c' => (Condition.fragment d c).Alike (Condition.fragment d c'))
      (conditions config a ts) (conditions config a us) :=
  .mapM (h.imp fun _ _ ht => Term.condition_agree ht config a d)

theorem forall₂_filter_header (entry : CatalogEntry) (keep : Bool → Bool)
    (h : List.Forall₂ (fun t u => Term.shape t = Term.shape u) ts us) :
    List.Forall₂ (fun t u => Term.shape t = Term.shape u)
      (ts.filter fun t => keep (entry.isHeaderField t.field.text))
      (us.filter fun u => keep (entry.isHeaderField u.field.text)) := by
  refine List.rel_filter (fun t u htu => ?_) h
  have hfield : t.field = u.field := congrArg Term.Shape.field htu
  simp only [hfield]

theorem implicitPredicates_eq (source : TableRef) (entry : CatalogEntry)
    (h : List.Forall₂ (fun t u => Term.shape t = Term.shape u) ts us) :
    implicitPredicates source entry ts = implicitPredicates source entry us := by
  have names (field : String) : namesField ts field = namesField us field := by
    unfold namesField
    induction h with
    | nil => rfl
    | cons htu _ ih =>
      have hfield : Term.field _ = Term.field _ := congrArg Term.Shape.field htu
      rw [List.any_cons, List.any_cons, ih, hfield]
  simp only [implicitPredicates, names]

theorem termPredicates_agree (h : List.Forall₂ (fun t u => Term.shape t = Term.shape u) ts us)
    (config : Config) (source : TableRef) (entry : CatalogEntry) (d : Dialect) :
    Agree QueryError.SameKind
      (List.Forall₂ fun p q => (Predicate.fragment d p).Alike (Predicate.fragment d q))
      (termPredicates config source entry ts) (termPredicates config source entry us) := by
  have plain {cs cs' : List Condition}
      (h : List.Forall₂ (fun c c' => (Condition.fragment d c).Alike (Condition.fragment d c'))
        cs cs') :
      List.Forall₂ (fun p q => (Predicate.fragment d p).Alike (Predicate.fragment d q))
        (cs.map .plain) (cs'.map .plain) :=
    List.forall₂_map_left_iff.mpr (List.forall₂_map_right_iff.mpr h)
  unfold termPredicates
  split
  · exact (conditions_agree h config _ d).bind fun _ _ hcs => .ok (plain hcs)
  · rename_i link _
    have hheader := forall₂_filter_header entry id h
    have hline := forall₂_filter_header entry not h
    have hempty := congrArg (· = 0) hheader.length_eq
    simp only [List.length_eq_zero_iff, ← List.isEmpty_iff] at hempty
    refine (conditions_agree hheader config _ d).bind fun cs cs' hcs =>
      (conditions_agree hline config _ d).bind fun ds ds' hds => ?_
    refine .ok (List.rel_append ?_ (plain hds))
    simp only [id] at hempty
    simp only [hempty]
    split
    · exact .nil
    · have inner := Fragment.Alike.conjunction (List.forall₂_map_left_iff.mpr
        (List.forall₂_map_right_iff.mpr hcs))
      exact .cons ⟨by simp only [Predicate.fragment, inner.sql], inner.count⟩ .nil

theorem predicates_agree (h : List.Forall₂ (fun t u => Term.shape t = Term.shape u) ts us)
    (config : Config) (d : Dialect) :
    PredicatesAgree QueryError.SameKind
      (List.Forall₂ fun p q => (Predicate.fragment d p).Alike (Predicate.fragment d q))
      config config ts us := by
  intro found
  refine (termPredicates_agree h config _ _ d).imp fun ps qs hps => List.rel_append hps ?_
  rw [implicitPredicates_eq _ _ h]
  exact List.forall₂_same.mpr fun _ _ => .refl _

structure Compiled.Alike (d : Dialect) (c c' : Compiled) : Prop where
  select : c.plan.select = c'.plan.select
  source : c.plan.source = c'.plan.source
  order : c.plan.order = c'.plan.order
  direction : c.plan.direction = c'.plan.direction
  predicates : List.Forall₂ (fun p q => (Predicate.fragment d p).Alike (Predicate.fragment d q))
    c.predicates c'.predicates

theorem outline_agree (catalog : Catalog) (config : Config) {r s : Request}
    (hrecord : r.recordType = s.recordType) (hfields : r.fields = s.fields)
    (horderBy : r.orderBy = s.orderBy) (horderDir : r.orderDir = s.orderDir)
    (hts : Filter.terms r.filter = .ok ts) (hus : Filter.terms s.filter = .ok us)
    (h : List.Forall₂ (fun t u => Term.shape t = Term.shape u) ts us) (d : Dialect) :
    Agree QueryError.SameKind (Compiled.Alike d) (outline catalog config r)
      (outline catalog config s) := by
  have filtered : s = { r with filter := s.filter } := by
    cases r
    cases s
    simp_all
  have terms : Agree QueryError.SameKind
      (List.Forall₂ fun t u => Term.shape t = Term.shape u) (Filter.terms r.filter)
      (Filter.terms s.filter) := by
    rw [hts, hus]
    exact .ok h
  have beside := outline_beside (fun e => Eq.refl e.code) catalog r terms fun ts us h =>
    predicates_agree h config d
  rw [filtered]
  exact beside.imp fun c c' b => ⟨(congrArg Plan.select b.plan).symm,
    (congrArg Plan.source b.plan).symm, (congrArg Plan.order b.plan).symm,
    (congrArg Plan.direction b.plan).symm, b.predicates⟩

theorem checkedFragment_agree {p q : Predicate} (h : (p.fragment d).Alike (q.fragment d)) :
    Agree CompileFailure.SameKind Fragment.Alike (checkedFragment d p) (checkedFragment d q) := by
  unfold checkedFragment
  simp only [h.balanced_iff]
  split
  · exact .ok h
  · exact .error trivial

theorem Plan.statement_alike {p q : Plan} (select : p.select = q.select)
    (source : p.source = q.source) (order : p.order = q.order)
    (direction : p.direction = q.direction)
    (filter : List.Forall₂ Fragment.Alike p.filter q.filter) : p.statement.Alike q.statement := by
  have inner := Fragment.Alike.conjunction filter
  have hempty : p.filter.isEmpty = q.filter.isEmpty := by
    rw [Bool.eq_iff_iff, List.isEmpty_iff_length_eq_zero, List.isEmpty_iff_length_eq_zero,
      filter.length_eq]
  refine ⟨?_, inner.count⟩
  simp only [statement, selectFields, whereSql, orderSql, orderExpression, select, source, order,
    direction, hempty, inner.sql]

theorem compile_agree (catalog : Catalog) (config : Config) {r s : Request}
    (hrecord : r.recordType = s.recordType) (hfields : r.fields = s.fields)
    (horderBy : r.orderBy = s.orderBy) (horderDir : r.orderDir = s.orderDir)
    (hts : Filter.terms r.filter = .ok ts) (hus : Filter.terms s.filter = .ok us)
    (h : List.Forall₂ (fun t u => Term.shape t = Term.shape u) ts us) :
    Agree CompileFailure.SameKind (fun c c' => c.statement.Alike c'.statement)
      (compile catalog config r) (compile catalog config s) := by
  have outlines := outline_agree catalog config hrecord hfields horderBy horderDir hts hus h
    config.dialect
  have refusals : Agree CompileFailure.SameKind (Compiled.Alike config.dialect)
      ((outline catalog config r).mapError .refused)
      ((outline catalog config s).mapError .refused) :=
    outlines.mapError fun _ _ he => he
  refine refusals.bind fun c c' hc => ?_
  have filters := Agree.mapM (hc.predicates.imp fun _ _ hp => checkedFragment_agree hp)
  exact filters.bind fun fs gs hfs =>
    .ok (Plan.statement_alike hc.select hc.source hc.order hc.direction hfs)

/-- Operand values do not influence the SQL text. Two requests for the same record type, fields and
order whose filters have terms of the same shapes either both compile, to the same text with equally
many parameters, or both fail with errors of one kind. -/
theorem compile_noninterference (catalog : Catalog) (config : Config) {r s : Request}
    (hrecord : r.recordType = s.recordType) (hfields : r.fields = s.fields)
    (horderBy : r.orderBy = s.orderBy) (horderDir : r.orderDir = s.orderDir)
    (hts : Filter.terms r.filter = .ok ts) (hus : Filter.terms s.filter = .ok us)
    (hshape : ts.map Term.shape = us.map Term.shape) :
    (∃ c c', compile catalog config r = .ok c ∧ compile catalog config s = .ok c' ∧
      c.statement.sql = c'.statement.sql ∧
      c.statement.params.length = c'.statement.params.length) ∨
    ∃ e e', compile catalog config r = .error e ∧ compile catalog config s = .error e' ∧
      e.SameKind e' := by
  have agree := compile_agree catalog config hrecord hfields horderBy horderDir hts hus
    (shapes_eq_iff.mp hshape)
  cases hr : compile catalog config r <;> cases hr' : compile catalog config s <;>
    rw [hr, hr'] at agree <;> cases agree
  case error.error e e' h => exact .inr ⟨e, e', rfl, rfl, h⟩
  case ok.ok c c' h => exact .inl ⟨c, c', rfl, rfl, h.sql, h.count⟩

/-- Another day and another text, the one in another spelling and the other without a character that
has to be escaped. -/
def linesOfAnotherDay : Request :=
  { linesOfADay with
    filter := .object [("d", .string "2023-12-31"),
      ("name", .object [("operator", .string "contains"), ("value", .string "tea")])] }

theorem compile_noninterference_linesOfADay : ∃ ts us c c',
    Filter.terms linesOfADay.filter = .ok ts ∧ Filter.terms linesOfAnotherDay.filter = .ok us ∧
    ts.map Term.shape = us.map Term.shape ∧ compile orderLines {} linesOfADay = .ok c ∧
    compile orderLines {} linesOfAnotherDay = .ok c' ∧ c.statement.sql = c'.statement.sql ∧
    c.statement.params.length = c'.statement.params.length := by
  let shapes : List Term.Shape :=
    [⟨⟨"d", by decide⟩, .equals, .day, none, .absent, .absent⟩,
      ⟨⟨"name", by decide⟩, .contains, .other, none, .absent, .absent⟩]
  obtain ⟨ts, hts, htshapes⟩ : ∃ ts, Filter.terms linesOfADay.filter = .ok ts ∧
      ts.map Term.shape = shapes := exists_ok_of_toOption (by decide +kernel)
  obtain ⟨us, hus, hushapes⟩ : ∃ us, Filter.terms linesOfAnotherDay.filter = .ok us ∧
      us.map Term.shape = shapes := exists_ok_of_toOption (by decide +kernel)
  have hshape := htshapes.trans hushapes.symm
  obtain ⟨c, hc, -⟩ := compile_linesOfADay
  rcases compile_noninterference orderLines {} (r := linesOfADay) (s := linesOfAnotherDay)
    rfl rfl rfl rfl hts hus hshape with ⟨c₁, c₂, h₁, h₂, hsql, hcount⟩ | ⟨e, -, he, -⟩
  · exact ⟨ts, us, c₁, c₂, hts, hus, hshape, h₁, h₂, hsql, hcount⟩
  · rw [hc] at he
    cases he

end FilterSql.Query
