import FilterSql.Proofs.Query.OperatorKind
import FilterSql.Proofs.Query.Reading
import FilterSql.Proofs.Sql.Meaning

/-!
# What terms say of rows

`Term.Holds` gives a filter term its meaning by the kind of its operator, without regard to how the
term is written in SQL; what a date is, and from when to when it lasts, is said by `DenotesDate` and
`DayWindow.IsOf`. `Term.Denotes.holds`: the condition of a term holds of a value if and only
if the term does. `eval_exprs`: a condition holds if and only if all of its expressions are true.
-/

namespace FilterSql.Query

open Calendar Sql

variable {V : Type} (s : Store V)

/-- Two values are there, compare with each other, and do so as the sign says. -/
def Related (x : Option V) (op : Comparison) (y : Option V) : Prop :=
  ∃ a b o, x = some a ∧ y = some b ∧ s.compare a b = some o ∧ Store.accepts op o = true

/-- The first moment of a day, which the dialects write in different ways. -/
def moment (d : Dialect) (day : String) : Option V :=
  match d with
  | .duckdb => some (s.ofScalar (.text day))
  | .suiteql => s.toDate (s.ofScalar (.text day)) "YYYY-MM-DD"

def Within (d : Dialect) (x : Option V) (first next : String) : Prop :=
  Related s x .ge (moment s d first) ∧ Related s x .lt (moment s d next)

def Outside (d : Dialect) (x : Option V) (first next : String) : Prop :=
  Related s x .lt (moment s d first) ∨ Related s x .ge (moment s d next)

/-- Comparison with the time from the first moment of a window to before its end. -/
def RelatedToWindow (d : Dialect) (x : Option V) (cmp : Comparison) (w : DayWindow) : Prop :=
  match cmp with
  | .eq => Within s d x w.start w.next
  | .ne => Outside s d x w.start w.next
  | .lt => Related s x .lt (moment s d w.start)
  | .ge => Related s x .ge (moment s d w.start)
  | .gt => Related s x .ge (moment s d w.next)
  | .le => Related s x .lt (moment s d w.next)

def RelatedToDay (d : Dialect) (x : Option V) (cmp : Comparison) (day : Date) : Prop :=
  ∃ w : DayWindow, w.IsOf day ∧ RelatedToWindow s d x cmp w

def WithinDays (d : Dialect) (x : Option V) (first last : Date) : Prop :=
  ∃ w w' : DayWindow, w.IsOf first ∧ w'.IsOf last ∧ Within s d x w.start w'.next

def Place.Occurs (place : Place) (given text : String) : Prop :=
  match place with
  | anywhere => given.toList <:+: text.toList
  | atStart => given.toList <+: text.toList
  | atEnd => given.toList <:+ text.toList

/-- What a term says of a row whose column has the value `x`. -/
def Term.Holds (config : Config) (t : Term) (x : Option V) : Prop :=
  match t.op.kind with
  | .comparison cmp => ∃ v, t.value = some v ∧
    ((config.dateAware = true ∧ ∃ day, IsDate v day ∧ RelatedToDay s config.dialect x cmp day) ∨
      ((config.dateAware = true → NoDate v) ∧ Related s x cmp (some (s.ofScalar v))))
  | .text place negated => ∃ v text, t.value = some v ∧ x.bind s.text? = some text ∧
    (place.Occurs v.display text ↔ negated = false)
  | .membership negated => ∃ vs, t.values = some vs ∧
    if negated then ∀ v ∈ vs, Related s x .ne (some (s.ofScalar v))
    else ∃ v ∈ vs, Related s x .eq (some (s.ofScalar v))
  | .null negated => x = none ↔ negated = false
  | .range => ∃ start finish first last, t.startDate = some start ∧ t.endDate = some finish ∧
    DenotesDate start first ∧ DenotesDate finish last ∧ WithinDays s config.dialect x first last
  | .day cmp => ∃ v day, t.value = some v ∧ IsDate v day ∧ RelatedToDay s config.dialect x cmp day
  | .flag value => Related s x .eq (some (s.ofScalar (.text (if value then "T" else "F"))))

-- ---------------------------------------------------------------------------
-- Comparisons
-- ---------------------------------------------------------------------------

theorem compares_eq_some {x y : Option V} {op : Comparison} {b : Bool} :
    s.compares x op y = some b ↔ ∃ v w o, x = some v ∧ y = some w ∧ s.compare v w = some o ∧
      Store.accepts op o = b := by
  unfold Store.compares
  cases x with
  | none => simp
  | some v =>
    cases y with
    | none => simp
    | some w => cases h : s.compare v w <;> simp [h]

theorem compares_eq_true {x y : Option V} {op : Comparison} :
    s.compares x op y = some true ↔ Related s x op y :=
  compares_eq_some s

theorem compares_eq_false {x y : Option V} {op opposite : Comparison}
    (h : ∀ o, Store.accepts op o = !Store.accepts opposite o) :
    s.compares x op y = some false ↔ Related s x opposite y := by
  simp [compares_eq_some, Related, h]

theorem comparand_dayComparand (d : Dialect) (day : String) :
    s.comparand (d.dayComparand day) = moment s d day := by
  cases d <;> rfl

-- ---------------------------------------------------------------------------
-- Conditions
-- ---------------------------------------------------------------------------

/-- What a condition says of a row whose column has the value `x`. -/
def Condition.Holds (d : Dialect) (x : Option V) : Condition → Prop
  | compare _ op v => Related s x op (some (s.ofScalar v))
  | bound _ op day => Related s x op (moment s d day)
  | within _ first last => Within s d x first last
  | outside _ first last => Outside s d x first last
  | like _ negated pattern => s.like x (.text pattern) "\\" = some !negated
  | among _ negated vs =>
    if negated then ∀ v ∈ vs, Related s x .ne (some (s.ofScalar v))
    else ∃ v ∈ vs, Related s x .eq (some (s.ofScalar v))
  | null _ negated => x = none ↔ negated = false

theorem eval_signed {tables : Tables V} {scope : Scope V} {negated : Bool} {e : Expr} :
    (Condition.signed negated e).eval s tables scope = some true ↔
      e.eval s tables scope = some !negated := by
  cases negated with
  | false => exact Iff.rfl
  | true => exact Truth.not_eq_true

theorem eval_compare {tables : Tables V} {scope : Scope V} {c : Column} (op : Comparison)
    (y : Comparand) (hx : scope.value? c = some x) :
    (Expr.compare c op y).eval s tables scope = s.compares x op (s.comparand y) := by
  rw [Expr.eval, hx, Option.join_some]

theorem like_eq_some {x : Option V} {place : Place} {given : String} {b : Bool} :
    s.like x (.text (place.pattern given)) "\\" = some b ↔
      ∃ text, x.bind s.text? = some text ∧ (place.Occurs given text ↔ b = true) := by
  have found (text : String) : Like.matches? '\\' (place.pattern given) text = some b ↔
      (place.Occurs given text ↔ b = true) := by
    cases place with
    | anywhere =>
      simp only [Place.pattern, Like.matches?_containing, Place.Occurs]
      cases b <;> simp
    | atStart =>
      simp only [Place.pattern, Like.matches?_startingWith, Place.Occurs]
      cases b <;> simp
    | atEnd =>
      simp only [Place.pattern, Like.matches?_endingWith, Place.Occurs]
      cases b <;> simp
  have escape : "\\".toList = ['\\'] := rfl
  unfold Store.like
  cases x with
  | none => simp
  | some v => cases h : s.text? v <;> simp [h, Scalar.asText?, escape, found]

theorem any_compares_eq_true {x : Option V} {vs : List Scalar} :
    Truth.any (vs.map fun v => s.compares x .eq (some (s.ofScalar v))) = some true ↔
      ∃ v ∈ vs, Related s x .eq (some (s.ofScalar v)) := by
  simp [Truth.any_eq_true, compares_eq_true]

theorem any_compares_eq_false {x : Option V} {vs : List Scalar} :
    Truth.any (vs.map fun v => s.compares x .eq (some (s.ofScalar v))) = some false ↔
      ∀ v ∈ vs, Related s x .ne (some (s.ofScalar v)) := by
  have differs (v : Scalar) : s.compares x .eq (some (s.ofScalar v)) = some false ↔
      Related s x .ne (some (s.ofScalar v)) := compares_eq_false s (by decide)
  simp [Truth.any_eq_false, differs]

theorem eval_exprs {tables : Tables V} {scope : Scope V} {c : Condition}
    (hx : scope.value? c.column = some x) (d : Dialect) :
    (∀ e ∈ c.exprs d, e.eval s tables scope = some true) ↔ c.Holds s d x := by
  cases c with
  | compare c op v =>
    replace hx : scope.value? c = some x := hx
    simp [Condition.exprs, Condition.Holds, eval_compare s op _ hx, Store.comparand,
      compares_eq_true]
  | bound c op day =>
    replace hx : scope.value? c = some x := hx
    simp [Condition.exprs, Condition.Holds, eval_compare s op _ hx, comparand_dayComparand,
      compares_eq_true]
  | within c first last =>
    replace hx : scope.value? c = some x := hx
    simp [Condition.exprs, Condition.Holds, Within, eval_compare s _ _ hx, comparand_dayComparand,
      compares_eq_true]
  | outside c first last =>
    replace hx : scope.value? c = some x := hx
    -- NOT of a conjunction is true if one of the two comparisons is false, not merely unknown.
    have before : s.compares x .ge (moment s d first) = some false ↔
        Related s x .lt (moment s d first) := compares_eq_false s (by decide)
    have after : s.compares x .lt (moment s d last) = some false ↔
        Related s x .ge (moment s d last) := compares_eq_false s (by decide)
    simp [Condition.exprs, Condition.Holds, Outside, Expr.eval, hx, comparand_dayComparand,
      Truth.not_eq_true, Truth.and_eq_false, before, after]
  | like c negated pattern =>
    replace hx : scope.value? c = some x := hx
    simp [Condition.exprs, Condition.Holds, eval_signed, Expr.eval, hx]
  | among c negated vs =>
    replace hx : scope.value? c = some x := hx
    have list : (Expr.among c vs).eval s tables scope =
        Truth.any (vs.map fun v => s.compares x .eq (some (s.ofScalar v))) := by
      rw [Expr.eval, hx, Option.join_some]
    rw [Condition.exprs, List.forall_mem_singleton, eval_signed, list]
    cases negated with
    | false => exact any_compares_eq_true s
    | true => exact any_compares_eq_false s
  | null c negated =>
    replace hx : scope.value? c = some x := hx
    have test : (Expr.null c).eval s tables scope = some x.isNone := by
      rw [Expr.eval, hx, Option.map_some]
    rw [Condition.exprs, List.forall_mem_singleton, eval_signed, test]
    cases negated <;> cases x <;> simp [Condition.Holds]

-- ---------------------------------------------------------------------------
-- Terms
-- ---------------------------------------------------------------------------

theorem holds_compareDay (d : Dialect) (c : Column) (w : DayWindow) (cmp : Comparison)
    (x : Option V) : (Term.compareDay c w cmp).Holds s d x ↔ RelatedToWindow s d x cmp w := by
  cases cmp <;> exact Iff.rfl

theorem exists_relatedToDay_iff {v : Scalar} (h : Term.window? v = some w) (d : Dialect)
    (x : Option V) (cmp : Comparison) :
    (∃ day, Term.IsDate v day ∧ RelatedToDay s d x cmp day) ↔ RelatedToWindow s d x cmp w := by
  constructor
  · rintro ⟨day, date, w', isOf, related⟩
    have same := h.symm.trans (Term.window?_eq_some_iff_isOf.mpr ⟨day, date, isOf⟩)
    exact Option.some.inj same ▸ related
  · intro related
    obtain ⟨day, date, isOf⟩ := Term.window?_eq_some_iff_isOf.mp h
    exact ⟨day, date, w, isOf, related⟩

theorem exists_withinDays_iff {start finish : String} (hstart : DayWindow.ofText? start = some w)
    (hfinish : DayWindow.ofText? finish = some w') (d : Dialect) (x : Option V) :
    (∃ first last, DenotesDate start first ∧ DenotesDate finish last ∧
      WithinDays s d x first last) ↔ Within s d x w.start w'.next := by
  constructor
  · rintro ⟨first, last, startDenotes, finishDenotes, u, u', isOf, isOf', within⟩
    have same := hstart.symm.trans
      (DayWindow.ofText?_eq_some_iff_isOf.mpr ⟨first, startDenotes, isOf⟩)
    have same' := hfinish.symm.trans
      (DayWindow.ofText?_eq_some_iff_isOf.mpr ⟨last, finishDenotes, isOf'⟩)
    obtain rfl := Option.some.inj same
    obtain rfl := Option.some.inj same'
    exact within
  · intro within
    obtain ⟨first, startDenotes, isOf⟩ := DayWindow.ofText?_eq_some_iff_isOf.mp hstart
    obtain ⟨last, finishDenotes, isOf'⟩ := DayWindow.ofText?_eq_some_iff_isOf.mp hfinish
    exact ⟨first, last, startDenotes, finishDenotes, w, w', isOf, isOf', within⟩

theorem Term.Denotes.holds {config : Config} {t : Term} (h : Term.Denotes config c t found)
    (x : Option V) : found.Holds s config.dialect x ↔ t.Holds s config x := by
  unfold Term.Holds
  cases h with
  | @scalar v cmp hk hv hday =>
    have plain := comparedDay?_eq_none_iff.mp hday
    have noDay : ¬ (config.dateAware = true ∧ ∃ day, IsDate v day ∧
        RelatedToDay s config.dialect x cmp day) := by
      rintro ⟨aware, day, ⟨text, rfl, denotes⟩, -⟩
      exact plain aware text rfl day denotes
    simp only [hk, hv, Condition.Holds, Option.some.injEq, exists_eq_left', noDay, false_or]
    exact ⟨fun related => ⟨plain, related⟩, And.right⟩
  | @wholeDay v w cmp hk hv hday =>
    obtain ⟨aware, window⟩ := comparedDay?_eq_some_iff.mp hday
    have date : ¬ NoDate v := fun none => by simp [window?_eq_none_iff.mpr none] at window
    simp [hk, hv, holds_compareDay, aware, date, exists_relatedToDay_iff s window]
  | @text place negated v hk hv =>
    have matched : s.like x (.text (place.pattern v.display)) "\\" = some !negated ↔ _ :=
      like_eq_some s
    simp [hk, hv, Condition.Holds, matched]
  | among hk hvs hne => simp [hk, hvs, Condition.Holds]
  | null hk => simp [hk, Condition.Holds]
  | range hk hfirst hlast =>
    obtain ⟨start, hstart, first⟩ := Option.bind_eq_some_iff.mp hfirst
    obtain ⟨finish, hfinish, last⟩ := Option.bind_eq_some_iff.mp hlast
    simp only [hk, hstart, hfinish, Condition.Holds, Option.some.injEq, exists_and_left,
      exists_eq_left', ← exists_withinDays_iff s first last]
  | day hk hv =>
    obtain ⟨v, hv, window⟩ := Option.bind_eq_some_iff.mp hv
    simp only [hk, hv, holds_compareDay, Option.some.injEq, exists_and_left, exists_eq_left',
      ← exists_relatedToDay_iff s window]
  | flag hk => simp [hk, Condition.Holds, Term.flag]

end FilterSql.Query
