import FilterSql.Proofs.Agreement
import FilterSql.Proofs.Query.Compilation
import FilterSql.Proofs.Text.Replacement

/-!
# One query in two dialects

The dialects differ in how they write a day and in nothing else: `SameButDays` relates the lexemes
of one query in both. `SameButDays.replaceAll`: where the one text has a conversion of a date the
other has a question mark, and conversions stand nowhere else. No name can look like one, because a
name holds no quotes, and what stands in quotes besides the format of dates is a backslash.
-/

namespace FilterSql

open Query Sql

namespace Sql

-- ---------------------------------------------------------------------------
-- Quotes
-- ---------------------------------------------------------------------------

/-- Every quote stands next to a backslash. -/
def Guarded (cs : List Char) : Prop :=
  ∀ before after, cs = before ++ '\'' :: after →
    before.getLast? = some '\\' ∨ after.head? = some '\\'

theorem guarded_of_not_mem (h : '\'' ∉ cs) : Guarded cs := by
  rintro before after rfl
  exact absurd (by simp) h

theorem guarded_nil : Guarded [] := guarded_of_not_mem List.not_mem_nil

theorem Guarded.append (hxs : Guarded xs) (hys : Guarded ys) : Guarded (xs ++ ys) := by
  intro before after h
  obtain ⟨middle, rfl, hrest⟩ | ⟨middle, hwhole, hrest⟩ := List.append_eq_append_iff.mp h
  · rcases hys middle after hrest with hbefore | hafter
    · exact .inl (by simp [hbefore])
    · exact .inr hafter
  · cases middle with
    | nil =>
      rcases hys [] after hrest.symm with hbefore | hafter
      · cases hbefore
      · exact .inr hafter
    | cons c middle =>
      obtain ⟨rfl, rfl⟩ := List.cons.inj hrest
      rcases hxs before middle hwhole with hbefore | hafter
      · exact .inl hbefore
      · exact .inr (by simp [hafter])

/-- A backslash in quotes, as it stands behind ESCAPE. -/
theorem guarded_quoted_backslash : Guarded ['\'', '\\', '\''] := by
  intro before after h
  match before with
  | [] =>
    obtain rfl : ['\\', '\''] = after := by simpa using h
    exact .inr rfl
  | [a] => simp at h
  | [a, b] =>
    obtain ⟨-, rfl, -⟩ : '\'' = a ∧ '\\' = b ∧ [] = after := by simpa [eq_comm] using h
    exact .inl rfl
  | a :: b :: c :: rest => simp at h

-- ---------------------------------------------------------------------------
-- Lexemes without a day
-- ---------------------------------------------------------------------------

/-- The lexeme is no literal but the backslash. -/
def Lexeme.Undated : Lexeme → Prop
  | literal content => content = "\\"
  | _ => True

def Undated (ls : List Lexeme) : Prop := ∀ l ∈ ls, l.Undated

@[simp] theorem undated_nil : Undated [] := List.forall_mem_nil _

@[simp] theorem undated_cons : Undated (l :: ls) ↔ l.Undated ∧ Undated ls := List.forall_mem_cons

@[simp] theorem undated_append : Undated (as ++ bs) ↔ Undated as ∧ Undated bs :=
  List.forall_mem_append

theorem undated_intercalate {sep : List Lexeme} {parts : List (List Lexeme)} (hsep : Undated sep)
    (h : ∀ part ∈ parts, Undated part) : Undated (sep.intercalate parts) := by
  intro l hl
  rcases Text.mem_intercalate hl with hl | ⟨part, hpart, hl⟩
  · exact hsep l hl
  · exact h part hpart l hl

theorem Lexeme.guarded {l : Lexeme} (regular : l.Regular) (h : l.Undated) :
    Guarded l.text.toList := by
  cases l with
  | word name => exact guarded_of_not_mem (not_mem_of_isSafeIdentifier regular (by decide))
  | operator op =>
    refine guarded_of_not_mem ?_
    cases op <;> decide
  | literal content =>
    obtain rfl : content = "\\" := h
    exact guarded_quoted_backslash
  | slot v => exact guarded_of_not_mem (show '\'' ∉ "?".toList by decide)
  | _ => exact guarded_of_not_mem (by decide)

theorem guarded_text {ls : List Lexeme} (regular : Regular ls) (h : Undated ls) :
    Guarded (text ls).toList := by
  induction ls with
  | nil => exact guarded_nil
  | cons l ls ih =>
    obtain ⟨hl, hls⟩ := regular_cons.mp regular
    obtain ⟨undated, hundated⟩ := undated_cons.mp h
    rw [text_cons, String.toList_append]
    exact (Lexeme.guarded hl undated).append (ih hls hundated)

end Sql

namespace Query

theorem Column.undated (c : Column) : Undated c.lexemes := by
  simp [lexemes, Lexeme.Undated]

theorem TableRef.undated (t : TableRef) : Undated t.lexemes := by
  simp [lexemes, Lexeme.Undated]

theorem undated_slots (vs : List Scalar) : Undated (slots vs) := by
  refine undated_intercalate (by simp [Lexeme.Undated]) fun part hpart => ?_
  obtain ⟨v, -, rfl⟩ := List.mem_map.mp hpart
  simp [Lexeme.Undated]

theorem Condition.undated_negation (negated : Bool) : Undated (negation negated) := by
  cases negated <;> simp [Lexeme.Undated, negation]

/-- A day where dates are converted. -/
def conversion : List Char := Dialect.suiteql.datePlaceholder.toList

theorem conversion_eq : conversion =
    "TO_DATE(?, ".toList ++ '\'' :: "YYYY-MM-DD')".toList := by
  decide +kernel

theorem unbordered_conversion : Text.Unbordered conversion := by decide +kernel

theorem conversion_ne_nil : conversion ≠ [] := by decide +kernel

theorem not_conversion_of_guarded (h : Guarded cs) : ¬ conversion <:+: cs := by
  rintro ⟨front, back, rfl⟩
  have quote : front ++ conversion ++ back =
      (front ++ "TO_DATE(?, ".toList) ++ '\'' :: ("YYYY-MM-DD')".toList ++ back) := by
    simp [conversion_eq]
  rcases h _ _ quote with hbefore | hafter
  · simp at hbefore
  · simp at hafter

-- ---------------------------------------------------------------------------
-- Lexemes in both dialects
-- ---------------------------------------------------------------------------

/-- The same lexemes, but for the days, each of which is written in its own dialect. -/
inductive SameButDays : List Lexeme → List Lexeme → Prop
  | nil : SameButDays [] []
  | same (front : List Lexeme) (h : Undated front) (rest : SameButDays ls ms) :
    SameButDays (front ++ ls) (front ++ ms)
  | day (day : String) (rest : SameButDays ls ms) :
    SameButDays (Dialect.duckdb.dayLexemes day ++ ls) (Dialect.suiteql.dayLexemes day ++ ms)

namespace SameButDays

theorem refl (h : Undated ls) : SameButDays ls ls := by
  simpa using same ls h nil

theorem append (h : SameButDays as bs) (h' : SameButDays ls ms) :
    SameButDays (as ++ ls) (bs ++ ms) := by
  induction h with
  | nil => exact h'
  | same front hfront _ ih =>
    rw [List.append_assoc, List.append_assoc]
    exact same front hfront ih
  | day day _ ih =>
    rw [List.append_assoc, List.append_assoc]
    exact .day day ih

theorem joined (h : List.Forall₂ SameButDays ps qs) : SameButDays (joined ps) (joined qs) := by
  have sep : Undated [.space, .word "AND", .space] := by simp [Lexeme.Undated]
  induction h with
  | nil => exact nil
  | cons hp hps ih =>
    cases hps with
    | nil => simpa using hp
    | cons hp' hps =>
      rw [Query.joined, Query.joined, List.intercalate_cons_cons, List.intercalate_cons_cons]
      exact (hp.append (refl sep)).append ih

theorem values (h : SameButDays ls ms) : values ls = values ms := by
  induction h with
  | nil => rfl
  | same front _ _ ih => rw [values_append, values_append, ih]
  | day day _ ih => simp only [values_append, Dialect.values_dayLexemes, ih]

/-- The text in the first dialect is that in the second one with a question mark for each
conversion. What stands in front of both texts is kept. -/
theorem replaceAll (h : SameButDays ls ms) (regular : Regular ms) (hfront : Guarded front) :
    Text.replaceAll conversion ['?'] (front ++ (text ms).toList) =
      front ++ (text ls).toList := by
  induction h generalizing front with
  | nil =>
    rw [text_nil, String.toList_empty, List.append_nil]
    exact Text.replaceAll_of_not_infix (not_conversion_of_guarded hfront)
  | @same ls ms middle hmiddle _ ih =>
    obtain ⟨hregular, hrest⟩ := regular_append.mp regular
    rw [text_append, text_append, String.toList_append, String.toList_append,
      ← List.append_assoc, ← List.append_assoc]
    exact ih hrest (hfront.append (guarded_text hregular hmiddle))
  | @day ls ms day _ ih =>
    have hrest := ih (regular_append.mp regular).2 guarded_nil
    rw [List.nil_append, List.nil_append] at hrest
    rw [text_append, text_append, Dialect.text_dayLexemes, Dialect.text_dayLexemes,
      String.toList_append, String.toList_append]
    show Text.replaceAll conversion ['?'] (front ++ (conversion ++ _)) = _
    rw [Text.replaceAll_append unbordered_conversion conversion_ne_nil
      (not_conversion_of_guarded hfront), hrest]
    rfl

end SameButDays

namespace Condition

theorem sameButDays_boundPhrase (c : Column) (op : Comparison) (day : String) :
    SameButDays (boundPhrase .duckdb c op day) (boundPhrase .suiteql c op day) :=
  .same _ (by simp [c.undated, Lexeme.Undated]) (by simpa using .day day .nil)

theorem sameButDays_rangePhrases (c : Column) (first last : String) :
    List.Forall₂ SameButDays (rangePhrases .duckdb c first last)
      (rangePhrases .suiteql c first last) :=
  .cons (sameButDays_boundPhrase c .ge first) (.cons (sameButDays_boundPhrase c .lt last) .nil)

theorem sameButDays_phrases (c : Condition) :
    List.Forall₂ SameButDays (c.phrases .duckdb) (c.phrases .suiteql) := by
  cases c with
  | bound c op day => exact .cons (sameButDays_boundPhrase c op day) .nil
  | within c first last => exact sameButDays_rangePhrases c first last
  | outside c first last =>
    have inner := SameButDays.joined (sameButDays_rangePhrases c first last)
    have opening : Undated [.word "NOT", .space, .opening] := by simp [Lexeme.Undated]
    have closing : Undated [.closing] := by simp [Lexeme.Undated]
    exact .cons (((SameButDays.refl opening).append inner).append (.refl closing)) .nil
  | compare c op v => exact .cons (.refl (by simp [c.undated, Lexeme.Undated])) .nil
  | like c negated pattern =>
    exact .cons (.refl (by simp [c.undated, undated_negation, Lexeme.Undated])) .nil
  | among c negated vs =>
    exact .cons (.refl (by simp [c.undated, undated_negation, undated_slots, Lexeme.Undated])) .nil
  | null c negated =>
    exact .cons (.refl (by simp [c.undated, undated_negation, Lexeme.Undated])) .nil

end Condition

theorem sameButDays_flatMap {f : Dialect → α → List (List Lexeme)}
    (h : ∀ a, List.Forall₂ SameButDays (f .duckdb a) (f .suiteql a)) (as : List α) :
    List.Forall₂ SameButDays (as.flatMap (f .duckdb)) (as.flatMap (f .suiteql)) :=
  List.rel_flatMap (List.forall₂_same.mpr fun a _ => Eq.refl a) fun a b heq => by
    subst heq
    exact h a

theorem Predicate.sameButDays_phrases (p : Predicate) :
    List.Forall₂ SameButDays (p.phrases .duckdb) (p.phrases .suiteql) := by
  cases p with
  | plain c => exact c.sameButDays_phrases
  | headerMember foreignKey header conditions =>
    have inner := SameButDays.joined
      (sameButDays_flatMap (f := fun d c => Condition.phrases d c)
        Condition.sameButDays_phrases conditions)
    refine .cons ((SameButDays.append (.refl ?_) inner).append (.refl ?_)) .nil
    · simp [Column.undated, header.undated, Lexeme.Undated]
    · simp [Lexeme.Undated]

theorem Plan.undated_selectLexemes (p : Plan) :
    Undated ([Lexeme.comma, .space].intercalate p.selectLexemes) := by
  refine undated_intercalate (by simp [Lexeme.Undated]) fun item hitem => ?_
  unfold selectLexemes at hitem
  split at hitem
  · obtain rfl := List.mem_singleton.mp hitem
    simp [Lexeme.Undated]
  · obtain ⟨name, -, rfl⟩ := List.mem_map.mp hitem
    exact Column.undated _

theorem Plan.undated_orderLexemes (p : Plan) : Undated p.orderLexemes := by
  unfold orderLexemes
  split
  · exact Column.undated _
  · simp [Column.undated, TableRef.undated, Lexeme.Undated]

theorem Compiled.sameButDays_lexemes (c : Compiled) :
    SameButDays (c.lexemes .duckdb) (c.lexemes .suiteql) := by
  have inner := SameButDays.joined
    (sameButDays_flatMap (f := Predicate.phrases) Predicate.sameButDays_phrases c.predicates)
  have filter : SameButDays (c.whereLexemes .duckdb) (c.whereLexemes .suiteql) := by
    unfold whereLexemes
    split
    · exact .nil
    · exact (SameButDays.refl (by simp [Lexeme.Undated])).append inner
  have front : Undated ([.word "SELECT", .space] ++
      [Lexeme.comma, .space].intercalate c.plan.selectLexemes ++
      [.space, .word "FROM", .space] ++ c.plan.source.lexemes) := by
    simp [c.plan.undated_selectLexemes, TableRef.undated, Lexeme.Undated]
  have back : Undated ([.space, .word "ORDER", .space, .word "BY", .space] ++
      (c.plan.orderLexemes ++ [.space, .word c.plan.direction.keyword])) := by
    simp [c.plan.undated_orderLexemes, Lexeme.Undated]
  simpa [lexemes] using (SameButDays.append (.refl front) filter).append (.refl back)

-- ---------------------------------------------------------------------------
-- Whole requests
-- ---------------------------------------------------------------------------

/-- The texts of the two dialects: with the same values, and the one is the other with a question
mark for each conversion of a date. -/
structure Statement.SameButDays (s s' : Statement) : Prop where
  params : s.params = s'.params
  sql : Text.replace "TO_DATE(?, 'YYYY-MM-DD')" "?" s'.sql = s.sql

theorem Compiled.WellFormed.sameButDays {c : Compiled} (wellFormed : c.WellFormed) :
    Statement.SameButDays (c.withFilter .duckdb).statement (c.withFilter .suiteql).statement := by
  have whole := c.sameButDays_lexemes
  have written (d : Dialect) : (c.withFilter d).statement = write (c.lexemes d) :=
    Compiled.statement_eq_write (c := c.withFilter d) rfl
  rw [written, written]
  refine ⟨whole.values, ?_⟩
  have replaced := whole.replaceAll (wellFormed.legible .suiteql).regular guarded_nil
  rw [List.nil_append, List.nil_append] at replaced
  rw [← String.toList_inj]
  exact (String.toList_ofList).trans replaced

theorem outline_dialect (catalog : Catalog) (d d' : Dialect) (dateAware : Bool) (r : Request) :
    outline catalog ⟨d, dateAware⟩ r = outline catalog ⟨d', dateAware⟩ r :=
  rfl

theorem compile_dialects (built : catalog.Built) (dateAware : Bool) (r : Request) :
    Agree (· = ·) (fun c c' => Statement.SameButDays c.statement c'.statement)
      (compile catalog ⟨.duckdb, dateAware⟩ r) (compile catalog ⟨.suiteql, dateAware⟩ r) := by
  rw [compile_eq_outline built, compile_eq_outline built,
    outline_dialect catalog .suiteql .duckdb]
  cases h : outline catalog ⟨.duckdb, dateAware⟩ r with
  | error e => exact .error rfl
  | ok c => exact .ok (outline_wellFormed built h).sameButDays

end Query

end FilterSql
