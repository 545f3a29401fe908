import FilterSql.Proofs.Sql.Lexeme
import FilterSql.Query.Compile

/-!
# The layout of a query

Conditions, predicates and compiled requests as sequences of lexemes, with each value in its place.
A condition is a list of phrases joined by AND: a range of days has two of them, one for each end.
`Compiled.statement_eq_write`: the statement of a compiled request is what its lexemes write down.
-/

namespace FilterSql.Query

open Sql

def joined (phrases : List (List Lexeme)) : List Lexeme :=
  [Lexeme.space, .word "AND", .space].intercalate phrases

def Column.lexemes (c : Column) : List Lexeme := [.word c.aliasName, .dot, .word c.name]

def TableRef.lexemes (t : TableRef) : List Lexeme := [.word t.table, .space, .word t.aliasName]

def Dialect.dayLexemes (d : Dialect) (day : String) : List Lexeme :=
  match d with
  | .duckdb => [.slot (.text day)]
  | .suiteql =>
    [.word "TO_DATE", .opening, .slot (.text day), .comma, .space, .literal "YYYY-MM-DD", .closing]

def slots (vs : List Scalar) : List Lexeme :=
  [Lexeme.comma, .space].intercalate (vs.map fun v => [.slot v])

namespace Condition

def negation (negated : Bool) : List Lexeme := if negated then [.word "NOT", .space] else []

def boundPhrase (d : Dialect) (c : Column) (op : Comparison) (day : String) : List Lexeme :=
  c.lexemes ++ [.space, .operator op, .space] ++ d.dayLexemes day

def rangePhrases (d : Dialect) (c : Column) (first last : String) : List (List Lexeme) :=
  [boundPhrase d c .ge first, boundPhrase d c .lt last]

def phrases (d : Dialect) : Condition → List (List Lexeme)
  | compare c op v => [c.lexemes ++ [.space, .operator op, .space, .slot v]]
  | bound c op day => [boundPhrase d c op day]
  | within c first last => rangePhrases d c first last
  | outside c first last =>
    [[.word "NOT", .space, .opening] ++ joined (rangePhrases d c first last) ++ [.closing]]
  | like c negated pattern =>
    [c.lexemes ++ [.space] ++ negation negated ++
      [.word "LIKE", .space, .slot (.text pattern), .space, .word "ESCAPE", .space, .literal "\\"]]
  | among c negated vs =>
    [c.lexemes ++ [.space] ++ negation negated ++ [.word "IN", .space, .opening] ++ slots vs ++
      [.closing]]
  | null c negated =>
    [c.lexemes ++ [.space, .word "IS", .space] ++ negation negated ++ [.word "NULL"]]

def column : Condition → Column
  | compare c .. | bound c .. | within c .. | outside c .. | like c .. | among c .. | null c .. => c

end Condition

def Predicate.phrases (d : Dialect) : Predicate → List (List Lexeme)
  | plain c => c.phrases d
  | headerMember foreignKey header conditions =>
    [foreignKey.lexemes ++ [.space, .word "IN", .space, .opening, .word "SELECT", .space] ++
      (header.column primaryKey).lexemes ++ [.space, .word "FROM", .space] ++ header.lexemes ++
      [.space, .word "WHERE", .space] ++ joined (conditions.flatMap (·.phrases d)) ++ [.closing]]

namespace Plan

def selectLexemes (p : Plan) : List (List Lexeme) :=
  match p.select with
  | .all => [[.word p.source.aliasName, .dot, .star]]
  | .columns names => names.map fun name => (p.source.column name.text).lexemes

def orderLexemes (p : Plan) : List Lexeme :=
  match p.order with
  | .column name => (p.source.column name).lexemes
  | .headerLookup header foreignKey field =>
    [.opening, .word "SELECT", .space] ++ (header.column field).lexemes ++
      [.space, .word "FROM", .space] ++ header.lexemes ++ [.space, .word "WHERE", .space] ++
      (header.column primaryKey).lexemes ++ [.space, .operator .eq, .space] ++
      (p.source.column foreignKey).lexemes ++ [.closing]

end Plan

namespace Compiled

def whereLexemes (d : Dialect) (c : Compiled) : List Lexeme :=
  if c.predicates.isEmpty then []
  else [.space, .word "WHERE", .space] ++ joined (c.predicates.flatMap (·.phrases d))

def lexemes (d : Dialect) (c : Compiled) : List Lexeme :=
  [.word "SELECT", .space] ++ [Lexeme.comma, .space].intercalate c.plan.selectLexemes ++
    [.space, .word "FROM", .space] ++ c.plan.source.lexemes ++ c.whereLexemes d ++
    [.space, .word "ORDER", .space, .word "BY", .space] ++ c.plan.orderLexemes ++
    [.space, .word c.plan.direction.keyword]

end Compiled

-- ---------------------------------------------------------------------------
-- Texts and values
-- ---------------------------------------------------------------------------

@[simp] theorem Column.text_lexemes (c : Column) : text c.lexemes = c.sql := by
  simp [lexemes, Column.sql, Lexeme.text, String.append_assoc]

@[simp] theorem Column.values_lexemes (c : Column) : values c.lexemes = [] := rfl

@[simp] theorem TableRef.text_lexemes (t : TableRef) : text t.lexemes = t.sql := by
  simp [lexemes, TableRef.sql, Lexeme.text, String.append_assoc]

@[simp] theorem TableRef.values_lexemes (t : TableRef) : values t.lexemes = [] := rfl

@[simp] theorem Dialect.text_dayLexemes (d : Dialect) (day : String) :
    text (d.dayLexemes day) = d.datePlaceholder := by
  cases d <;> rfl

@[simp] theorem Dialect.values_dayLexemes (d : Dialect) (day : String) :
    values (d.dayLexemes day) = [.text day] := by
  cases d <;> rfl

theorem text_joined (phrases : List (List Lexeme)) :
    text (joined phrases) = " AND ".intercalate (phrases.map text) :=
  text_intercalate _ _

@[simp] theorem joined_singleton (phrase : List Lexeme) : joined [phrase] = phrase := by
  simp [joined]

theorem values_joined (phrases : List (List Lexeme)) :
    values (joined phrases) = phrases.flatMap values :=
  values_intercalate rfl _

@[simp] theorem text_slots (vs : List Scalar) :
    text (slots vs) = Fragment.placeholderList vs.length := by
  have marks : (vs.map fun v => [Lexeme.slot v]).map text = List.replicate vs.length "?" := by
    rw [List.map_map, ← List.map_const']
    exact List.map_congr_left fun v _ => String.append_empty
  rw [slots, text_intercalate, marks]
  rfl

@[simp] theorem values_slots (vs : List Scalar) : values (slots vs) = vs := by
  rw [slots, values_intercalate rfl]
  induction vs with
  | nil => rfl
  | cons v vs ih => rw [List.map_cons, List.flatMap_cons, ih]; rfl

@[simp] theorem Condition.values_negation (negated : Bool) :
    values (Condition.negation negated) = [] := by
  cases negated <;> rfl

theorem conjunction_write {f : α → List (List Lexeme)} {as : List α} (h : ∀ a ∈ as, f a ≠ []) :
    Fragment.conjunction (as.map fun a => write (joined (f a))) =
      write (joined (as.flatMap f)) := by
  have texts : " AND ".intercalate (as.map fun a => " AND ".intercalate ((f a).map text)) =
      " AND ".intercalate (as.flatMap fun a => (f a).map text) :=
    Text.intercalate_flatMap fun a ha => by simpa using h a ha
  simp only [Fragment.conjunction, write, List.map_map, Function.comp_def, text_joined,
    values_joined, List.flatMap_map, List.map_flatMap, List.flatMap_assoc, texts]

-- ---------------------------------------------------------------------------
-- Fragments are written from lexemes
-- ---------------------------------------------------------------------------

theorem Condition.phrases_ne_nil (d : Dialect) (c : Condition) : c.phrases d ≠ [] := by
  cases c <;> exact List.cons_ne_nil _ _

theorem Predicate.phrases_ne_nil (d : Dialect) (p : Predicate) : p.phrases d ≠ [] := by
  cases p with
  | plain c => exact c.phrases_ne_nil d
  | headerMember foreignKey header conditions => exact List.cons_ne_nil _ _

namespace Condition

theorem boundFragment_eq_write (d : Dialect) (c : Column) (op : Comparison) (day : String) :
    boundFragment d c op day = write (boundPhrase d c op day) := by
  simp only [boundFragment, write, boundPhrase, text_append, values_append, Column.text_lexemes,
    Column.values_lexemes, Dialect.text_dayLexemes, Dialect.values_dayLexemes, Fragment.mk.injEq]
  exact ⟨by simp [← String.toList_inj, Lexeme.text], rfl⟩

theorem withinFragment_eq_write (d : Dialect) (c : Column) (first last : String) :
    withinFragment d c first last = write (joined (rangePhrases d c first last)) := by
  rw [withinFragment, boundFragment_eq_write, boundFragment_eq_write]
  have phrases := conjunction_write (f := fun phrase => [phrase])
    fun phrase (_ : phrase ∈ rangePhrases d c first last) => List.cons_ne_nil phrase []
  simpa [rangePhrases] using phrases

theorem fragment_eq_write (d : Dialect) (c : Condition) :
    c.fragment d = write (joined (c.phrases d)) := by
  cases c with
  | compare c op v =>
    simp only [fragment, phrases, joined_singleton, write, Fragment.mk.injEq]
    exact ⟨by simp [← String.toList_inj, Lexeme.text], rfl⟩
  | bound c op day => rw [fragment, phrases, joined_singleton, boundFragment_eq_write]
  | within c first last => exact withinFragment_eq_write d c first last
  | outside c first last =>
    simp only [fragment, phrases, joined_singleton, withinFragment_eq_write, Fragment.negate, write,
      Fragment.mk.injEq]
    exact ⟨by simp [← String.toList_inj, Lexeme.text], by simp [Lexeme.value?]⟩
  | like c negated pattern =>
    simp only [fragment, phrases, joined_singleton, write, Fragment.mk.injEq]
    cases negated <;> exact ⟨by simp [← String.toList_inj, Lexeme.text, negation], rfl⟩
  | among c negated vs =>
    simp only [fragment, phrases, joined_singleton, write, Fragment.mk.injEq]
    cases negated <;>
      exact ⟨by simp [← String.toList_inj, Lexeme.text, negation], by simp [Lexeme.value?]⟩
  | null c negated =>
    simp only [fragment, phrases, joined_singleton, write, Fragment.mk.injEq]
    cases negated <;> exact ⟨by simp [Lexeme.text, negation], rfl⟩

end Condition

theorem conjunction_conditions (d : Dialect) (cs : List Condition) :
    Fragment.conjunction (cs.map (·.fragment d)) = write (joined (cs.flatMap (·.phrases d))) := by
  rw [← conjunction_write fun c _ => c.phrases_ne_nil d]
  exact congrArg _ (List.map_congr_left fun c _ => c.fragment_eq_write d)

theorem Predicate.fragment_eq_write (d : Dialect) (p : Predicate) :
    p.fragment d = write (joined (p.phrases d)) := by
  cases p with
  | plain c => exact c.fragment_eq_write d
  | headerMember foreignKey header conditions =>
    simp only [fragment, phrases, joined_singleton, conjunction_conditions, write,
      Fragment.mk.injEq]
    exact ⟨by simp [← String.toList_inj, Lexeme.text], by simp [Lexeme.value?]⟩

theorem conjunction_predicates (d : Dialect) (ps : List Predicate) :
    Fragment.conjunction (ps.map (·.fragment d)) = write (joined (ps.flatMap (·.phrases d))) := by
  rw [← conjunction_write fun p _ => p.phrases_ne_nil d]
  exact congrArg _ (List.map_congr_left fun p _ => p.fragment_eq_write d)

theorem Plan.selectFields_eq (p : Plan) : p.selectFields = p.selectLexemes.map text := by
  unfold selectFields selectLexemes
  cases p.select with
  | all => simp [Column.sql, TableRef.column, Lexeme.text, String.append_assoc]
  | columns names => simp [Function.comp_def]

theorem Plan.orderExpression_eq (p : Plan) : p.orderExpression = text p.orderLexemes := by
  unfold orderExpression orderLexemes
  cases p.order with
  | column name => simp
  | headerLookup header foreignKey field =>
    simp [← String.toList_inj, Lexeme.text, Comparison.symbol]

theorem Compiled.statement_eq_write {c : Compiled}
    (h : c.plan.filter = c.predicates.map (·.fragment d)) : c.statement = write (c.lexemes d) := by
  have hwhere : c.plan.whereSql = text (c.whereLexemes d) ∧
      (Fragment.conjunction c.plan.filter).params = values (c.whereLexemes d) := by
    unfold Plan.whereSql whereLexemes
    rw [h, conjunction_predicates]
    cases c.predicates with
    | nil => exact ⟨rfl, rfl⟩
    | cons p ps => exact ⟨by simp [← String.toList_inj, Lexeme.text, write], by simp [write]; rfl⟩
  have hselect : values ([Lexeme.comma, .space].intercalate c.plan.selectLexemes) = [] := by
    rw [values_intercalate rfl]
    unfold Plan.selectLexemes
    cases c.plan.select with
    | all => rfl
    | columns names => simp
  have horder : values c.plan.orderLexemes = [] := by
    unfold Plan.orderLexemes
    cases c.plan.order <;> rfl
  simp only [statement, Plan.statement, lexemes, write, Fragment.mk.injEq]
  constructor
  · simp [← String.toList_inj, Lexeme.text, hwhere.1, Plan.selectFields_eq, Plan.orderSql,
      Plan.orderExpression_eq, text_intercalate]
  · simp [Lexeme.value?, hwhere.2, hselect, horder]

end FilterSql.Query
