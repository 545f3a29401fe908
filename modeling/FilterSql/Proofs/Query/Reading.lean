import FilterSql.Proofs.Query.WellFormed
import FilterSql.Proofs.Sql.Syntax

/-!
# Reading the statement of a query

The syntax tree of a query, and that it is what a reader finds in the statement. Every phrase of the
WHERE clause is one operand of AND, in a subquery as well as outside.
-/

namespace FilterSql.Query

open Sql

/-- All of the expressions at once, if there is one. -/
def allOf : List Expr → Option Expr
  | [] => none
  | e :: es => some ((allOf es).elim e (.and e))

def Dialect.dayComparand (d : Dialect) (day : String) : Comparand :=
  match d with
  | .duckdb => .value (.text day)
  | .suiteql => .date (.text day) "YYYY-MM-DD"

namespace Condition

def signed (negated : Bool) (e : Expr) : Expr := if negated then .not e else e

def exprs (d : Dialect) : Condition → List Expr
  | compare c op v => [.compare c op (.value v)]
  | bound c op day => [.compare c op (d.dayComparand day)]
  | within c first last =>
    [.compare c .ge (d.dayComparand first), .compare c .lt (d.dayComparand last)]
  | outside c first last =>
    [.not (.and (.compare c .ge (d.dayComparand first)) (.compare c .lt (d.dayComparand last)))]
  | like c negated pattern => [signed negated (.like c (.text pattern) "\\")]
  | among c negated vs => [signed negated (.among c vs)]
  | null c negated => [signed negated (.null c)]

end Condition

def Predicate.exprs (d : Dialect) : Predicate → List Expr
  | plain c => c.exprs d
  | headerMember foreignKey header conditions =>
    ((allOf (conditions.flatMap (·.exprs d))).map
      (.member foreignKey (header.column primaryKey) header)).toList

def Plan.items (p : Plan) : List Item :=
  match p.select with
  | .all => [.all p.source.aliasName]
  | .columns names => names.map fun name => .column (p.source.column name.text)

def Plan.orderTree (p : Plan) : Order :=
  match p.order with
  | .column name => .column (p.source.column name)
  | .headerLookup header foreignKey field =>
    .lookup (header.column field) header (header.column primaryKey) (p.source.column foreignKey)

def Compiled.tree (d : Dialect) (c : Compiled) : Select where
  items := c.plan.items
  source := c.plan.source
  filter := allOf (c.predicates.flatMap (·.exprs d))
  order := c.plan.orderTree
  descending := c.plan.direction = .descending

-- ---------------------------------------------------------------------------
-- Phrases
-- ---------------------------------------------------------------------------

/-- A phrase is read as an expression whatever follows, if the depth does for the phrase. -/
def Reads (phrase : List Lexeme) (e : Expr) : Prop :=
  ∀ depth rest, (tokens phrase).length ≤ depth + 1 →
    Reader.factor (Reader.expr depth) (tokens phrase ++ rest) = some (e, rest)

theorem comparand_dayLexemes (d : Dialect) (day : String) (rest : List Lexeme) :
    Reader.comparand (tokens (d.dayLexemes day) ++ rest) = some (d.dayComparand day, rest) := by
  cases d <;> rfl

namespace Condition

theorem reads_boundPhrase (d : Dialect) (c : Column) (op : Comparison) (day : String) :
    Reads (boundPhrase d c op day) (.compare c op (d.dayComparand day)) := by
  intro depth rest _
  have whole : tokens (boundPhrase d c op day) ++ rest =
      .word c.aliasName :: .dot :: .word c.name :: .operator op ::
        (tokens (d.dayLexemes day) ++ rest) := by
    rw [boundPhrase, tokens_append]
    rfl
  rw [whole]
  show (Reader.comparand _).map _ = _
  rw [comparand_dayLexemes]
  rfl

theorem reads_compare (c : Column) (op : Comparison) (v : Scalar) :
    Reads (c.lexemes ++ [.space, .operator op, .space, .slot v]) (.compare c op (.value v)) :=
  fun _ _ _ => rfl

theorem reads_like (c : Column) (negated : Bool) (pattern : String) :
    Reads (c.lexemes ++ [.space] ++ negation negated ++
      [.word "LIKE", .space, .slot (.text pattern), .space, .word "ESCAPE", .space, .literal "\\"])
      (signed negated (.like c (.text pattern) "\\")) := by
  intro _ _ _
  cases negated <;> rfl

theorem reads_null (c : Column) (negated : Bool) :
    Reads (c.lexemes ++ [.space, .word "IS", .space] ++ negation negated ++ [.word "NULL"])
      (signed negated (.null c)) := by
  intro _ _ _
  cases negated <;> rfl

theorem slots_tokens (v : Scalar) (vs : List Scalar) :
    ∃ more, tokens (slots (v :: vs)) = .slot v :: more ∧ ∀ rest,
      Reader.slots (tokens (slots (v :: vs)) ++ .closing :: rest) = some (v :: vs, rest) := by
  induction vs generalizing v with
  | nil => exact ⟨[], rfl, fun rest => rfl⟩
  | cons w vs ih =>
    obtain ⟨more, -, hread⟩ := ih w
    have whole : tokens (slots (v :: w :: vs)) = .slot v :: .comma :: tokens (slots (w :: vs)) := by
      rw [slots, List.map_cons, List.map_cons, List.intercalate_cons_cons, tokens_append]
      rfl
    refine ⟨_, whole, fun rest => ?_⟩
    rw [whole]
    show (Reader.slots (tokens (slots (w :: vs)) ++ .closing :: rest)).map _ = _
    rw [hread]
    rfl

theorem reads_among (c : Column) (negated : Bool) {vs : List Scalar} (hne : vs ≠ []) :
    Reads (c.lexemes ++ [.space] ++ negation negated ++ [.word "IN", .space, .opening] ++
      slots vs ++ [.closing]) (signed negated (.among c vs)) := by
  intro depth rest _
  obtain ⟨v, vs, rfl⟩ := List.exists_cons_of_ne_nil hne
  obtain ⟨more, hmore, hread⟩ := slots_tokens v vs
  have hread := hread rest
  have list : Reader.affirmed (Reader.expr depth) c
      (.word "IN" :: .opening :: (tokens (slots (v :: vs)) ++ .closing :: rest)) =
      some (.among c (v :: vs), rest) := by
    rw [hmore] at hread ⊢
    show (Reader.slots (.slot v :: more ++ .closing :: rest)).map _ = _
    rw [hread]
    rfl
  simp only [tokens_append, List.append_assoc]
  cases negated with
  | false => exact list
  | true =>
    show (Reader.affirmed (Reader.expr depth) c
      (.word "IN" :: .opening :: (tokens (slots (v :: vs)) ++ .closing :: rest))).map _ = _
    rw [list]
    rfl

end Condition

-- ---------------------------------------------------------------------------
-- Phrases joined by AND
-- ---------------------------------------------------------------------------

theorem expr_of_factor (hfactor : Reader.factor (Reader.expr depth) ls = some (e, rest))
    (hrest : rest.head? ≠ some (.word "AND")) : Reader.expr (depth + 1) ls = some (e, rest) := by
  simp only [Reader.expr, hfactor, Option.bind_eq_bind, Option.bind_some]
  split
  · exact absurd rfl hrest
  · rfl

theorem expr_of_factor_and
    (hfactor : Reader.factor (Reader.expr depth) ls = some (e, .word "AND" :: more))
    (hmore : Reader.expr depth more = some (e', rest)) :
    Reader.expr (depth + 1) ls = some (.and e e', rest) := by
  rw [Reader.expr, hfactor]
  show (Reader.expr depth more).map _ = _
  rw [hmore]
  rfl

theorem expr_joined {phrases : List (List Lexeme)} (h : List.Forall₂ Reads phrases es)
    (hne : phrases ≠ []) {depth : Nat} (hdepth : (tokens (joined phrases)).length ≤ depth)
    (hrest : rest.head? ≠ some (.word "AND")) :
    ∃ e, allOf es = some e ∧
      Reader.expr depth (tokens (joined phrases) ++ rest) = some (e, rest) := by
  induction h generalizing depth with
  | nil => exact absurd rfl hne
  | @cons phrase e phrases es hphrase htail ih =>
    cases htail with
    | nil =>
      rw [joined_singleton] at hdepth ⊢
      refine ⟨e, rfl, ?_⟩
      cases depth with
      | zero =>
        have hread := hphrase 0 [] (by omega)
        rw [List.length_eq_zero_iff.mp (Nat.le_zero.mp hdepth)] at hread
        cases hread
      | succ depth => exact expr_of_factor (hphrase depth rest hdepth) hrest
    | @cons next e' phrases es hnext htail =>
      have whole : tokens (joined (phrase :: next :: phrases)) =
          tokens phrase ++ .word "AND" :: tokens (joined (next :: phrases)) := by
        rw [joined, List.intercalate_cons_cons, tokens_append, tokens_append, List.append_assoc]
        rfl
      rw [whole, List.length_append, List.length_cons] at hdepth
      cases depth with
      | zero => omega
      | succ depth =>
        obtain ⟨all, hall, hread⟩ := @ih (List.cons_ne_nil _ _) depth (by omega)
        refine ⟨.and e all, by rw [allOf, hall, Option.elim_some], ?_⟩
        rw [whole, List.append_assoc, List.cons_append]
        exact expr_of_factor_and (hphrase depth _ (by omega)) hread

theorem factor_not_group {inner : Reader Expr} (h : inner ls = some (e, .closing :: rest)) :
    Reader.factor inner (.word "NOT" :: .opening :: ls) = some (.not e, rest) := by
  simp [Reader.factor, h, Reader.skip]

theorem subquery_group {inner : Reader Expr} (h : inner ls = some (e, .closing :: rest))
    (c selected : Column) (source : TableRef) :
    Reader.factor inner (.word c.aliasName :: .dot :: .word c.name :: .word "IN" :: .opening ::
      .word "SELECT" :: .word selected.aliasName :: .dot :: .word selected.name :: .word "FROM" ::
      .word source.table :: .word source.aliasName :: .word "WHERE" :: ls) =
      some (.member c selected source e, rest) := by
  show Reader.subquery inner c _ = _
  simp [Reader.subquery, Reader.column, Reader.table, h, Reader.skip]

theorem Condition.reads_phrases {c : Condition} (filled : c.Filled) (d : Dialect) :
    List.Forall₂ Reads (c.phrases d) (c.exprs d) := by
  have range (c : Column) (first last : String) : List.Forall₂ Reads (rangePhrases d c first last)
      [.compare c .ge (d.dayComparand first), .compare c .lt (d.dayComparand last)] :=
    .cons (reads_boundPhrase d c .ge first) (.cons (reads_boundPhrase d c .lt last) .nil)
  cases c with
  | compare c op v => exact .cons (reads_compare c op v) .nil
  | bound c op day => exact .cons (reads_boundPhrase d c op day) .nil
  | within c first last => exact range c first last
  | outside c first last =>
    refine .cons (fun depth rest hdepth => ?_) .nil
    simp only [tokens_append, List.append_assoc, List.length_append] at hdepth ⊢
    have short : (tokens (joined (rangePhrases d c first last))).length ≤ depth := by
      have words : (tokens [Lexeme.word "NOT", .space, .opening]).length = 2 := rfl
      omega
    have hrest : (Lexeme.closing :: rest).head? ≠ some (.word "AND") := by simp
    obtain ⟨e, he, hread⟩ := expr_joined (range c first last) (List.cons_ne_nil _ _) short hrest
    obtain rfl : Expr.and _ _ = e := Option.some.inj he
    exact factor_not_group hread
  | like c negated pattern => exact .cons (reads_like c negated pattern) .nil
  | among c negated vs => exact .cons (reads_among c negated filled) .nil
  | null c negated => exact .cons (reads_null c negated) .nil

theorem reads_conditions {cs : List Condition} (h : ∀ c ∈ cs, c.Filled) (d : Dialect) :
    List.Forall₂ Reads (cs.flatMap (·.phrases d)) (cs.flatMap (·.exprs d)) := by
  induction cs with
  | nil => exact .nil
  | cons c cs ih =>
    have hc := c.reads_phrases (h c List.mem_cons_self) d
    exact List.rel_append hc (ih fun c hc => h c (List.mem_cons_of_mem _ hc))

theorem Condition.WellFormed.read_fragment {c : Condition} (wellFormed : c.WellFormed)
    (d : Dialect) : ∃ e, allOf (c.exprs d) = some e ∧ readExpr? (c.fragment d) = some e := by
  obtain ⟨regular, apart⟩ := legible_joined (c.legible_phrases wellFormed.column d)
  have hlex := lex_text regular apart
  obtain ⟨e, he, hread⟩ := expr_joined (c.reads_phrases wellFormed.filled d) (c.phrases_ne_nil d)
    (Nat.le_refl _) (show ([] : List Lexeme).head? ≠ _ by simp)
  rw [List.append_nil] at hread
  refine ⟨e, he, ?_⟩
  rw [readExpr?, fragment_eq_write]
  simp only [write, hlex, Option.bind_eq_bind, Option.bind_some, hread]
  rfl

theorem Predicate.WellFormed.reads_phrases {p : Predicate} (wellFormed : p.WellFormed)
    (d : Dialect) : List.Forall₂ Reads (p.phrases d) (p.exprs d) := by
  cases p with
  | plain c => exact c.reads_phrases wellFormed.filled d
  | headerMember foreignKey header conditions =>
    obtain ⟨-, -, hne, hconditions⟩ := wellFormed
    have inner := reads_conditions (fun c hc => (hconditions c hc).filled) d
    have hphrases : conditions.flatMap (·.phrases d) ≠ [] :=
      Text.flatMap_ne_nil hne fun c _ => c.phrases_ne_nil d
    obtain ⟨e, he, -⟩ := expr_joined inner hphrases (Nat.le_refl _)
      (show ([] : List Lexeme).head? ≠ _ by simp)
    rw [exprs, he]
    refine .cons (fun depth rest hdepth => ?_) .nil
    simp only [tokens_append, List.append_assoc, List.length_append] at hdepth ⊢
    have short : (tokens (joined (conditions.flatMap (·.phrases d)))).length ≤ depth := by
      have words : (tokens foreignKey.lexemes).length = 3 := rfl
      omega
    obtain ⟨e', he', hread⟩ := expr_joined inner hphrases short
      (show (Lexeme.closing :: rest).head? ≠ _ by simp)
    obtain rfl : e = e' := Option.some.inj (he.symm.trans he')
    exact subquery_group hread foreignKey (header.column primaryKey) header

theorem reads_predicates {ps : List Predicate} (h : ∀ p ∈ ps, p.WellFormed) (d : Dialect) :
    List.Forall₂ Reads (ps.flatMap (·.phrases d)) (ps.flatMap (·.exprs d)) := by
  induction ps with
  | nil => exact .nil
  | cons p ps ih =>
    have hp := (h p List.mem_cons_self).reads_phrases d
    exact List.rel_append hp (ih fun p hp => h p (List.mem_cons_of_mem _ hp))

-- ---------------------------------------------------------------------------
-- The whole statement
-- ---------------------------------------------------------------------------

namespace Plan

theorem columns_tokens (source : TableRef) (name : Identifier) (names : List Identifier)
    (more : List Lexeme) :
    Reader.items (tokens ([Lexeme.comma, .space].intercalate
      ((name :: names).map fun name => (source.column name.text).lexemes)) ++
        .word "FROM" :: more) =
      some ((name :: names).map fun name => .column (source.column name.text),
        .word "FROM" :: more) := by
  induction names generalizing name with
  | nil => rfl
  | cons next names ih =>
    have whole : tokens ([Lexeme.comma, .space].intercalate
        ((name :: next :: names).map fun name => (source.column name.text).lexemes)) =
        .word source.aliasName :: .dot :: .word name.text :: .comma ::
          tokens ([Lexeme.comma, .space].intercalate
            ((next :: names).map fun name => (source.column name.text).lexemes)) := by
      rw [List.map_cons, List.map_cons, List.intercalate_cons_cons, tokens_append, tokens_append]
      rfl
    rw [whole]
    simp only [List.cons_append, Reader.items, Reader.itemOf?, ih next]
    rfl

theorem items_tokens {p : Plan} (hne : p.select ≠ .columns []) (more : List Lexeme) :
    Reader.items (tokens ([Lexeme.comma, .space].intercalate p.selectLexemes) ++
      .word "FROM" :: more) = some (p.items, .word "FROM" :: more) := by
  unfold selectLexemes items
  cases h : p.select with
  | all => simp; rfl
  | columns names =>
    rw [h] at hne
    cases names with
    | nil => exact absurd rfl hne
    | cons name names => exact columns_tokens p.source name names more

theorem order_tokens (p : Plan) (rest : List Lexeme) :
    Reader.order (tokens p.orderLexemes ++ rest) = some (p.orderTree, rest) := by
  unfold orderLexemes orderTree
  cases p.order with
  | column name => rfl
  | headerLookup header foreignKey field => rfl

end Plan

namespace Compiled

theorem filter_tokens {c : Compiled} (wellFormed : c.WellFormed) (d : Dialect) {depth : Nat}
    (hdepth : (tokens (c.whereLexemes d)).length ≤ depth) (more : List Lexeme) :
    Reader.filter depth (tokens (c.whereLexemes d) ++ .word "ORDER" :: more) =
      some ((c.tree d).filter, .word "ORDER" :: more) := by
  have hreads := reads_predicates wellFormed.predicates d
  unfold whereLexemes tree at *
  cases hps : c.predicates with
  | nil => rfl
  | cons p ps =>
    rw [hps] at hdepth hreads
    have hne : (p :: ps).flatMap (·.phrases d) ≠ [] :=
      Text.flatMap_ne_nil (List.cons_ne_nil p ps) fun q _ => q.phrases_ne_nil d
    have short : (tokens (joined ((p :: ps).flatMap (·.phrases d)))).length ≤ depth := by
      simp only [List.isEmpty_cons, Bool.false_eq_true, if_false, tokens_append,
        List.length_append] at hdepth
      omega
    obtain ⟨e, he, hread⟩ := expr_joined hreads hne short
      (show (Lexeme.word "ORDER" :: more).head? ≠ _ by simp)
    rw [he]
    show (Reader.expr depth (tokens (joined ((p :: ps).flatMap (·.phrases d))) ++
      .word "ORDER" :: more)).map _ = _
    rw [hread]
    rfl

theorem select_tokens {c : Compiled} (wellFormed : c.WellFormed) (d : Dialect) :
    Reader.select (tokens (c.lexemes d)) = some (c.tree d, []) := by
  have whole : tokens (c.lexemes d) = .word "SELECT" ::
      (tokens ([Lexeme.comma, .space].intercalate c.plan.selectLexemes) ++ .word "FROM" ::
        .word c.plan.source.table :: .word c.plan.source.aliasName ::
        (tokens (c.whereLexemes d) ++ .word "ORDER" :: .word "BY" ::
          (tokens c.plan.orderLexemes ++ [.word c.plan.direction.keyword]))) := by
    simp only [lexemes, tokens_append, List.append_assoc]
    rfl
  have depth : (tokens (c.whereLexemes d)).length ≤ (tokens (c.lexemes d)).length := by
    rw [whole]
    simp only [List.length_cons, List.length_append]
    omega
  rw [whole] at depth ⊢
  have hdescending : Reader.descending [.word c.plan.direction.keyword] =
      some ((c.tree d).descending, []) := by
    unfold tree
    cases c.plan.direction <;> rfl
  simp only [Reader.select, Reader.skip, Reader.table, if_true, Option.bind_eq_bind,
    Option.bind_some, c.plan.items_tokens wellFormed.select, c.filter_tokens wellFormed d depth,
    c.plan.order_tokens, hdescending]
  rfl

theorem read_statement {c : Compiled} (wellFormed : c.WellFormed)
    (h : c.plan.filter = c.predicates.map (·.fragment d)) :
    read? c.statement = some (c.tree d) := by
  obtain ⟨regular, apart⟩ := wellFormed.legible d
  have hlex := lex_text regular apart
  rw [read?, statement_eq_write h]
  simp only [write, hlex, Option.bind_eq_bind, Option.bind_some, select_tokens wellFormed]
  rfl

end Compiled

end FilterSql.Query
