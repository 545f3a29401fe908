import FilterSql.Proofs.Query.Layout
import FilterSql.Proofs.Sql.Lexer

/-!
# Well-formed queries

A query is well formed if all its names are safe identifiers and no list in it is empty that the
text needs an element of. `Compiled.WellFormed.legible`: the lexemes of a well-formed query can be
read back from its text.
-/

namespace FilterSql.Query

open Sql

def Column.Safe (c : Column) : Prop :=
  isSafeIdentifier c.aliasName = true ∧ isSafeIdentifier c.name = true

def TableRef.Safe (t : TableRef) : Prop :=
  isSafeIdentifier t.table = true ∧ isSafeIdentifier t.aliasName = true

def OrderKey.Safe : OrderKey → Prop
  | column name => isSafeIdentifier name = true
  | headerLookup header foreignKey field =>
    header.Safe ∧ isSafeIdentifier foreignKey = true ∧ isSafeIdentifier field = true

/-- There is a value for the text to call for. -/
def Condition.Filled : Condition → Prop
  | among _ _ vs => vs ≠ []
  | _ => True

structure Condition.WellFormed (c : Condition) : Prop where
  column : c.column.Safe
  filled : c.Filled

def Predicate.WellFormed : Predicate → Prop
  | plain c => c.WellFormed
  | headerMember foreignKey header conditions =>
    foreignKey.Safe ∧ header.Safe ∧ conditions ≠ [] ∧ ∀ c ∈ conditions, c.WellFormed

structure Compiled.WellFormed (c : Compiled) : Prop where
  source : c.plan.source.Safe
  select : c.plan.select ≠ .columns []
  predicates : ∀ p ∈ c.predicates, p.WellFormed
  order : c.plan.order.Safe

theorem isSafeIdentifier_primaryKey : isSafeIdentifier primaryKey = true := by decide

theorem TableRef.Safe.column {t : TableRef} (safe : t.Safe) (h : isSafeIdentifier name = true) :
    (t.column name).Safe :=
  ⟨safe.2, h⟩

-- ---------------------------------------------------------------------------
-- Legible lexemes
-- ---------------------------------------------------------------------------

/-- The lexemes are what is read from their text. -/
structure Legible (ls : List Lexeme) : Prop where
  regular : Regular ls
  apart : Apart ls

theorem Column.Safe.regular {c : Column} (safe : c.Safe) : Regular c.lexemes := by
  simpa [lexemes, Lexeme.Regular, Safe] using safe

theorem TableRef.Safe.regular {t : TableRef} (safe : t.Safe) : Regular t.lexemes := by
  simpa [lexemes, Lexeme.Regular, Safe] using safe

theorem Dialect.regular_dayLexemes (d : Dialect) (day : String) : Regular (d.dayLexemes day) := by
  cases d <;> simp +decide [dayLexemes, Lexeme.Regular]

theorem legible_joined {phrases : List (List Lexeme)} (h : ∀ phrase ∈ phrases, Legible phrase) :
    Legible (joined phrases) := by
  refine ⟨regular_intercalate (by decide) fun p hp => (h p hp).regular, ?_⟩
  refine apart_intercalate (fun as bs has hbs => ?_) fun p hp => (h p hp).apart
  simpa [apart_append_cons, apart_cons_cons, apart_cons] using ⟨has, hbs⟩

theorem legible_slots (vs : List Scalar) : Legible (slots vs) := by
  have part : ∀ p ∈ vs.map fun v => [Lexeme.slot v], Legible p := by
    intro p hp
    obtain ⟨v, -, rfl⟩ := List.mem_map.mp hp
    exact ⟨by simp [Lexeme.Regular], apart_singleton _⟩
  refine ⟨regular_intercalate (by decide) fun p hp => (part p hp).regular, ?_⟩
  refine apart_intercalate (fun as bs has hbs => ?_) fun p hp => (part p hp).apart
  simpa [apart_append_cons, apart_cons] using ⟨has, hbs⟩

namespace Condition

theorem legible_boundPhrase {c : Column} (safe : c.Safe) (d : Dialect) (op : Comparison)
    (day : String) : Legible (boundPhrase d c op day) := by
  refine ⟨by simp [boundPhrase, safe.regular, Lexeme.Regular, d.regular_dayLexemes], ?_⟩
  cases d <;> simp [boundPhrase, Column.lexemes, Dialect.dayLexemes, apart_cons_cons, apart_cons]

theorem legible_rangePhrases {c : Column} (safe : c.Safe) (d : Dialect) (first last : String) :
    ∀ phrase ∈ rangePhrases d c first last, Legible phrase := by
  intro phrase h
  simp only [rangePhrases, List.mem_cons, List.not_mem_nil, or_false] at h
  rcases h with rfl | rfl
  · exact legible_boundPhrase safe d .ge first
  · exact legible_boundPhrase safe d .lt last

theorem regular_negation (negated : Bool) : Regular (negation negated) := by
  cases negated <;> decide

theorem legible_phrases {c : Condition} (safe : c.column.Safe) (d : Dialect) :
    ∀ phrase ∈ c.phrases d, Legible phrase := by
  intro phrase h
  cases c with
  | compare c op v =>
    obtain rfl := List.mem_singleton.mp h
    have hc : Regular c.lexemes := safe.regular
    exact ⟨by simp [hc, Lexeme.Regular], by simp [Column.lexemes, apart_cons_cons]⟩
  | bound c op day =>
    obtain rfl := List.mem_singleton.mp h
    exact legible_boundPhrase safe d op day
  | within c first last => exact legible_rangePhrases safe d first last phrase h
  | outside c first last =>
    obtain rfl := List.mem_singleton.mp h
    have inner : Legible (joined (rangePhrases d c first last)) :=
      legible_joined (legible_rangePhrases safe d first last)
    exact ⟨by simp +decide [inner.regular], by
      simp [inner.apart, apart_append_cons, apart_cons_cons, apart_cons]⟩
  | like c negated pattern =>
    obtain rfl := List.mem_singleton.mp h
    have hc : Regular c.lexemes := safe.regular
    refine ⟨by simp +decide [hc, regular_negation, Lexeme.Regular], ?_⟩
    cases negated <;> simp [Column.lexemes, negation, apart_cons_cons]
  | among c negated vs =>
    obtain rfl := List.mem_singleton.mp h
    have hc : Regular c.lexemes := safe.regular
    have hvs := legible_slots vs
    refine ⟨by simp +decide [hc, regular_negation, hvs.regular], ?_⟩
    cases negated <;>
      simp [Column.lexemes, negation, hvs.apart, apart_append_cons, apart_cons_cons, apart_cons]
  | null c negated =>
    obtain rfl := List.mem_singleton.mp h
    have hc : Regular c.lexemes := safe.regular
    refine ⟨by simp +decide [hc, regular_negation], ?_⟩
    cases negated <;> simp [Column.lexemes, negation, apart_cons_cons]

end Condition

theorem Predicate.WellFormed.legible {p : Predicate} (wellFormed : p.WellFormed) (d : Dialect) :
    ∀ phrase ∈ p.phrases d, Legible phrase := by
  intro phrase h
  cases p with
  | plain c => exact c.legible_phrases wellFormed.column d phrase h
  | headerMember foreignKey header conditions =>
    obtain rfl := List.mem_singleton.mp h
    obtain ⟨hkey, hheader, -, hconditions⟩ := wellFormed
    have inner : Legible (joined (conditions.flatMap (·.phrases d))) := by
      refine legible_joined fun phrase hphrase => ?_
      obtain ⟨c, hc, hphrase⟩ := List.mem_flatMap.mp hphrase
      exact c.legible_phrases (hconditions c hc).column d phrase hphrase
    have id := (hheader.column isSafeIdentifier_primaryKey).regular
    exact ⟨by simp +decide [hkey.regular, hheader.regular, id, inner.regular], by
      simp [Column.lexemes, TableRef.lexemes, inner.apart, apart_append_cons, apart_cons_cons,
        apart_cons]⟩

theorem Plan.legible_selectLexemes {p : Plan} (safe : p.source.Safe) :
    Legible ([Lexeme.comma, .space].intercalate p.selectLexemes) := by
  have part : ∀ item ∈ p.selectLexemes, Legible item := by
    intro item hitem
    unfold selectLexemes at hitem
    split at hitem
    · obtain rfl := List.mem_singleton.mp hitem
      exact ⟨by simp [safe.2, Lexeme.Regular], by simp [apart_cons_cons]⟩
    · obtain ⟨name, -, rfl⟩ := List.mem_map.mp hitem
      exact ⟨(safe.column name.safe).regular, by simp [Column.lexemes, apart_cons_cons]⟩
  refine ⟨regular_intercalate (by decide) fun item hitem => (part item hitem).regular, ?_⟩
  refine apart_intercalate (fun as bs has hbs => ?_) fun item hitem => (part item hitem).apart
  simpa [apart_append_cons, apart_cons] using ⟨has, hbs⟩

theorem Plan.legible_orderLexemes {p : Plan} (source : p.source.Safe) (order : p.order.Safe) :
    Legible p.orderLexemes := by
  unfold orderLexemes
  cases h : p.order with
  | column name =>
    rw [h] at order
    exact ⟨(source.column order).regular, by simp [Column.lexemes, apart_cons_cons]⟩
  | headerLookup header foreignKey field =>
    rw [h] at order
    obtain ⟨hheader, hkey, hfield⟩ := order
    have id := (hheader.column isSafeIdentifier_primaryKey).regular
    exact ⟨by simp +decide [hheader.regular, (hheader.column hfield).regular, id,
      (source.column hkey).regular], by
      simp [Column.lexemes, TableRef.lexemes, apart_cons_cons, apart_cons]⟩

theorem Compiled.WellFormed.legible {c : Compiled} (wellFormed : c.WellFormed) (d : Dialect) :
    Legible (c.lexemes d) := by
  have hselect := Plan.legible_selectLexemes wellFormed.source
  have horder := Plan.legible_orderLexemes wellFormed.source wellFormed.order
  have hsource := wellFormed.source.regular
  have hwhere : ∃ ls, Legible ls ∧ (c.whereLexemes d = [] ∨
      c.whereLexemes d = [.space, .word "WHERE", .space] ++ ls) := by
    refine ⟨joined (c.predicates.flatMap (·.phrases d)), legible_joined fun phrase h => ?_, ?_⟩
    · obtain ⟨p, hp, hphrase⟩ := List.mem_flatMap.mp h
      exact (wellFormed.predicates p hp).legible d phrase hphrase
    · unfold whereLexemes
      split
      · exact .inl rfl
      · exact .inr rfl
  have direction : isSafeIdentifier c.plan.direction.keyword = true := by
    cases c.plan.direction <;> decide
  obtain ⟨ls, hls, hnone | hsome⟩ := hwhere
  · rw [lexemes, hnone]
    exact ⟨by simp +decide [hselect.regular, hsource, horder.regular, direction, Lexeme.Regular], by
      simp [TableRef.lexemes, hselect.apart, horder.apart, apart_append_cons, apart_cons_cons]⟩
  · rw [lexemes, hsome]
    exact ⟨by simp +decide [hselect.regular, hsource, hls.regular, horder.regular, direction,
      Lexeme.Regular], by
      simp [TableRef.lexemes, hselect.apart, hls.apart, horder.apart, apart_append_cons,
        apart_cons_cons]⟩

end FilterSql.Query
