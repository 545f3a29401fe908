import FilterSql.Proofs.Query.Identifier
import FilterSql.Proofs.Text.Joined
import FilterSql.Query.Condition

/-!
# Lexemes

SQL text as the sequence of its words, signs, literals and spaces, in which every placeholder stands
together with the value that is meant for it. `write` gives the text and, beside it, the values from
left to right. `balanced_write` and `slot_of_text` say that the two stay in step: the `i`-th
question mark of the text is the place of the `i`-th value.
-/

namespace FilterSql.Sql

open Query

inductive Lexeme where
  | space
  | word (name : String)
  | dot
  | comma
  | opening
  | closing
  | star
  | operator (op : Comparison)
  | literal (content : String)
  /-- A placeholder and the value that is meant for it. -/
  | slot (value : Scalar)
  deriving DecidableEq

namespace Lexeme

def text : Lexeme → String
  | space => " "
  | word name => name
  | dot => "."
  | comma => ","
  | opening => "("
  | closing => ")"
  | star => "*"
  | operator op => op.symbol
  | literal content => "'" ++ content ++ "'"
  | slot _ => "?"

def value? : Lexeme → Option Scalar
  | slot value => some value
  | _ => none

/-- Words are identifiers, and a literal ends only where it should. -/
def Regular : Lexeme → Prop
  | word name => isSafeIdentifier name = true
  | literal content => '\'' ∉ content.toList ∧ '?' ∉ content.toList
  | _ => True

instance (l : Lexeme) : Decidable l.Regular := by
  cases l <;> unfold Regular <;> infer_instance

theorem not_mem_text {l : Lexeme} (regular : l.Regular) (h : l.value? = none) :
    '?' ∉ l.text.toList := by
  cases l with
  | word name => exact not_mem_of_isSafeIdentifier regular (by decide)
  | operator op => cases op <;> decide
  | literal content =>
    simp only [text, String.toList_append, List.mem_append, not_or]
    exact ⟨⟨by decide, regular.2⟩, by decide⟩
  | slot value => cases h
  | _ => decide

end Lexeme

def text : List Lexeme → String
  | [] => ""
  | l :: ls => l.text ++ text ls

def values (ls : List Lexeme) : List Scalar := ls.filterMap Lexeme.value?

def write (ls : List Lexeme) : Fragment := ⟨text ls, values ls⟩

@[simp] theorem text_nil : text [] = "" := rfl

@[simp] theorem text_cons (l : Lexeme) (ls : List Lexeme) : text (l :: ls) = l.text ++ text ls :=
  rfl

@[simp] theorem text_append (as bs : List Lexeme) : text (as ++ bs) = text as ++ text bs := by
  induction as with
  | nil => simp
  | cons a as ih => simp [ih, String.append_assoc]

@[simp] theorem values_append (as bs : List Lexeme) : values (as ++ bs) = values as ++ values bs :=
  List.filterMap_append

@[simp] theorem values_nil : values [] = [] := rfl

@[simp] theorem values_cons (l : Lexeme) (ls : List Lexeme) :
    values (l :: ls) = l.value?.toList ++ values ls := by
  cases h : l.value? <;> simp [values, h]

theorem text_intercalate (sep : List Lexeme) (parts : List (List Lexeme)) :
    text (sep.intercalate parts) = (text sep).intercalate (parts.map text) := by
  induction parts with
  | nil => rfl
  | cons part parts ih =>
    cases parts with
    | nil => simp
    | cons next parts =>
      rw [List.intercalate_cons_cons, text_append, text_append, ih]
      simp

theorem values_intercalate {sep : List Lexeme} (h : values sep = []) (parts : List (List Lexeme)) :
    values (sep.intercalate parts) = parts.flatMap values := by
  induction parts with
  | nil => rfl
  | cons part parts ih =>
    cases parts with
    | nil => simp
    | cons next parts =>
      rw [List.intercalate_cons_cons, values_append, values_append, ih, h]
      simp

-- ---------------------------------------------------------------------------
-- Regular sequences
-- ---------------------------------------------------------------------------

def Regular (ls : List Lexeme) : Prop := ∀ l ∈ ls, l.Regular

instance (ls : List Lexeme) : Decidable (Regular ls) := by
  unfold Regular
  infer_instance

@[simp] theorem regular_nil : Regular [] := List.forall_mem_nil _

@[simp] theorem regular_cons {l : Lexeme} {ls : List Lexeme} :
    Regular (l :: ls) ↔ l.Regular ∧ Regular ls :=
  List.forall_mem_cons

@[simp] theorem regular_append {as bs : List Lexeme} :
    Regular (as ++ bs) ↔ Regular as ∧ Regular bs :=
  List.forall_mem_append

theorem regular_intercalate {sep : List Lexeme} {parts : List (List Lexeme)} (hsep : Regular sep)
    (h : ∀ part ∈ parts, Regular part) : Regular (sep.intercalate parts) := by
  intro l hl
  rcases Text.mem_intercalate hl with hl | ⟨part, hpart, hl⟩
  · exact hsep l hl
  · exact h part hpart l hl

-- ---------------------------------------------------------------------------
-- Question marks and values
-- ---------------------------------------------------------------------------

theorem placeholders_lexeme {l : Lexeme} (regular : l.Regular) :
    Fragment.placeholders l.text = l.value?.toList.length := by
  cases h : l.value? with
  | none => exact List.count_eq_zero.mpr (l.not_mem_text regular h)
  | some v =>
    cases l with
    | slot value => exact show Fragment.placeholders "?" = 1 by decide
    | _ => cases h

theorem balanced_write {ls : List Lexeme} (regular : Regular ls) :
    (write ls).Balanced := by
  show Fragment.placeholders (text ls) = (values ls).length
  induction ls with
  | nil => rfl
  | cons l ls ih =>
    have rest := ih fun m hm => regular m (List.mem_cons_of_mem _ hm)
    rw [text_cons, Fragment.placeholders_append, values_cons, List.length_append, rest,
      placeholders_lexeme (regular l List.mem_cons_self)]

theorem slot_of_text {ls : List Lexeme} (regular : Regular ls)
    (h : (text ls).toList = before ++ '?' :: after) :
    ∃ front v back, ls = front ++ .slot v :: back ∧
      (text front).toList = before ∧ (text back).toList = after := by
  induction ls generalizing before with
  | nil =>
    have := congrArg List.length h
    simp at this
  | cons l ls ih =>
    replace ih {before} := @ih before fun m hm => regular m (List.mem_cons_of_mem _ hm)
    rw [text_cons, String.toList_append] at h
    cases hl : l.value? with
    | none =>
      have hfree := l.not_mem_text (regular l List.mem_cons_self) hl
      obtain ⟨middle, rfl, hrest⟩ | ⟨middle, hwhole, hrest⟩ := List.append_eq_append_iff.mp h
      · obtain ⟨front, v, back, rfl, hfront, hback⟩ := ih hrest
        exact ⟨l :: front, v, back, rfl, by simp [hfront], hback⟩
      · cases middle with
        | nil =>
          obtain ⟨front, v, back, rfl, hfront, hback⟩ := @ih [] hrest.symm
          exact ⟨l :: front, v, back, rfl, by simp [hfront, hwhole], hback⟩
        | cons c middle =>
          obtain ⟨rfl, -⟩ := List.cons.inj hrest
          exact absurd (by simp [hwhole]) hfree
    | some v =>
      cases l with
      | slot v =>
        have mark : (Lexeme.slot v).text.toList = ['?'] := by simp [Lexeme.text]
        rw [mark, List.singleton_append] at h
        cases before with
        | nil => exact ⟨[], v, ls, rfl, rfl, (List.cons.inj h).2⟩
        | cons c before =>
          obtain ⟨rfl, hrest⟩ := List.cons.inj h
          obtain ⟨front, w, back, rfl, hfront, hback⟩ := ih hrest
          exact ⟨.slot v :: front, w, back, rfl, by simp [hfront, Lexeme.text], hback⟩
      | _ => cases hl

/-- The value of the slot that a question mark stands for has the same number among the values as
the question mark has in the text. -/
theorem value_of_text {ls : List Lexeme} (regular : Regular ls)
    (h : text ls = before ++ "?" ++ after) :
    ∃ front v back, ls = front ++ .slot v :: back ∧ text front = before ∧ text back = after ∧
      (values ls)[Fragment.placeholders before]? = some v := by
  have hchars : (text ls).toList = before.toList ++ '?' :: after.toList := by simp [h]
  obtain ⟨front, v, back, rfl, hfront, hback⟩ := slot_of_text regular hchars
  have hfront := String.toList_inj.mp hfront
  have hcount : Fragment.placeholders before = (values front).length := by
    rw [← hfront]
    exact balanced_write fun l hl => regular l (List.mem_append_left _ hl)
  refine ⟨front, v, back, rfl, hfront, String.toList_inj.mp hback, ?_⟩
  rw [values_append, values_cons, hcount, List.getElem?_append_right (Nat.le_refl _), Nat.sub_self]
  rfl

end FilterSql.Sql
