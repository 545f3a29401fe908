import FilterSql.Proofs.Sql.Lexeme
import Mathlib.Data.List.Chain

/-!
# Reading lexemes

`lex` splits SQL text into lexemes, spaces aside, and gives the `i`-th question mark the `i`-th of
the values. A word and a sign go on as far as they can. `lex_text`: what is written down from
lexemes is read back as the same lexemes, if no two words and no two signs of comparison stand next
to each other.
-/

namespace FilterSql.Sql

def isWordStart (c : Char) : Bool := c.isAlpha || c == '_'

def isWordPart (c : Char) : Bool := c.isAlphanum || c == '_'

/-- The sign that begins with a character, and how many characters behind that belong to it. -/
def sign? (c : Char) (next : Option Char) : Option (Lexeme × Nat) :=
  match c with
  | '.' => some (.dot, 0)
  | ',' => some (.comma, 0)
  | '(' => some (.opening, 0)
  | ')' => some (.closing, 0)
  | '*' => some (.star, 0)
  | '=' => some (.operator .eq, 0)
  | '!' => if next = some '=' then some (.operator .ne, 1) else none
  | '<' => if next = some '=' then some (.operator .le, 1) else some (.operator .lt, 0)
  | '>' => if next = some '=' then some (.operator .ge, 1) else some (.operator .gt, 0)
  | _ => none

/-- The lexemes of a text whose slots take the values, all of them, in their order. -/
def lex : List Char → List Query.Scalar → Option (List Lexeme)
  | [], values => if values.isEmpty then some [] else none
  | c :: cs, values =>
    if c = ' ' then lex cs values
    else if c = '?' then
      values.head?.bind fun v => (.slot v :: ·) <$> lex cs values.tail
    else if c = '\'' then
      if '\'' ∈ cs then
        (.literal (String.ofList (cs.takeWhile (· != '\''))) :: ·) <$>
          lex ((cs.dropWhile (· != '\'')).drop 1) values
      else none
    else if isWordStart c then
      (.word (String.ofList (c :: cs.takeWhile isWordPart)) :: ·) <$>
        lex (cs.dropWhile isWordPart) values
    else (sign? c cs.head?).bind fun s => (s.1 :: ·) <$> lex (cs.drop s.2) values
termination_by cs => cs.length
decreasing_by
  all_goals simp only [List.length_cons, List.length_drop]
  · omega
  · omega
  · have := (List.dropWhile_suffix (l := cs) (· != '\'')).length_le
    omega
  · have := (List.dropWhile_suffix (l := cs) isWordPart).length_le
    omega
  · omega

def tokens (ls : List Lexeme) : List Lexeme := ls.filter (· != .space)

@[simp] theorem tokens_append (as bs : List Lexeme) : tokens (as ++ bs) = tokens as ++ tokens bs :=
  List.filter_append ..

def Lexeme.Parted : Lexeme → Lexeme → Prop
  | word _, word _ | operator _, operator _ => False
  | _, _ => True

def Apart (ls : List Lexeme) : Prop := ls.IsChain Lexeme.Parted

-- ---------------------------------------------------------------------------
-- One lexeme
-- ---------------------------------------------------------------------------

/-- The text that follows cannot be taken for more of the lexeme. -/
def Lexeme.Ends (l : Lexeme) (rest : List Char) : Prop :=
  match l with
  | word _ => ∀ c ∈ rest.head?, isWordPart c = false
  | operator _ => rest.head? ≠ some '='
  | _ => True

/-- Only words begin like more of a word, and only signs of comparison like more of one. -/
theorem Lexeme.first_char {l : Lexeme} (regular : l.Regular) : ∃ c cs, l.text.toList = c :: cs ∧
    (isWordPart c = true → ∃ name, l = word name) ∧ (c = '=' → ∃ op, l = operator op) := by
  have sign (c : Char) (cs : List Char) (htext : l.text.toList = c :: cs)
      (h : isWordPart c = false ∧ c ≠ '=') : ∃ c cs, l.text.toList = c :: cs ∧
      (isWordPart c = true → ∃ name, l = word name) ∧ (c = '=' → ∃ op, l = operator op) :=
    ⟨c, cs, htext, fun hc => by simp [h.1] at hc, fun hc => absurd hc h.2⟩
  cases l with
  | word name =>
    obtain ⟨c, cs, hname, hc, -⟩ := Query.isSafeIdentifier_iff.mp regular
    refine ⟨c, cs, hname, fun _ => ⟨name, rfl⟩, ?_⟩
    rintro rfl
    exact absurd hc (by decide)
  | operator op =>
    have mark : ∃ c cs, (operator op).text.toList = c :: cs ∧ isWordPart c = false := by
      cases op <;> exact ⟨_, _, rfl, by decide⟩
    obtain ⟨c, cs, htext, hc⟩ := mark
    exact ⟨c, cs, htext, fun h => by simp [hc] at h, fun _ => ⟨op, rfl⟩⟩
  | literal content => exact sign '\'' _ (by simp [text]; rfl) (by decide)
  | space => exact sign ' ' [] (by decide) (by decide)
  | dot => exact sign '.' [] (by decide) (by decide)
  | comma => exact sign ',' [] (by decide) (by decide)
  | opening => exact sign '(' [] (by decide) (by decide)
  | closing => exact sign ')' [] (by decide) (by decide)
  | star => exact sign '*' [] (by decide) (by decide)
  | slot v => exact sign '?' [] (by simp [text]) (by decide)

theorem Lexeme.Parted.ends {a b : Lexeme} (h : a.Parted b) (regular : b.Regular)
    (rest : List Char) : a.Ends (b.text.toList ++ rest) := by
  obtain ⟨c, cs, htext, hword, hsign⟩ := b.first_char regular
  rw [htext, List.cons_append]
  cases a with
  | word name =>
    intro d hd
    obtain rfl : c = d := Option.some.inj hd
    refine Bool.eq_false_iff.mpr fun hc => ?_
    obtain ⟨other, rfl⟩ := hword hc
    exact h
  | operator op =>
    intro hc
    obtain ⟨other, rfl⟩ := hsign (Option.some.inj hc)
    exact h
  | _ => trivial

theorem lex_sign {l : Lexeme} (c : Char) (more : List Char) (htext : l.text.toList = c :: more)
    (h : c ≠ ' ' ∧ c ≠ '?' ∧ c ≠ '\'' ∧ isWordStart c = false)
    (hsign : sign? c (more ++ rest).head? = some (l, more.length)) (vs : List Query.Scalar) :
    lex (l.text.toList ++ rest) vs = (l :: ·) <$> lex rest vs := by
  obtain ⟨hspace, hslot, hquote, hword⟩ := h
  rw [htext, List.cons_append, lex, if_neg hspace, if_neg hslot, if_neg hquote, hword, hsign]
  simp

theorem lex_word {name : String} (safe : Query.isSafeIdentifier name = true)
    (ends : (Lexeme.word name).Ends rest) (vs : List Query.Scalar) :
    lex (name.toList ++ rest) vs = (.word name :: ·) <$> lex rest vs := by
  obtain ⟨c, cs, hname, hc, hcs⟩ := Query.isSafeIdentifier_iff.mp safe
  have start : isWordStart c = true := by
    simpa [isWordStart] using Query.isAlpha_of_isIdentifierStart hc
  have parts : ∀ d ∈ cs, isWordPart d = true := fun d hd => by
    simpa [isWordPart] using Query.isAlphanum_of_isIdentifierPart (hcs d hd)
  have stop : rest.takeWhile isWordPart = [] ∧ rest.dropWhile isWordPart = rest := by
    cases rest with
    | nil => exact ⟨rfl, rfl⟩
    | cons d ds =>
      have hd : isWordPart d = false := ends d rfl
      simp [hd]
  have other {d : Char} (h : isWordStart d = false) : c ≠ d := by
    rintro rfl
    rw [start] at h
    cases h
  rw [hname, List.cons_append, lex, if_neg (other (by decide)), if_neg (other (by decide)),
    if_neg (other (by decide)), if_pos start, List.takeWhile_append_of_pos parts,
    List.dropWhile_append_of_pos parts, stop.1, stop.2, List.append_nil, ← hname,
    String.ofList_toList]

theorem lex_literal {content : String} (h : '\'' ∉ content.toList) (rest : List Char)
    (vs : List Query.Scalar) :
    lex ('\'' :: (content.toList ++ '\'' :: rest)) vs =
      (.literal content :: ·) <$> lex rest vs := by
  have inside : ∀ c ∈ content.toList, (c != '\'') = true := fun c hc => by
    simpa using fun heq : c = '\'' => h (heq ▸ hc)
  rw [lex, if_neg (by decide), if_neg (by decide), if_pos rfl, if_pos (by simp),
    List.takeWhile_append_of_pos inside, List.dropWhile_append_of_pos inside]
  simp

theorem lex_operator {op : Query.Comparison} (ends : (Lexeme.operator op).Ends rest)
    (vs : List Query.Scalar) :
    lex ((Lexeme.operator op).text.toList ++ rest) vs = (.operator op :: ·) <$> lex rest vs := by
  have notEq : rest.head? ≠ some '=' := ends
  cases op with
  | eq => exact lex_sign '=' [] (by decide) (by decide) rfl vs
  | ne => exact lex_sign '!' ['='] (by decide) (by decide) rfl vs
  | lt => exact lex_sign '<' [] (by decide) (by decide) (if_neg notEq) vs
  | gt => exact lex_sign '>' [] (by decide) (by decide) (if_neg notEq) vs
  | le => exact lex_sign '<' ['='] (by decide) (by decide) rfl vs
  | ge => exact lex_sign '>' ['='] (by decide) (by decide) rfl vs

theorem lex_lexeme {l : Lexeme} (regular : l.Regular) (ends : l.Ends rest)
    (vs : List Query.Scalar) : lex (l.text.toList ++ rest) (l.value?.toList ++ vs) =
      (tokens [l] ++ ·) <$> lex rest vs := by
  cases l with
  | space =>
    have whole : lex (' ' :: rest) vs = lex rest vs := by rw [lex, if_pos rfl]
    simpa [Lexeme.text, Lexeme.value?, tokens] using whole
  | slot v =>
    have whole : lex ('?' :: rest) (v :: vs) = (.slot v :: ·) <$> lex rest vs := by
      rw [lex, if_neg (by decide), if_pos rfl]
      rfl
    simpa [Lexeme.text, Lexeme.value?, tokens] using whole
  | word name => exact lex_word regular ends vs
  | literal content =>
    have whole : (Lexeme.literal content).text.toList ++ rest =
        '\'' :: (content.toList ++ '\'' :: rest) := by
      simp [Lexeme.text]
    rw [whole]
    exact lex_literal regular.1 rest vs
  | operator op => exact lex_operator ends vs
  | dot => exact lex_sign '.' [] (by decide) (by decide) rfl vs
  | comma => exact lex_sign ',' [] (by decide) (by decide) rfl vs
  | opening => exact lex_sign '(' [] (by decide) (by decide) rfl vs
  | closing => exact lex_sign ')' [] (by decide) (by decide) rfl vs
  | star => exact lex_sign '*' [] (by decide) (by decide) rfl vs

theorem ends_text {l : Lexeme} (h : Apart (l :: ls)) (regular : Regular ls) :
    l.Ends (text ls).toList := by
  cases ls with
  | nil => cases l <;> simp [Lexeme.Ends]
  | cons m ls =>
    rw [text_cons, String.toList_append]
    exact (List.isChain_cons_cons.mp h).1.ends (regular m List.mem_cons_self) _

theorem lex_text {ls : List Lexeme} (regular : Regular ls) (apart : Apart ls) :
    lex (text ls).toList (values ls) = some (tokens ls) := by
  induction ls with
  | nil => rw [text_nil, values_nil, String.toList_empty, lex]; rfl
  | cons l ls ih =>
    have rest := regular_cons.mp regular
    have tail := ih rest.2 (List.IsChain.tail apart)
    rw [text_cons, String.toList_append, values_cons, lex_lexeme rest.1 (ends_text apart rest.2),
      tail]
    exact congrArg some (tokens_append [l] ls).symm

-- ---------------------------------------------------------------------------
-- Lexemes that keep others apart
-- ---------------------------------------------------------------------------

inductive Lexeme.Separates : Lexeme → Prop
  | space : Separates space
  | dot : Separates dot
  | comma : Separates comma
  | opening : Separates opening
  | closing : Separates closing
  | star : Separates star
  | literal (content : String) : Separates (literal content)
  | slot (value : Query.Scalar) : Separates (slot value)

attribute [simp] Lexeme.Separates.space Lexeme.Separates.dot Lexeme.Separates.comma
  Lexeme.Separates.opening Lexeme.Separates.closing Lexeme.Separates.star Lexeme.Separates.literal
  Lexeme.Separates.slot

theorem Lexeme.Separates.left {a : Lexeme} (h : a.Separates) (b : Lexeme) : a.Parted b := by
  cases h <;> trivial

theorem Lexeme.Separates.right {b : Lexeme} (h : b.Separates) (a : Lexeme) : a.Parted b := by
  cases h <;> cases a <;> trivial

@[simp] theorem apart_nil : Apart [] := .nil

@[simp] theorem apart_singleton (l : Lexeme) : Apart [l] := .singleton l

theorem apart_cons {a : Lexeme} (h : a.Separates) (ls : List Lexeme) :
    Apart (a :: ls) ↔ Apart ls :=
  List.isChain_cons.trans (and_iff_right fun b _ => h.left b)

theorem apart_append_cons {b : Lexeme} (h : b.Separates) (as ls : List Lexeme) :
    Apart (as ++ b :: ls) ↔ Apart as ∧ Apart ls := by
  refine List.isChain_append.trans (and_congr_right fun _ => ?_)
  rw [and_iff_left fun a _ c hc => ?_]
  · exact apart_cons h ls
  · obtain rfl : b = c := Option.some.inj hc
    exact h.right a

theorem apart_cons_cons {b : Lexeme} (h : b.Separates) (a : Lexeme) (ls : List Lexeme) :
    Apart (a :: b :: ls) ↔ Apart ls :=
  (apart_append_cons h [a] ls).trans (and_iff_right (apart_singleton a))

theorem apart_intercalate {sep : List Lexeme} {parts : List (List Lexeme)}
    (hsep : ∀ as bs, Apart as → Apart bs → Apart (as ++ sep ++ bs))
    (h : ∀ part ∈ parts, Apart part) : Apart (sep.intercalate parts) := by
  induction parts with
  | nil => exact apart_nil
  | cons part parts ih =>
    have hpart := h part List.mem_cons_self
    cases parts with
    | nil => simpa using hpart
    | cons next parts =>
      rw [List.intercalate_cons_cons]
      exact hsep _ _ hpart (ih fun p hp => h p (List.mem_cons_of_mem _ hp))

end FilterSql.Sql
