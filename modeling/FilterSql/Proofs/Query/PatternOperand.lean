import FilterSql.Proofs.Query.OperatorKind
import FilterSql.Proofs.Sql.Like
import FilterSql.Proofs.Text.Replacement

/-!
# Texts looked for in texts

`Term.pattern_literal`: the operators that look for a text bind a pattern that matches this text
literally, in the place that the operator asks for. Escaping is undone by `LikePattern.unescape`,
and is the same as three replacements one after the other, the backslash first.
-/

namespace FilterSql.Query

open Sql Text

namespace LikePattern

/-- Takes a backslash away and leaves the character behind it. -/
def unescapeChars : List Char → List Char
  | '\\' :: c :: cs => c :: unescapeChars cs
  | c :: cs => c :: unescapeChars cs
  | [] => []

def unescape (s : String) : String := String.ofList (unescapeChars s.toList)

theorem unescapeChars_cons {c : Char} (h : c ≠ '\\') (cs : List Char) :
    unescapeChars (c :: cs) = c :: unescapeChars cs := by
  rw [unescapeChars]
  rintro d ds rfl
  exact absurd rfl h

theorem unescapeChars_escapeChars (cs : List Char) : unescapeChars (escapeChars cs) = cs := by
  induction cs with
  | nil => rfl
  | cons c cs ih =>
    rw [escapeChars, List.flatMap_cons]
    split
    · exact congrArg (c :: ·) ih
    · rename_i hmeta
      have plain : c ≠ '\\' := by
        rintro rfl
        exact hmeta rfl
      exact (unescapeChars_cons plain _).trans (congrArg (c :: ·) ih)

theorem unescape_escape (s : String) : unescape (escape s) = s := by
  rw [unescape, escape, String.toList_ofList, unescapeChars_escapeChars, String.ofList_toList]

theorem escape_injective : Function.Injective escape :=
  Function.LeftInverse.injective unescape_escape

/-- The backslash has to be replaced first, since the others are replaced with one. -/
theorem escape_eq_replace (s : String) :
    escape s = replace "_" "\\_" (replace "%" "\\%" (replace "\\" "\\\\" s)) := by
  have one (c : Char) : (if isMeta c then ['\\', c] else [c]) =
      ((if c = '\\' then ['\\', '\\'] else [c]).flatMap fun d =>
        if d = '%' then ['\\', '%'] else [d]).flatMap fun d =>
        if d = '_' then ['\\', '_'] else [d] := by
    by_cases hslash : c = '\\'
    · subst hslash
      decide
    · by_cases hpercent : c = '%'
      · subst hpercent
        decide
      · by_cases hline : c = '_'
        · subst hline
          decide
        · simp [isMeta, hslash, hpercent, hline]
  simp [escape, escapeChars, replace, replaceAll_singleton, List.flatMap_assoc, one]

end LikePattern

namespace Term

/-- The condition of a term is a LIKE with one pattern, which the keyword negates or not. -/
def BindsPattern (config : Config) (aliasName : String) (t : Term) (keyword pattern : String) :
    Prop :=
  ∃ c, t.condition config aliasName = .ok c ∧ c.fragment config.dialect =
    ⟨aliasName ++ "." ++ t.field.text ++ " " ++ keyword ++ " ? ESCAPE '\\'", [.text pattern]⟩

theorem bindsPattern_of_kind {place : Place} (config : Config) (aliasName : String) {t : Term}
    (hop : t.op.kind = .text place negated) (hv : t.value = some v) :
    t.BindsPattern config aliasName (if negated then "NOT LIKE" else "LIKE")
      (place.pattern v.display) := by
  refine ⟨.like ⟨aliasName, t.field.text⟩ negated (place.pattern v.display), ?_, ?_⟩
  · rw [condition_eq, hop, conditionOfKind, scalarOperand, hv]
    rfl
  · cases negated <;> simp [Condition.fragment, Column.sql, ← String.toList_inj]

/-- The operators that look for a text bind a pattern that matches the text literally, whatever
characters it has. No pattern ends in a backslash that escapes nothing, and escaping loses
nothing. -/
theorem pattern_literal (config : Config) (aliasName : String) (t : Term) (v : Scalar) :
    (({ t with op := .contains, value := some v } : Term).BindsPattern config aliasName "LIKE"
        (LikePattern.containing v.display) ∧
      ({ t with op := .notContains, value := some v } : Term).BindsPattern config aliasName
        "NOT LIKE" (LikePattern.containing v.display) ∧
      ∀ s, Like.matches? '\\' (LikePattern.containing v.display) s =
        some (decide (v.display.toList <:+: s.toList))) ∧
    (({ t with op := .startsWith, value := some v } : Term).BindsPattern config aliasName "LIKE"
        (LikePattern.startingWith v.display) ∧
      ∀ s, Like.matches? '\\' (LikePattern.startingWith v.display) s =
        some (decide (v.display.toList <+: s.toList))) ∧
    (({ t with op := .endsWith, value := some v } : Term).BindsPattern config aliasName "LIKE"
        (LikePattern.endingWith v.display) ∧
      ∀ s, Like.matches? '\\' (LikePattern.endingWith v.display) s =
        some (decide (v.display.toList <:+ s.toList))) ∧
    (∀ place : Place, ¬ Like.Dangling '\\' (place.pattern v.display)) ∧
    (∀ s, LikePattern.escape s = replace "_" "\\_" (replace "%" "\\%" (replace "\\" "\\\\" s)) ∧
      LikePattern.unescape (LikePattern.escape s) = s) ∧
    Function.Injective LikePattern.escape := by
  have binds (op : Operator) (place : Place) (negated : Bool)
      (hop : op.kind = .text place negated) :
      ({ t with op, value := some v } : Term).BindsPattern config aliasName
        (if negated then "NOT LIKE" else "LIKE") (place.pattern v.display) :=
    bindsPattern_of_kind config aliasName hop rfl
  refine ⟨⟨binds .contains .anywhere false rfl, binds .notContains .anywhere true rfl, ?_⟩,
    ⟨binds .startsWith .atStart false rfl, ?_⟩, ⟨binds .endsWith .atEnd false rfl, ?_⟩,
    fun place => ?_, fun s => ⟨LikePattern.escape_eq_replace s, LikePattern.unescape_escape s⟩,
    LikePattern.escape_injective⟩
  · exact Like.matches?_containing v.display
  · exact Like.matches?_startingWith v.display
  · exact Like.matches?_endingWith v.display
  · cases place with
    | anywhere => exact Like.not_dangling_of_matches? (Like.matches?_containing v.display "")
    | atStart => exact Like.not_dangling_of_matches? (Like.matches?_startingWith v.display "")
    | atEnd => exact Like.not_dangling_of_matches? (Like.matches?_endingWith v.display "")

/-- Without escaping, the operand would be found in a text that does not contain it. -/
example : Like.matches? '\\' (LikePattern.containing "5%\\_") "a 5%\\_ b" = some true ∧
    Like.matches? '\\' (LikePattern.containing "5%\\_") "a 50_ b" = some false ∧
    Like.matches? '\\' "%5%\\_%" "a 50_ b" = some true := by
  decide +kernel

end Term

end FilterSql.Query
