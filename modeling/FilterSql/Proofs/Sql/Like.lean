import FilterSql.Query.Fragment
import Mathlib.Data.List.DropRight
import Mathlib.Data.List.Infix

/-!
# What LIKE patterns match

`Like.matches?` gives patterns their meaning: `%` stands for any text, `_` for any character, and
the escape character makes the next one literal. The patterns of `LikePattern` match the texts in
which the given text stands where it should, whatever characters that text has.
`items?_eq_none_iff`: what is no pattern ends in an escape character that escapes nothing.
-/

namespace FilterSql.Sql.Like

open Query.LikePattern

inductive Item where
  | any
  | one
  | char (c : Char)
  deriving DecidableEq, Repr

def itemOf (c : Char) : Item := if c = '%' then .any else if c = '_' then .one else .char c

/-- The items of a pattern, unless it ends in an escape character. With `escaped` the first
character is literal. -/
def items? (escape : Char) (escaped : Bool) : List Char → Option (List Item)
  | [] => if escaped then none else some []
  | c :: cs =>
    if escaped then (.char c :: ·) <$> items? escape false cs
    else if c = escape then items? escape true cs
    else (itemOf c :: ·) <$> items? escape false cs

def matchesItems : List Item → List Char → Bool
  | [], text => text.isEmpty
  | .any :: rest, text => text.tails.any (matchesItems rest)
  | .one :: rest, text =>
    match text with
    | [] => false
    | _ :: cs => matchesItems rest cs
  | .char c :: rest, text =>
    match text with
    | [] => false
    | d :: ds => c == d && matchesItems rest ds

def matches? (escape : Char) (pattern text : String) : Option Bool :=
  (items? escape false pattern.toList).map (matchesItems · text.toList)

-- ---------------------------------------------------------------------------
-- Literal text in a pattern
-- ---------------------------------------------------------------------------

theorem items?_cons_of_not_meta {c : Char} (h : isMeta c = false) (rest : List Char) :
    items? '\\' false (c :: rest) = (.char c :: ·) <$> items? '\\' false rest := by
  simp only [isMeta, Bool.or_eq_false_iff, decide_eq_false_iff_not] at h
  simp [items?, itemOf, h]

theorem items?_any (rest : List Char) :
    items? '\\' false ('%' :: rest) = (.any :: ·) <$> items? '\\' false rest := rfl

theorem items?_escapeChars (cs rest : List Char) :
    items? '\\' false (escapeChars cs ++ rest) =
      (cs.map .char ++ ·) <$> items? '\\' false rest := by
  induction cs with
  | nil => simp [escapeChars]
  | cons c cs ih =>
    have step : items? '\\' false (escapeChars (c :: cs) ++ rest) =
        (.char c :: ·) <$> items? '\\' false (escapeChars cs ++ rest) := by
      rw [escapeChars, List.flatMap_cons]
      split
      · simp [items?, escapeChars]
      · rename_i hmeta
        exact items?_cons_of_not_meta (by simpa using hmeta) _
    rw [step, ih]
    cases items? '\\' false rest <;> rfl

theorem items?_containing (s : String) :
    items? '\\' false (containing s).toList = some (.any :: (s.toList.map .char ++ [.any])) := by
  have whole : (containing s).toList = '%' :: (escapeChars s.toList ++ ['%']) := by
    simp [containing, escape]
  rw [whole, items?_any, items?_escapeChars]
  rfl

theorem items?_startingWith (s : String) :
    items? '\\' false (startingWith s).toList = some (s.toList.map .char ++ [.any]) := by
  have whole : (startingWith s).toList = escapeChars s.toList ++ ['%'] := by
    simp [startingWith, escape]
  rw [whole, items?_escapeChars]
  rfl

theorem items?_endingWith (s : String) :
    items? '\\' false (endingWith s).toList = some (.any :: s.toList.map .char) := by
  have whole : (endingWith s).toList = '%' :: (escapeChars s.toList ++ []) := by
    simp [endingWith, escape]
  rw [whole, items?_any, items?_escapeChars]
  simp [items?]

-- ---------------------------------------------------------------------------
-- Matching
-- ---------------------------------------------------------------------------

theorem matchesItems_any {items : List Item} {text : List Char} :
    matchesItems (.any :: items) text = true ↔
      ∃ rest, rest <:+ text ∧ matchesItems items rest = true := by
  simp [matchesItems]

theorem matchesItems_any_nil (text : List Char) : matchesItems [.any] text = true :=
  matchesItems_any.mpr ⟨[], List.nil_suffix, rfl⟩

theorem matchesItems_chars {cs : List Char} {items : List Item} {text : List Char} :
    matchesItems (cs.map .char ++ items) text = true ↔
      ∃ rest, text = cs ++ rest ∧ matchesItems items rest = true := by
  induction cs generalizing text with
  | nil => simp
  | cons c cs ih =>
    cases text with
    | nil => simp [matchesItems]
    | cons d ds =>
      simp only [List.map_cons, List.cons_append, matchesItems, Bool.and_eq_true, beq_iff_eq, ih,
        List.cons.injEq]
      constructor
      · rintro ⟨rfl, rest, rfl, hrest⟩
        exact ⟨rest, ⟨rfl, rfl⟩, hrest⟩
      · rintro ⟨rest, ⟨rfl, rfl⟩, hrest⟩
        exact ⟨rfl, rest, rfl, hrest⟩

theorem matches?_containing (s text : String) :
    matches? '\\' (containing s) text = some (decide (s.toList <:+: text.toList)) := by
  rw [matches?, items?_containing, Option.map_some, Option.some.injEq, Bool.eq_iff_iff,
    decide_eq_true_iff, matchesItems_any]
  constructor
  · rintro ⟨tail, ⟨front, hfront⟩, htail⟩
    obtain ⟨rest, rfl, -⟩ := matchesItems_chars.mp htail
    exact ⟨front, rest, by rw [← hfront, List.append_assoc]⟩
  · rintro ⟨front, rest, htext⟩
    refine ⟨s.toList ++ rest, ⟨front, by rw [← htext, List.append_assoc]⟩, ?_⟩
    exact matchesItems_chars.mpr ⟨rest, rfl, matchesItems_any_nil rest⟩

theorem matches?_startingWith (s text : String) :
    matches? '\\' (startingWith s) text = some (decide (s.toList <+: text.toList)) := by
  rw [matches?, items?_startingWith, Option.map_some, Option.some.injEq, Bool.eq_iff_iff,
    decide_eq_true_iff, matchesItems_chars]
  constructor
  · rintro ⟨rest, htext, -⟩
    exact ⟨rest, htext.symm⟩
  · rintro ⟨rest, htext⟩
    exact ⟨rest, htext.symm, matchesItems_any_nil rest⟩

theorem matches?_endingWith (s text : String) :
    matches? '\\' (endingWith s) text = some (decide (s.toList <:+ text.toList)) := by
  rw [matches?, items?_endingWith, Option.map_some, Option.some.injEq, Bool.eq_iff_iff,
    decide_eq_true_iff, matchesItems_any]
  have exactly (rest : List Char) :
      matchesItems (s.toList.map .char) rest = true ↔ rest = s.toList := by
    have whole : matchesItems (s.toList.map .char ++ []) rest = true ↔ _ := matchesItems_chars
    simpa [matchesItems] using whole
  simp only [exactly]
  constructor
  · rintro ⟨_, hsuffix, rfl⟩
    exact hsuffix
  · intro hsuffix
    exact ⟨s.toList, hsuffix, rfl⟩

-- ---------------------------------------------------------------------------
-- Escape characters at the end
-- ---------------------------------------------------------------------------

/-- The escape characters at the end are an odd number, so that the last of them escapes nothing. -/
def Dangling (escape : Char) (pattern : String) : Prop :=
  (pattern.toList.rtakeWhile (· = escape)).length % 2 = 1

/-- What follows is read with its first character escaped if what comes before is no pattern. -/
theorem items?_append_eq_none_iff (escape : Char) (escaped : Bool) (cs ds : List Char) :
    items? escape escaped (cs ++ ds) = none ↔
      items? escape (items? escape escaped cs).isNone ds = none := by
  induction cs generalizing escaped with
  | nil => cases escaped <;> simp [items?]
  | cons c cs ih =>
    cases escaped with
    | true => simp [items?, ih]
    | false =>
      by_cases hc : c = escape
      · simp [items?, hc, ih]
      · simp [items?, hc, ih]

theorem items?_singleton_eq_none_iff (escape : Char) (escaped : Bool) (c : Char) :
    items? escape escaped [c] = none ↔ escaped = false ∧ c = escape := by
  cases escaped with
  | true => simp [items?]
  | false => by_cases hc : c = escape <;> simp [items?, hc]

theorem items?_eq_none_iff (escape : Char) (pattern : String) :
    items? escape false pattern.toList = none ↔ Dangling escape pattern := by
  unfold Dangling
  generalize pattern.toList = cs
  induction cs using List.reverseRecOn with
  | nil => simp [items?]
  | append_singleton cs c ih =>
    rw [items?_append_eq_none_iff, items?_singleton_eq_none_iff, Option.isNone_eq_false_iff,
      Option.isSome_iff_ne_none, ne_eq, ih, List.rtakeWhile_concat]
    by_cases hc : c = escape
    · simp [hc]
      omega
    · simp [hc]

theorem not_dangling_of_matches? {escape : Char} (h : matches? escape pattern text = some b) :
    ¬ Dangling escape pattern := by
  rw [← items?_eq_none_iff]
  intro unread
  rw [matches?, unread] at h
  cases h

end FilterSql.Sql.Like
