import Mathlib.Data.List.TakeDrop
import FilterSql.Json.Token

/-!
# Lexing

A token takes up at least one character (`length_lt_of_next?`), so the count that bounds `lexUpTo`
never cuts a text short, and the tokens of a text can be taken off one after another
(`lexChars_of_next?`). The bytes of a text have the tokens of the text (`ofBytes_toUTF8`).
-/

namespace FilterSql.Json.Token

open Text

variable {cs rest : List Char}

-- ---------------------------------------------------------------------------
-- What a token takes up
-- ---------------------------------------------------------------------------

theorem length_lt_of_stringBody {pieces : List Piece} (h : stringBody cs = some (pieces, rest)) :
    rest.length < cs.length := by
  fun_induction stringBody cs generalizing pieces rest with
  | case1 => cases h
  | case2 => cases h; exact Nat.lt_succ_self _
  | case3 a b c d after ih =>
    obtain ⟨_, -, onward⟩ := Option.bind_eq_some_iff.mp h
    obtain ⟨⟨more, left⟩, found, same⟩ := Option.bind_eq_some_iff.mp onward
    cases same
    have shorter := ih found
    simp only [List.length_cons]
    omega
  | case4 letter after _ ih =>
    obtain ⟨_, -, onward⟩ := Option.bind_eq_some_iff.mp h
    obtain ⟨⟨more, left⟩, found, same⟩ := Option.bind_eq_some_iff.mp onward
    cases same
    have shorter := ih found
    simp only [List.length_cons]
    omega
  | case5 => cases h
  | case6 c after =>
    rename_i ih
    obtain ⟨⟨more, left⟩, found, same⟩ := Option.bind_eq_some_iff.mp h
    cases same
    exact Nat.lt_succ_of_lt (ih found)

theorem length_lt_of_digits? {ds : List Char} (h : digits? cs = some (ds, rest)) :
    rest.length < cs.length := by
  have parts := List.takeWhile_append_dropWhile (p := isAsciiDigit) (l := cs)
  rw [digits?, List.span_eq_takeWhile_dropWhile] at h
  cases taken : cs.takeWhile isAsciiDigit with
  | nil => simp [taken] at h
  | cons d more =>
    simp only [taken, Option.some.injEq, Prod.mk.injEq] at h
    obtain ⟨-, rfl⟩ := h
    rw [← congrArg List.length parts, taken, List.length_append, List.length_cons]
    omega

theorem length_lt_of_whole? {ds : List Char} (h : whole? cs = some (ds, rest)) :
    rest.length < cs.length := by
  unfold whole? at h
  split at h
  · split at h
    · cases h
    · cases h; exact Nat.lt_succ_self _
  · exact length_lt_of_digits? h

theorem length_le_of_fraction? {f : Option (List Char)} (h : fraction? cs = some (f, rest)) :
    rest.length ≤ cs.length := by
  unfold fraction? at h
  split at h
  · obtain ⟨⟨ds, left⟩, found, same⟩ := Option.map_eq_some_iff.mp h
    cases same
    exact Nat.le_succ_of_le (Nat.le_of_lt (length_lt_of_digits? found))
  · cases h; exact Nat.le_refl _

theorem length_le_of_exponent? {e : Option (Bool × List Char)}
    (h : exponent? cs = some (e, rest)) : rest.length ≤ cs.length := by
  have taken {negative : Bool} {after : List Char}
      (h : (digits? after).map (fun found => (some (negative, found.1), found.2)) = some (e, rest)) :
      rest.length < after.length := by
    obtain ⟨⟨ds, left⟩, found, same⟩ := Option.map_eq_some_iff.mp h
    cases same
    exact length_lt_of_digits? found
  unfold exponent? at h
  split at h
  · dsimp only at h
    split at h <;> (have shorter := taken h; simp only [List.length_cons] at shorter ⊢; omega)
  · dsimp only at h
    split at h <;> (have shorter := taken h; simp only [List.length_cons] at shorter ⊢; omega)
  · cases h; exact Nat.le_refl _

theorem length_lt_of_number? {t : NumberText} (h : number? cs = some (t, rest)) :
    rest.length < cs.length := by
  simp only [number?, Option.bind_eq_bind, Option.bind_eq_some_iff, Option.some.injEq,
    Prod.mk.injEq] at h
  obtain ⟨⟨ds, afterWhole⟩, whole, ⟨f, afterFraction⟩, fraction, ⟨e, left⟩, exponent, -, rfl⟩ := h
  have unsigned := Nat.lt_of_le_of_lt (length_le_of_exponent? exponent)
    (Nat.lt_of_le_of_lt (length_le_of_fraction? fraction) (length_lt_of_whole? whole))
  split at unsigned
  · exact Nat.lt_succ_of_lt unsigned
  · exact unsigned

theorem length_lt_of_next? {t : Token} (h : next? cs = some (t, rest)) :
    rest.length < cs.length := by
  unfold next? at h
  split at h
  case h_10 =>
    simp only [Option.bind_eq_bind, Option.bind_eq_some_iff, Option.some.injEq, Prod.mk.injEq] at h
    obtain ⟨⟨pieces, left⟩, found, -, rfl⟩ := h
    exact Nat.lt_succ_of_lt (length_lt_of_stringBody found)
  case h_11 =>
    obtain ⟨⟨number, left⟩, found, same⟩ := Option.map_eq_some_iff.mp h
    cases same
    exact length_lt_of_number? found
  all_goals
    cases h
    simp only [List.length_cons]
    omega

-- ---------------------------------------------------------------------------
-- The tokens of a text
-- ---------------------------------------------------------------------------

theorem length_dropWhile_le (cs : List Char) : (cs.dropWhile isBlank).length ≤ cs.length :=
  (List.dropWhile_suffix isBlank).length_le

/-- Counts that are large enough give the same tokens. -/
theorem lexUpTo_eq_lexUpTo {count count' : Nat} (enough : cs.length ≤ count)
    (enough' : cs.length ≤ count') : lexUpTo count cs = lexUpTo count' cs := by
  induction count generalizing cs count' with
  | zero =>
    obtain rfl := List.eq_nil_of_length_eq_zero (Nat.le_zero.mp enough)
    cases count' <;> rfl
  | succ count ih =>
    cases count' with
    | zero =>
      obtain rfl := List.eq_nil_of_length_eq_zero (Nat.le_zero.mp enough')
      rfl
    | succ count' =>
      have visible := length_dropWhile_le cs
      unfold lexUpTo
      split
      · rfl
      · split
        · rfl
        · rename_i found
          have shorter := length_lt_of_next? found
          rw [ih (by omega) (show _ ≤ count' by omega)]

@[simp] theorem lexChars_nil : lexChars [] = [] := rfl

theorem lexChars_of_next? {c : Char} {t : Token} (visible : isBlank c = false)
    (h : next? (c :: cs) = some (t, rest)) : lexChars (c :: cs) = t :: lexChars rest := by
  have start : (c :: cs).dropWhile isBlank = c :: cs := by simp [visible]
  have shorter := length_lt_of_next? h
  rw [List.length_cons] at shorter
  rw [lexChars, List.length_cons, lexUpTo, start]
  simp only [h]
  rw [lexUpTo_eq_lexUpTo (Nat.le_of_lt_succ shorter) (Nat.le_refl _), lexChars]

theorem lexChars_of_next?_eq_none {c : Char} (visible : isBlank c = false)
    (h : next? (c :: cs) = none) : lexChars (c :: cs) = [.malformed] := by
  have start : (c :: cs).dropWhile isBlank = c :: cs := by simp [visible]
  rw [lexChars, List.length_cons, lexUpTo, start]
  simp only [h]

-- ---------------------------------------------------------------------------
-- Bytes
-- ---------------------------------------------------------------------------

theorem size_utf8Encode_singleton (c : Char) : [c].utf8Encode.size = c.utf8Size := by
  simp [List.utf8Encode_singleton]

theorem utf8DecodeChar?_append (before : ByteArray) (c : Char) (cs : List Char) :
    (before ++ (c :: cs).utf8Encode).utf8DecodeChar? before.size = some c := by
  rw [ByteArray.utf8DecodeChar?_eq_utf8DecodeChar?_extract, ByteArray.size_append,
    ByteArray.extract_append_eq_right rfl rfl, List.utf8DecodeChar?_utf8Encode_cons]

theorem charsFrom_utf8Encode (stray : Char) (before : ByteArray) (cs : List Char) {count : Nat}
    (enough : cs.utf8Encode.size ≤ count) :
    charsFrom stray (before ++ cs.utf8Encode) count before.size = cs := by
  induction cs generalizing before count with
  | nil => cases count <;> simp [charsFrom]
  | cons c cs ih =>
    have parts : (c :: cs).utf8Encode = [c].utf8Encode ++ cs.utf8Encode :=
      List.utf8Encode_append (l := [c])
    have size := size_utf8Encode_singleton c
    have positive := c.utf8Size_pos
    rw [parts, ByteArray.size_append] at enough
    obtain ⟨count, rfl⟩ := Nat.exists_eq_add_one.mpr (show 0 < count by omega)
    have inside : before.size < (before ++ (c :: cs).utf8Encode).size := by
      rw [parts, ByteArray.size_append, ByteArray.size_append]
      omega
    have others := ih (before ++ [c].utf8Encode) (show _ ≤ count by omega)
    rw [ByteArray.append_assoc, ← parts, ByteArray.size_append, size] at others
    rw [charsFrom, if_pos inside, utf8DecodeChar?_append]
    simp only [others]

theorem charsOf_toUTF8 (stray : Char) (s : String) : charsOf stray s.toUTF8 = s.toList := by
  have whole := charsFrom_utf8Encode stray ByteArray.empty s.toList (Nat.le_refl _)
  rwa [ByteArray.empty_append, String.utf8Encode_toList] at whole

theorem common_self (t : Token) : common t t = t := by
  cases t <;> simp [common]

theorem ofBytes_toUTF8 (s : String) : ofBytes s.toUTF8 = lex s := by
  rw [ofBytes, charsOf_toUTF8, charsOf_toUTF8, lex, List.zipWith_self]
  simp [common_self]

end FilterSql.Json.Token
