import FilterSql.Proofs.Json.Atom

/-!
# Strings as they are written

`spells_quote`: a string is found again as it was, since every character is read back from what it is
escaped to.
-/

namespace FilterSql.Json

open Text

namespace Token

theorem escaped?_of_shortEscape? {c letter : Char} (h : shortEscape? c = some letter) :
    letter ≠ 'u' ∧ escaped? letter = some c := by
  unfold shortEscape? at h
  split at h
  · cases h; subst c; exact ⟨by decide, rfl⟩
  split at h
  · cases h; subst c; exact ⟨by decide, rfl⟩
  repeat
    split at h
    · cases h
      refine ⟨by decide, ?_⟩
      rw [← Char.ofNat_toNat c, ‹c.toNat = _›]
      rfl
  cases h

theorem stringBody_letter {letter c : Char} (unit : letter ≠ 'u') (h : escaped? letter = some c)
    (rest : List Char) : stringBody ('\\' :: letter :: rest) =
      (stringBody rest).map fun found => (.char c :: found.1, found.2) := by
  rw [stringBody, h]
  · cases stringBody rest <;> rfl
  · rintro _ _ _ _ _ rfl
    exact absurd rfl unit

theorem stringBody_control {c : Char} (low : c.toNat < 0x20) (rest : List Char) :
    stringBody ('\\' :: 'u' :: '0' :: '0' ::
        hexDigit (c.toNat / 16) :: hexDigit (c.toNat % 16) :: rest) =
      (stringBody rest).map fun found => (.char c :: found.1, found.2) := by
  have high := hexValue?_hexDigit (c.toNat / 16) (by omega)
  have last := hexValue?_hexDigit (c.toNat % 16) (by omega)
  have unit : hex4? '0' '0' (hexDigit (c.toNat / 16)) (hexDigit (c.toNat % 16)) = some c.toNat := by
    have value : c.toNat / 16 * 16 + c.toNat % 16 = c.toNat := by omega
    simp [hex4?, high, last, value, show hexValue? '0' = some 0 from rfl]
  have piece : Piece.ofUnit c.toNat = .char c := by
    rw [Piece.ofUnit, if_neg (by omega), if_neg (by omega), Char.ofNat_toNat]
  rw [stringBody, unit, ← piece]
  cases stringBody rest <;> rfl

theorem stringBody_plain {c : Char} (quote : c ≠ '"') (slash : c ≠ '\\') (visible : 0x20 ≤ c.toNat)
    (rest : List Char) : stringBody (c :: rest) =
      (stringBody rest).map fun found => (.char c :: found.1, found.2) := by
  have allowed : ¬ (c = '\\' ∨ c.toNat < 0x20) := by
    rintro (rfl | low)
    · exact slash rfl
    · exact absurd visible (Nat.not_le.mpr low)
  rw [stringBody, if_neg allowed]
  · cases stringBody rest <;> rfl
  · exact quote
  · rintro _ _ _ _ _ rfl
    exact absurd rfl slash
  · rintro _ _ rfl
    exact absurd rfl slash

theorem stringBody_escape (c : Char) (rest : List Char) : stringBody (escape c ++ rest) =
    (stringBody rest).map fun found => (.char c :: found.1, found.2) := by
  unfold escape
  split
  · obtain ⟨unit, back⟩ := escaped?_of_shortEscape? ‹_›
    exact stringBody_letter unit back rest
  · have long : shortEscape? c = none := ‹_›
    split
    · exact stringBody_control ‹_› rest
    · have quote : c ≠ '"' := by rintro rfl; cases long
      have slash : c ≠ '\\' := by rintro rfl; cases long
      exact stringBody_plain quote slash (Nat.not_lt.mp ‹_›) rest

theorem stringBody_flatMap_escape (cs rest : List Char) :
    stringBody (cs.flatMap escape ++ '"' :: rest) = some (cs.map .char, rest) := by
  induction cs with
  | nil => rfl
  | cons c cs ih => simp [List.flatMap_cons, List.append_assoc, stringBody_escape, ih]

theorem join?_char (cs : List Char) : join? (cs.map .char) = some cs := by
  induction cs with
  | nil => rfl
  | cons c cs ih => simp [join?, ih]

/-- A string has its own end, so anything may follow it. -/
theorem next?_quote (s : String) (rest : List Char) :
    next? ((quote s).toList ++ rest) = some (.string (some s), rest) := by
  rw [quote, String.toList_ofList, List.cons_append, List.cons_append, List.append_assoc,
    List.singleton_append, next?, stringBody_flatMap_escape]
  simp [join?_char, String.ofList_toList]

theorem head?_quote (s : String) : (quote s).toList.head? = some '"' := by
  rw [quote, String.toList_ofList]
  rfl

theorem lexChars_quote (s : String) (rest : List Char) :
    lexChars ((quote s).toList ++ rest) = .string (some s) :: lexChars rest := by
  obtain ⟨cs, hcs⟩ := List.head?_eq_some_iff.mp (head?_quote s)
  have found := next?_quote s rest
  rw [hcs, List.cons_append] at found ⊢
  exact lexChars_of_next? rfl found

theorem spells_quote (s : String) : Spells (quote s).toList (.string (some s)) := by
  refine ⟨rfl, ?_, fun rest _ => next?_quote s rest⟩
  rw [head?_quote]
  rintro _ ⟨⟩
  rfl

end Token

end FilterSql.Json
