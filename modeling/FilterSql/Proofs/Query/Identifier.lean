import FilterSql.Query.Error

/-!
# Characters of safe identifiers

What a safe identifier is made of, and the ways in which the catalog makes new safe identifiers out
of given ones: in lower case, cut off, or with a number behind.
-/

namespace FilterSql.Query

theorem isIdentifierPart_of_isIdentifierStart (h : isIdentifierStart c = true) :
    isIdentifierPart c = true := by
  simp [isIdentifierPart, h]

theorem isSafeIdentifier_iff : isSafeIdentifier name = true ↔
    ∃ c rest, name.toList = c :: rest ∧ isIdentifierStart c = true ∧
      ∀ d ∈ rest, isIdentifierPart d = true := by
  unfold isSafeIdentifier
  cases name.toList with
  | nil => simp
  | cons c rest =>
    simp only [Bool.and_eq_true, List.all_eq_true, List.cons.injEq]
    constructor
    · rintro ⟨hc, hrest⟩
      exact ⟨c, rest, ⟨rfl, rfl⟩, hc, hrest⟩
    · rintro ⟨_, _, ⟨rfl, rfl⟩, hc, hrest⟩
      exact ⟨hc, hrest⟩

theorem isIdentifierPart_of_mem (safe : isSafeIdentifier name = true) (h : c ∈ name.toList) :
    isIdentifierPart c = true := by
  obtain ⟨d, rest, hname, hd, hrest⟩ := isSafeIdentifier_iff.mp safe
  rw [hname] at h
  rcases List.mem_cons.mp h with rfl | h
  · exact isIdentifierPart_of_isIdentifierStart hd
  · exact hrest c h

theorem not_mem_of_isSafeIdentifier (safe : isSafeIdentifier name = true)
    (h : isIdentifierPart c = false) : c ∉ name.toList := by
  intro hc
  rw [isIdentifierPart_of_mem safe hc] at h
  cases h

theorem toNat_lt_of_isIdentifierPart (h : isIdentifierPart c = true) : c.toNat < 0x80 := by
  simp only [isIdentifierPart, isIdentifierStart, Bool.or_eq_true, Bool.and_eq_true,
    decide_eq_true_eq] at h
  rcases h with ((⟨-, h⟩ | ⟨-, h⟩) | rfl) | ⟨-, h⟩
  · omega
  · omega
  · decide
  · omega

theorem isAlpha_of_isIdentifierStart (h : isIdentifierStart c = true) :
    c.isAlpha = true ∨ c = '_' := by
  have table : ∀ n : Fin 0x80, isIdentifierStart (Char.ofNat n) = true →
      (Char.ofNat n).isAlpha = true ∨ Char.ofNat n = '_' := by decide
  have small := toNat_lt_of_isIdentifierPart (isIdentifierPart_of_isIdentifierStart h)
  simpa using table ⟨c.toNat, small⟩ (by simpa using h)

theorem isAlphanum_of_isIdentifierPart (h : isIdentifierPart c = true) :
    c.isAlphanum = true ∨ c = '_' := by
  have table : ∀ n : Fin 0x80, isIdentifierPart (Char.ofNat n) = true →
      (Char.ofNat n).isAlphanum = true ∨ Char.ofNat n = '_' := by decide
  simpa using table ⟨c.toNat, toNat_lt_of_isIdentifierPart h⟩ (by simpa using h)

-- ---------------------------------------------------------------------------
-- Lower case
-- ---------------------------------------------------------------------------

theorem isIdentifierStart_toLower (h : isIdentifierStart c = true) :
    isIdentifierStart c.toLower = true := by
  have table : ∀ n : Fin 0x80, isIdentifierStart (Char.ofNat n) = true →
      isIdentifierStart (Char.ofNat n).toLower = true := by decide
  have small := toNat_lt_of_isIdentifierPart (isIdentifierPart_of_isIdentifierStart h)
  simpa using table ⟨c.toNat, small⟩ (by simpa using h)

theorem isIdentifierPart_toLower (h : isIdentifierPart c = true) :
    isIdentifierPart c.toLower = true := by
  have table : ∀ n : Fin 0x80, isIdentifierPart (Char.ofNat n) = true →
      isIdentifierPart (Char.ofNat n).toLower = true := by decide
  simpa using table ⟨c.toNat, toNat_lt_of_isIdentifierPart h⟩ (by simpa using h)

theorem lowercase_toList_of_isSafeIdentifier (safe : isSafeIdentifier name = true) :
    (Text.lowercase name).toList = name.toList.map Char.toLower := by
  rw [Text.lowercase, String.toList_ofList]
  exact Text.lowerChars_eq_map [] fun c hc =>
    toNat_lt_of_isIdentifierPart (isIdentifierPart_of_mem safe hc)

theorem isSafeIdentifier_lowercase (safe : isSafeIdentifier name = true) :
    isSafeIdentifier (Text.lowercase name) = true := by
  obtain ⟨c, rest, hname, hc, hrest⟩ := isSafeIdentifier_iff.mp safe
  refine isSafeIdentifier_iff.mpr ⟨c.toLower, rest.map Char.toLower, ?_,
    isIdentifierStart_toLower hc, ?_⟩
  · rw [lowercase_toList_of_isSafeIdentifier safe, hname, List.map_cons]
  · intro d hd
    obtain ⟨e, he, rfl⟩ := List.mem_map.mp hd
    exact isIdentifierPart_toLower (hrest e he)

theorem lowercase_eq_self_iff (safe : isSafeIdentifier name = true) :
    Text.lowercase name = name ↔ ∀ c ∈ name.toList, c.toLower = c := by
  rw [← String.toList_inj, lowercase_toList_of_isSafeIdentifier safe]
  constructor
  · intro h c hc
    exact List.map_inj_left.mp (h.trans (List.map_id _).symm) c hc
  · intro h
    exact (List.map_congr_left h).trans (List.map_id _)

theorem lowercase_lowercase (safe : isSafeIdentifier name = true) :
    Text.lowercase (Text.lowercase name) = Text.lowercase name := by
  refine (lowercase_eq_self_iff (isSafeIdentifier_lowercase safe)).mpr fun c hc => ?_
  rw [lowercase_toList_of_isSafeIdentifier safe] at hc
  obtain ⟨d, hd, rfl⟩ := List.mem_map.mp hc
  have table : ∀ n : Fin 0x80, (Char.ofNat n).toLower.toLower = (Char.ofNat n).toLower := by decide
  rw [← Char.ofNat_toNat d]
  exact table ⟨d.toNat, toNat_lt_of_isIdentifierPart (isIdentifierPart_of_mem safe hd)⟩

theorem trim_of_isSafeIdentifier (safe : isSafeIdentifier name = true) : Text.trim name = name := by
  have table : ∀ n : Fin 0x80, isIdentifierPart (Char.ofNat n) = true →
      Text.isWhiteSpace (Char.ofNat n) = false := by decide
  have visible (c : Char) (hc : c ∈ name.toList) : Text.isWhiteSpace c = false := by
    have part := isIdentifierPart_of_mem safe hc
    simpa using table ⟨c.toNat, toNat_lt_of_isIdentifierPart part⟩ (by simpa using part)
  rw [Text.trim, Text.trimChars_of_visible visible, String.ofList_toList]

-- ---------------------------------------------------------------------------
-- Parts and extensions
-- ---------------------------------------------------------------------------

theorem isSafeIdentifier_take (safe : isSafeIdentifier name = true) (n : Nat) :
    isSafeIdentifier (String.ofList (name.toList.take (n + 1))) = true := by
  obtain ⟨c, rest, hname, hc, hrest⟩ := isSafeIdentifier_iff.mp safe
  refine isSafeIdentifier_iff.mpr ⟨c, rest.take n, ?_, hc, fun d hd => ?_⟩
  · rw [String.toList_ofList, hname, List.take_succ_cons]
  · exact hrest d (List.mem_of_mem_take hd)

theorem isIdentifierPart_of_isDigit (h : c.isDigit = true) : isIdentifierPart c = true := by
  simp only [Char.isDigit, Bool.and_eq_true, decide_eq_true_eq] at h
  simp only [isIdentifierPart, Bool.or_eq_true, Bool.and_eq_true, decide_eq_true_eq]
  exact .inr h

theorem toLower_of_isDigit {c : Char} (h : c.isDigit = true) : c.toLower = c := by
  have table : ∀ n : Fin 0x80, (Char.ofNat n).isDigit = true →
      (Char.ofNat n).toLower = Char.ofNat n := by decide
  have small := toNat_lt_of_isIdentifierPart (isIdentifierPart_of_isDigit h)
  simpa using table ⟨c.toNat, small⟩ (by simpa using h)

theorem isSafeIdentifier_append_number (safe : isSafeIdentifier name = true) (n : Nat) :
    isSafeIdentifier (name ++ toString n) = true := by
  obtain ⟨c, rest, hname, hc, hrest⟩ := isSafeIdentifier_iff.mp safe
  refine isSafeIdentifier_iff.mpr ⟨c, rest ++ Nat.toDigits 10 n, ?_, hc, fun d hd => ?_⟩
  · simp [hname]
  · rcases List.mem_append.mp hd with hd | hd
    · exact hrest d hd
    · exact isIdentifierPart_of_isDigit (Nat.isDigit_of_mem_toDigits (by decide) (by decide) hd)

-- ---------------------------------------------------------------------------
-- Names with a role
-- ---------------------------------------------------------------------------

theorem Identifier.check_eq_ok {found : Identifier} :
    Identifier.check role name = .ok found ↔ found.text = name := by
  unfold Identifier.check
  cases h : Identifier.ofText? name with
  | none =>
    refine ⟨fun hfound => (nomatch hfound), fun hfound => ?_⟩
    rw [Identifier.ofText?_eq_some_iff.mpr hfound] at h
    cases h
  | some other =>
    rw [Except.ok.injEq, ← Identifier.ofText?_eq_some_iff, h, Option.some.injEq]

theorem Identifier.check_eq_error : Identifier.check role name = .error e ↔
    isSafeIdentifier name = false ∧ e = .unsafeIdentifier role name := by
  unfold Identifier.check Identifier.ofText?
  by_cases safe : isSafeIdentifier name = true
  · simp [safe]
  · simp [safe, eq_comm]

end FilterSql.Query
