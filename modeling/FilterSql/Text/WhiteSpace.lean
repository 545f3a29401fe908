import FilterSql.Text.CodeRange

/-!
# White space

The 25 characters of the Unicode property White_Space, and trimming. A no-break space is white space
here; a zero width space and a byte order mark are not.
-/

namespace FilterSql.Text

def whiteSpaceRanges : List CodeRange :=
  [⟨0x09, 0x0D⟩, ⟨0x20, 0x20⟩, ⟨0x85, 0x85⟩, ⟨0xA0, 0xA0⟩, ⟨0x1680, 0x1680⟩, ⟨0x2000, 0x200A⟩,
   ⟨0x2028, 0x2029⟩, ⟨0x202F, 0x202F⟩, ⟨0x205F, 0x205F⟩, ⟨0x3000, 0x3000⟩]

def isWhiteSpace (c : Char) : Bool := CodeRange.covers whiteSpaceRanges c

def trimChars (cs : List Char) : List Char :=
  ((cs.dropWhile isWhiteSpace).reverse.dropWhile isWhiteSpace).reverse

def trim (s : String) : String := String.ofList (trimChars s.toList)

def trimmed? (s : String) : Option String :=
  let t := trim s
  if t.isEmpty then none else some t

@[simp] theorem toList_trim (s : String) : (trim s).toList = trimChars s.toList := by
  simp [trim]

/-- Trimming takes the white space around a text that does not begin or end in any. -/
theorem trimChars_append {before cs after : List Char} (hbefore : ∀ c ∈ before, isWhiteSpace c = true)
    (hafter : ∀ c ∈ after, isWhiteSpace c = true) (first : ∀ c ∈ cs.head?, isWhiteSpace c = false)
    (last : ∀ c ∈ cs.getLast?, isWhiteSpace c = false) : trimChars (before ++ cs ++ after) = cs := by
  cases cs with
  | nil =>
    have blank : (before ++ after).dropWhile isWhiteSpace = [] := by
      rw [List.dropWhile_append_of_pos hbefore, ← List.append_nil after,
        List.dropWhile_append_of_pos hafter, List.dropWhile_nil]
    simp [trimChars, blank]
  | cons c rest =>
    have start : (before ++ c :: rest ++ after).dropWhile isWhiteSpace = c :: rest ++ after := by
      rw [List.append_assoc, List.dropWhile_append_of_pos hbefore]
      simp [first c (by simp)]
    have stop : (c :: rest).reverse.dropWhile isWhiteSpace = (c :: rest).reverse := by
      cases h : (c :: rest).reverse with
      | nil => rfl
      | cons d ds =>
        have : d ∈ (c :: rest).getLast? := by simp [← List.head?_reverse, h]
        simp [last d this]
    have hafter' : ∀ c ∈ after.reverse, isWhiteSpace c = true := fun c hc =>
      hafter c (List.mem_reverse.mp hc)
    rw [trimChars, start, List.reverse_append, List.dropWhile_append_of_pos hafter', stop,
      List.reverse_reverse]

theorem trimChars_eq_self {cs : List Char} (first : ∀ c ∈ cs.head?, isWhiteSpace c = false)
    (last : ∀ c ∈ cs.getLast?, isWhiteSpace c = false) : trimChars cs = cs := by
  have nothing : ∀ c ∈ ([] : List Char), isWhiteSpace c = true := fun _ h => nomatch h
  simpa using trimChars_append nothing nothing first last

theorem trimChars_of_visible {cs : List Char} (h : ∀ c ∈ cs, isWhiteSpace c = false) :
    trimChars cs = cs :=
  trimChars_eq_self (fun c hc => h c (List.mem_of_mem_head? hc))
    fun c hc => h c (List.mem_of_getLast? hc)

theorem trimChars_isPrefix (cs : List Char) : trimChars cs <+: cs.dropWhile isWhiteSpace := by
  rw [← List.reverse_suffix, trimChars, List.reverse_reverse]
  exact List.dropWhile_suffix _

theorem isWhiteSpace_head?_trimChars (cs : List Char) :
    ∀ c ∈ (trimChars cs).head?, isWhiteSpace c = false := by
  intro c hc
  have first := List.head?_dropWhile_not isWhiteSpace cs
  obtain ⟨rest, hrest⟩ := trimChars_isPrefix cs
  rw [← hrest, List.head?_append, hc] at first
  simpa using first

theorem isWhiteSpace_getLast?_trimChars (cs : List Char) :
    ∀ c ∈ (trimChars cs).getLast?, isWhiteSpace c = false := by
  intro c hc
  have last := List.head?_dropWhile_not isWhiteSpace (cs.dropWhile isWhiteSpace).reverse
  rw [trimChars, List.getLast?_reverse] at hc
  rw [hc] at last
  simpa using last

theorem trimChars_trimChars (cs : List Char) : trimChars (trimChars cs) = trimChars cs :=
  trimChars_eq_self (isWhiteSpace_head?_trimChars cs) (isWhiteSpace_getLast?_trimChars cs)

@[simp] theorem trim_trim (s : String) : trim (trim s) = trim s := by
  rw [trim, toList_trim, trimChars_trimChars, ← trim]

theorem trimmed?_eq_none_iff {s : String} : trimmed? s = none ↔ trim s = "" := by
  simp [trimmed?]

theorem trimmed?_eq_some_iff {s t : String} : trimmed? s = some t ↔ trim s = t ∧ t ≠ "" := by
  simp only [trimmed?, Option.ite_none_left_eq_some, Option.some.injEq, String.isEmpty_iff]
  constructor
  · rintro ⟨nonblank, rfl⟩
    exact ⟨rfl, nonblank⟩
  · rintro ⟨rfl, nonblank⟩
    exact ⟨nonblank, rfl⟩

end FilterSql.Text
