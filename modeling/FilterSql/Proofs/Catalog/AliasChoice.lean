import Mathlib.Data.List.Nodup
import Mathlib.Data.List.Perm.Subperm
import FilterSql.Proofs.Catalog.Names

/-!
# How aliases are chosen

`Alias.Chosen` says which alias a candidate gets if some names are taken. `Alias.chosen_choose`: the
bounded search finds it, because there are more numbers to try than names that are taken.
`Alias.assigned_of_mem`: in an assignment each name has the alias that is chosen for it when the
aliases of the names before it are taken too.
-/

namespace FilterSql.Alias

/-- The candidate if it is free, or else the candidate with the least number from 2 on behind it
that makes it free. -/
inductive Chosen (Taken : String → Prop) (stem : String) : String → Prop
  | plain (free : ¬Taken stem) : Chosen Taken stem stem
  | numbered {n : Nat} (taken : Taken stem) (two_le : 2 ≤ n) (free : ¬Taken (stem ++ toString n))
      (least : ∀ m, 2 ≤ m → m < n → Taken (stem ++ toString m)) :
      Chosen Taken stem (stem ++ toString n)

theorem Chosen.free (h : Chosen Taken stem found) : ¬Taken found := by
  cases h with
  | plain free => exact free
  | numbered _ _ free _ => exact free

theorem Chosen.congr {Taken Taken' : String → Prop} (same : ∀ name, Taken name ↔ Taken' name)
    (h : Chosen Taken stem found) : Chosen Taken' stem found := by
  obtain rfl : Taken = Taken' := funext fun name => propext (same name)
  exact h

-- ---------------------------------------------------------------------------
-- The search for a number
-- ---------------------------------------------------------------------------

theorem append_number_injective (stem : String) :
    Function.Injective fun n : Nat => stem ++ toString n := by
  intro m n h
  have digits : Nat.toDigits 10 m = Nat.toDigits 10 n := by
    have texts := (String.append_right_inj stem).mp h
    rwa [Nat.toString_eq_ofList_toDigits, Nat.toString_eq_ofList_toDigits, String.ofList_inj]
      at texts
  have values := congrArg (Nat.ofDigitChars 10 · 0) digits
  simpa [Nat.ofDigitChars_toDigits] using values

theorem firstFree?_eq_none (h : firstFree? taken stem n tries = none) :
    ∀ i < tries, stem ++ toString (n + i) ∈ taken := by
  induction tries generalizing n with
  | zero =>
    intro i hi
    exact absurd hi (Nat.not_lt_zero i)
  | succ tries ih =>
    simp only [firstFree?, List.contains_iff_mem] at h
    split at h
    · rename_i first
      intro i hi
      cases i with
      | zero => exact first
      | succ i =>
        have next := ih h i (by omega)
        rwa [Nat.add_assoc, Nat.add_comm 1 i] at next
    · cases h

theorem firstFree?_eq_some (h : firstFree? taken stem n tries = some found) :
    ∃ k, n ≤ k ∧ found = stem ++ toString k ∧ found ∉ taken ∧
      ∀ m, n ≤ m → m < k → stem ++ toString m ∈ taken := by
  induction tries generalizing n with
  | zero => cases h
  | succ tries ih =>
    simp only [firstFree?, List.contains_iff_mem] at h
    split at h
    · rename_i first
      obtain ⟨k, hk, rfl, free, least⟩ := ih h
      refine ⟨k, by omega, rfl, free, fun m hm hmk => ?_⟩
      rcases Nat.eq_or_lt_of_le hm with rfl | hm
      · exact first
      · exact least m hm hmk
    · rename_i free
      cases h
      exact ⟨n, Nat.le_refl n, rfl, free, fun m hm hmn => absurd hmn (Nat.not_lt.mpr hm)⟩

theorem isSome_firstFree? (taken : List String) (stem : String) (n : Nat) :
    (firstFree? taken stem n (taken.length + 1)).isSome = true := by
  cases h : firstFree? taken stem n (taken.length + 1) with
  | some found => rfl
  | none =>
    let tried := (List.range (taken.length + 1)).map fun i => stem ++ toString (n + i)
    have distinct : tried.Nodup := by
      have injective : Function.Injective fun i => stem ++ toString (n + i) := fun i j hij =>
        Nat.add_left_cancel (append_number_injective stem hij)
      exact List.nodup_range.map injective
    have included : tried ⊆ taken := by
      intro name hname
      obtain ⟨i, hi, rfl⟩ := List.mem_map.mp hname
      exact firstFree?_eq_none h i (List.mem_range.mp hi)
    have few := (distinct.subperm included).length_le
    rw [List.length_map, List.length_range] at few
    exact absurd few (Nat.not_succ_le_self _)

theorem chosen_choose (taken : List String) (stem : String) :
    Chosen (· ∈ taken) stem (choose taken stem) := by
  unfold choose
  split
  · rename_i htaken
    obtain ⟨found, hfound⟩ := Option.isSome_iff_exists.mp (isSome_firstFree? taken stem 2)
    obtain ⟨k, hk, rfl, free, least⟩ := firstFree?_eq_some hfound
    rw [hfound]
    exact .numbered (List.contains_iff_mem.mp htaken) hk free least
  · rename_i hfree
    exact .plain fun h => hfree (List.contains_iff_mem.mpr h)

-- ---------------------------------------------------------------------------
-- Assignments
-- ---------------------------------------------------------------------------

theorem names_assign (conflicts : List Char) (taken names : List String) :
    (assign conflicts taken names).map Prod.fst = names := by
  induction names generalizing taken with
  | nil => rfl
  | cons name rest ih => rw [assign, List.map_cons, ih]

/-- The names that are taken when a name has its turn after those in `before`. -/
def takenAfter (conflicts : List Char) (taken before : List String) : List String :=
  (assign conflicts taken before).map Prod.snd ++ taken

theorem assigned_of_mem (h : (name, found) ∈ assign conflicts taken names) :
    ∃ before after, names = before ++ name :: after ∧
      (∀ e ∈ assign conflicts taken before, e ∈ assign conflicts taken names) ∧
      Chosen (· ∈ takenAfter conflicts taken before) (candidate conflicts name) found := by
  induction names generalizing taken with
  | nil => cases h
  | cons first rest ih =>
    rcases List.mem_cons.mp h with h | h
    · cases h
      exact ⟨[], rest, rfl, fun e he => (nomatch he), chosen_choose taken _⟩
    · obtain ⟨before, after, rfl, hbefore, chosen⟩ := ih h
      refine ⟨first :: before, after, rfl, fun e he => ?_, chosen.congr fun n => ?_⟩
      · rcases List.mem_cons.mp he with rfl | he
        · exact List.mem_cons_self
        · exact List.mem_cons_of_mem _ (hbefore e he)
      · simp only [takenAfter, assign, List.map_cons, List.cons_append, List.mem_append,
          List.mem_cons]
        exact or_left_comm

-- ---------------------------------------------------------------------------
-- The order of the names
-- ---------------------------------------------------------------------------

def Earlier (a b : String) : Prop := a.length < b.length ∨ a.length = b.length ∧ a < b

theorem earlier_irrefl (a : String) : ¬Earlier a a := by
  rintro (h | ⟨-, h⟩)
  · exact Nat.lt_irrefl _ h
  · exact String.lt_irrefl a h

theorem Earlier.trans (h : Earlier a b) (h' : Earlier b c) : Earlier a c := by
  rcases h with h | ⟨hl, h⟩ <;> rcases h' with h' | ⟨hl', h'⟩
  · exact .inl (Nat.lt_trans h h')
  · exact .inl (hl' ▸ h)
  · exact .inl (hl ▸ h')
  · exact .inr ⟨hl.trans hl', String.lt_trans h h'⟩

theorem precedes_iff (hne : a ≠ b) : precedes a b = true ↔ Earlier a b := by
  simp [precedes, Earlier, Std.lt_iff_le_and_ne, hne]

theorem earlier_of_not_precedes (h : precedes a b = false) : Earlier b a := by
  simp only [precedes, Bool.or_eq_false_iff, Bool.and_eq_false_iff, decide_eq_false_iff_not] at h
  obtain ⟨hlen, h⟩ := h
  rcases Nat.lt_or_eq_of_le (Nat.not_lt.mp hlen) with hlt | heq
  · exact .inl hlt
  · exact .inr ⟨heq, String.not_le.mp (h.resolve_left (absurd heq.symm))⟩

theorem pairwise_insertByLength (h : names.Pairwise Earlier) (hnew : name ∉ names) :
    (insertByLength name names).Pairwise Earlier := by
  induction names with
  | nil => exact List.pairwise_singleton _ _
  | cons first rest ih =>
    obtain ⟨hfirst, hrest⟩ := List.pairwise_cons.mp h
    obtain ⟨hne, hnew⟩ := List.ne_and_not_mem_of_not_mem_cons hnew
    unfold insertByLength
    split
    · rename_i hprecedes
      have before := (precedes_iff hne).mp hprecedes
      refine List.pairwise_cons.mpr ⟨fun other hother => ?_, h⟩
      rcases List.mem_cons.mp hother with rfl | hother
      · exact before
      · exact before.trans (hfirst other hother)
    · rename_i hprecedes
      refine List.pairwise_cons.mpr ⟨fun other hother => ?_, ih hrest hnew⟩
      rcases mem_insertByLength.mp hother with rfl | hother
      · exact earlier_of_not_precedes (Bool.eq_false_iff.mpr hprecedes)
      · exact hfirst other hother

theorem pairwise_byLength (h : names.Nodup) : (byLength names).Pairwise Earlier := by
  induction names with
  | nil => exact .nil
  | cons first rest ih =>
    obtain ⟨hfirst, hrest⟩ := List.nodup_cons.mp h
    rw [byLength, List.foldr_cons]
    exact pairwise_insertByLength (ih hrest) fun hmem => hfirst (mem_byLength.mp hmem)

theorem mem_before_iff (h : (before ++ name :: after).Pairwise Earlier) :
    other ∈ before ↔ other ∈ before ++ name :: after ∧ Earlier other name := by
  obtain ⟨-, hafter, hcross⟩ := List.pairwise_append.mp h
  constructor
  · intro hother
    exact ⟨List.mem_append_left _ hother, hcross other hother name List.mem_cons_self⟩
  · rintro ⟨hother, earlier⟩
    rcases List.mem_append.mp hother with hother | hother
    · exact hother
    · rcases List.mem_cons.mp hother with rfl | hother
      · exact absurd earlier (earlier_irrefl other)
      · have later := (List.pairwise_cons.mp hafter).1 other hother
        exact absurd (later.trans earlier) (earlier_irrefl name)

-- ---------------------------------------------------------------------------
-- Letters that start several names
-- ---------------------------------------------------------------------------

theorem mem_insertChar : d ∈ conflictLetters.insertChar cs c ↔ d = c ∨ d ∈ cs := by
  simp only [conflictLetters.insertChar, List.mem_append, List.mem_filter, List.mem_cons,
    decide_eq_true_eq]
  constructor
  · rintro (⟨h, -⟩ | h | ⟨h, -⟩)
    · exact .inr h
    · exact .inl h
    · exact .inr h
  · rintro (h | h)
    · exact .inr (.inl h)
    · by_cases hlt : d < c
      · exact .inl ⟨h, hlt⟩
      · by_cases hgt : c < d
        · exact .inr (.inr ⟨h, hgt⟩)
        · exact .inr (.inl (Char.le_antisymm (Char.not_lt.mp hgt) (Char.not_lt.mp hlt)))

theorem mem_insertChars {letters : List Char} :
    d ∈ letters.foldl conflictLetters.insertChar cs ↔ d ∈ letters ∨ d ∈ cs := by
  induction letters generalizing cs with
  | nil => simp
  | cons c letters ih =>
    rw [List.foldl_cons, ih, mem_insertChar, List.mem_cons, or_left_comm, or_assoc]

def SharesLetter (names : List String) (name : String) : Prop :=
  ∃ other ∈ names, other ≠ name ∧ other.toList.head? = name.toList.head?

theorem mem_conflictLetters (distinct : names.Nodup) (hname : name ∈ names)
    (hc : name.toList.head? = some c) : c ∈ conflictLetters names ↔ SharesLetter names name := by
  obtain ⟨before, after, rfl⟩ := List.append_of_mem hname
  let starts (other : String) : Bool := other.toList.head? = some c
  have count : (List.filterMap (fun name : String => name.toList.head?)
      (before ++ name :: after)).count c = (before ++ after).countP starts + 1 := by
    have same : (fun other : String => (other.toList.head?.map (· == c)).getD false) = starts := by
      funext other
      cases h : other.toList.head? <;> simp [starts, h, beq_eq_decide]
    have here : starts name = true := decide_eq_true hc
    rw [List.count, List.countP_filterMap, same, List.countP_append, List.countP_cons_of_pos here,
      List.countP_append]
    omega
  have unique : name ∉ before ++ after := (List.nodup_cons.mp (List.nodup_middle.mp distinct)).1
  rw [conflictLetters, mem_insertChars]
  simp only [List.mem_filter, decide_eq_true_eq, count, List.not_mem_nil, or_false]
  constructor
  · rintro ⟨-, hmany⟩
    obtain ⟨other, hother, hstarts⟩ := List.countP_pos_iff.mp (Nat.lt_of_succ_lt_succ hmany)
    refine ⟨other, ?_, fun h => unique (h ▸ hother), (of_decide_eq_true hstarts).trans hc.symm⟩
    rcases List.mem_append.mp hother with h | h
    · exact List.mem_append_left _ h
    · exact List.mem_append_right _ (List.mem_cons_of_mem _ h)
  · rintro ⟨other, hother, hne, hstarts⟩
    refine ⟨List.mem_filterMap.mpr ⟨name, hname, hc⟩, Nat.succ_lt_succ (List.countP_pos_iff.mpr ?_)⟩
    refine ⟨other, ?_, decide_eq_true (hstarts.trans hc)⟩
    rcases List.mem_append.mp hother with h | h
    · exact List.mem_append_left _ h
    · exact List.mem_append_right _ ((List.mem_cons.mp h).resolve_left hne)

/-- The alias of a name as far as it depends on letters alone: the first one, or the first three if
another name starts with the same one. -/
inductive Candidate (names : List String) (name : String) : String → Prop
  | letter (alone : ¬SharesLetter names name) :
      Candidate names name (String.ofList (name.toList.take 1))
  | three (shared : SharesLetter names name) :
      Candidate names name (String.ofList (name.toList.take 3))

theorem candidate_candidate (distinct : names.Nodup) (hname : name ∈ names) (hne : name ≠ "")
    (lower : Text.lowercase name = name) :
    Candidate names name (candidate (conflictLetters names) name) := by
  obtain ⟨c, rest, hchars⟩ := List.exists_cons_of_ne_nil (mt String.toList_eq_nil_iff.mp hne)
  have letter := mem_conflictLetters distinct hname (c := c) (by rw [hchars, List.head?_cons])
  unfold candidate
  simp only [lower, hchars, List.contains_iff_mem]
  split
  · rename_i shared
    rw [← hchars]
    exact .three (letter.mp shared)
  · rename_i alone
    rw [← hchars]
    exact .letter (mt letter.mpr alone)

theorem candidate_lower (lower : ∀ c ∈ name.toList, c.toLower = c)
    (h : Candidate names name stem) : ∀ c ∈ stem.toList, c.toLower = c := by
  cases h <;>
    · intro c hc
      rw [String.toList_ofList] at hc
      exact lower c (List.mem_of_mem_take hc)

theorem Chosen.lower (stem_lower : ∀ c ∈ stem.toList, c.toLower = c)
    (h : Chosen Taken stem found) : ∀ c ∈ found.toList, c.toLower = c := by
  cases h with
  | plain _ => exact stem_lower
  | numbered _ _ _ _ =>
    intro c hc
    rw [String.toList_append, List.mem_append] at hc
    rcases hc with hc | hc
    · exact stem_lower c hc
    · rw [Nat.toString_eq_ofList_toDigits, String.toList_ofList] at hc
      exact Query.toLower_of_isDigit (Nat.isDigit_of_mem_toDigits (by decide) (by decide) hc)

end FilterSql.Alias
