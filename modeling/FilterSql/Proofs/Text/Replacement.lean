import Mathlib.Data.List.Infix

/-!
# Replacement in a text

`replaceAll` replaces the occurrences of a pattern from left to right, each after the end of the one
before. `replaceAll_append`: an occurrence is found where it stands, if the pattern cannot overlap
itself and is not found in the text before. A pattern of one character is replaced character by
character.
-/

namespace FilterSql.Text

/-- Replaces every occurrence of a pattern that is not empty. -/
def replaceAll (pattern replacement : List Char) : List Char → List Char
  | [] => []
  | c :: cs =>
    if pattern <+: c :: cs then
      replacement ++ replaceAll pattern replacement (cs.drop (pattern.length - 1))
    else c :: replaceAll pattern replacement cs
termination_by cs => cs.length
decreasing_by
  all_goals simp only [List.length_cons, List.length_drop]
  · omega
  · omega

def replace (pattern replacement s : String) : String :=
  String.ofList (replaceAll pattern.toList replacement.toList s.toList)

/-- No end of the pattern, but all of it, is a beginning of it too. -/
def Unbordered (pattern : List Char) : Prop :=
  ∀ n < pattern.length, 0 < n → ¬ pattern.drop n <+: pattern

instance (pattern : List Char) : Decidable (Unbordered pattern) := by
  unfold Unbordered
  infer_instance

variable {pattern replacement xs : List Char}

theorem replaceAll_of_not_infix (absent : ¬ pattern <:+: xs) :
    replaceAll pattern replacement xs = xs := by
  induction xs with
  | nil => rw [replaceAll]
  | cons c cs ih =>
    have rest : ¬ pattern <:+: cs := fun h => absent (h.trans (List.suffix_cons c cs).isInfix)
    rw [replaceAll, if_neg fun h => absent h.isInfix, ih rest]

theorem replaceAll_pattern_append (hne : pattern ≠ []) (rest : List Char) :
    replaceAll pattern replacement (pattern ++ rest) =
      replacement ++ replaceAll pattern replacement rest := by
  obtain ⟨c, cs, rfl⟩ := List.exists_cons_of_ne_nil hne
  have here : c :: cs <+: c :: (cs ++ rest) := List.prefix_append (c :: cs) rest
  rw [List.cons_append, replaceAll, if_pos here]
  simp

/-- Before its first occurrence an unbordered pattern does not begin anywhere, not even where it
would go on into that occurrence. -/
theorem not_prefix_of_unbordered (unbordered : Unbordered pattern) (hne : xs ≠ [])
    (absent : ¬ pattern <:+: xs) (rest : List Char) : ¬ pattern <+: xs ++ (pattern ++ rest) := by
  intro h
  rcases List.prefix_or_prefix_of_prefix h (List.prefix_append xs (pattern ++ rest)) with h' | h'
  · exact absent h'.isInfix
  · -- The occurrence would begin with all of `xs`, and the rest of it would be a border.
    obtain ⟨ending, rfl⟩ := h'
    have hending : ending <+: xs ++ ending ++ rest := (List.prefix_append_right_inj xs).mp h
    have length : (xs ++ ending).length = xs.length + ending.length := List.length_append
    have hpos := List.length_pos_of_ne_nil hne
    have short : xs.length < (xs ++ ending).length := by
      refine Nat.lt_of_le_of_ne (by omega) fun heq => absent ?_
      rw [List.eq_nil_of_length_eq_zero (l := ending) (by omega), List.append_nil]
    have border : ending <+: xs ++ ending :=
      List.prefix_of_prefix_length_le hending (List.prefix_append _ rest) (by omega)
    refine unbordered xs.length short hpos ?_
    rwa [List.drop_left]

theorem replaceAll_append (unbordered : Unbordered pattern) (hne : pattern ≠ [])
    (absent : ¬ pattern <:+: xs) (rest : List Char) :
    replaceAll pattern replacement (xs ++ (pattern ++ rest)) =
      xs ++ (replacement ++ replaceAll pattern replacement rest) := by
  induction xs with
  | nil => exact replaceAll_pattern_append hne rest
  | cons c cs ih =>
    have later : ¬ pattern <:+: cs := fun h => absent (h.trans (List.suffix_cons c cs).isInfix)
    have here := not_prefix_of_unbordered unbordered (List.cons_ne_nil c cs) absent rest
    rw [List.cons_append] at here ⊢
    rw [replaceAll, if_neg here, ih later, List.cons_append]

theorem replaceAll_singleton (c : Char) (replacement xs : List Char) :
    replaceAll [c] replacement xs = xs.flatMap fun d => if d = c then replacement else [d] := by
  induction xs with
  | nil => rw [replaceAll, List.flatMap_nil]
  | cons d ds ih =>
    rw [replaceAll, List.flatMap_cons]
    simp only [List.length_singleton, Nat.sub_self, List.drop_zero, ih, List.cons_prefix_cons,
      List.nil_prefix, and_true]
    split
    · rename_i h
      rw [if_pos h.symm]
    · rename_i h
      rw [if_neg (Ne.symm h), List.singleton_append]

end FilterSql.Text
