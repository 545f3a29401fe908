import FilterSql.Proofs.Outcome

/-!
# The first fault

`First Fault as e`: of some things that are looked at in turn, the first one with a fault has the
fault `e`. A computation in `Except` that takes one step after another fails in this way:
`bind_eq_error_iff_first` reads the failure of a whole function off the failures of its steps, and
`mapM_eq_error` does so for a list. `FailsOnly` says of all errors of a computation what they are
like.
-/

namespace FilterSql

inductive First (Fault : α → ε → Prop) : List α → ε → Prop
  | here (h : Fault a e) : First Fault (a :: as) e
  | later (fine : ∀ e, ¬ Fault a e) (h : First Fault as e) : First Fault (a :: as) e

namespace First

variable {Fault Fault' : α → ε → Prop}

theorem not_nil : ¬ First Fault [] e := by
  rintro ⟨⟩

theorem cons_iff : First Fault (a :: as) e ↔
    Fault a e ∨ (∀ e, ¬ Fault a e) ∧ First Fault as e := by
  constructor
  · intro h
    cases h with
    | here h => exact .inl h
    | later fine h => exact .inr ⟨fine, h⟩
  · rintro (h | ⟨fine, h⟩)
    · exact .here h
    · exact .later fine h

theorem congr (same : ∀ a ∈ as, ∀ e, Fault a e ↔ Fault' a e) :
    First Fault as e ↔ First Fault' as e := by
  induction as with
  | nil => exact iff_of_false not_nil not_nil
  | cons a as ih =>
    rw [cons_iff, cons_iff, ih fun b hb => same b (List.mem_cons_of_mem _ hb)]
    simp only [same a List.mem_cons_self]

theorem exists_fault (h : First Fault as e) : ∃ a ∈ as, Fault a e := by
  induction h with
  | here h => exact ⟨_, List.mem_cons_self, h⟩
  | later _ _ ih =>
    obtain ⟨b, hb, fault⟩ := ih
    exact ⟨b, List.mem_cons_of_mem _ hb, fault⟩

theorem exists_iff : (∃ e, First Fault as e) ↔ ∃ a ∈ as, ∃ e, Fault a e := by
  constructor
  · rintro ⟨e, h⟩
    obtain ⟨a, ha, fault⟩ := h.exists_fault
    exact ⟨a, ha, e, fault⟩
  · rintro ⟨a, ha, e, h⟩
    induction as with
    | nil => cases ha
    | cons b as ih =>
      by_cases fault : ∃ e, Fault b e
      · obtain ⟨e, he⟩ := fault
        exact ⟨e, .here he⟩
      · rcases List.mem_cons.mp ha with rfl | ha
        · exact absurd ⟨e, h⟩ fault
        · obtain ⟨e, he⟩ := ih ha
          exact ⟨e, .later (not_exists.mp fault) he⟩

theorem none_iff : (∀ e, ¬ First Fault as e) ↔ ∀ a ∈ as, ∀ e, ¬ Fault a e := by
  rw [← not_exists, exists_iff]
  simp only [not_exists, not_and]

theorem append_iff : First Fault (as ++ bs) e ↔
    First Fault as e ∨ (∀ a ∈ as, ∀ e, ¬ Fault a e) ∧ First Fault bs e := by
  induction as with
  | nil => simp [not_nil]
  | cons a as ih =>
    rw [List.cons_append, cons_iff, cons_iff, ih]
    simp only [List.mem_cons, forall_eq_or_imp]
    tauto

theorem flatMap_iff {f : γ → List α} {gs : List γ} :
    First Fault (gs.flatMap f) e ↔ First (fun g e => First Fault (f g) e) gs e := by
  induction gs with
  | nil => exact iff_of_false not_nil not_nil
  | cons g gs ih => rw [List.flatMap_cons, append_iff, cons_iff, ih, none_iff]

end First

-- ---------------------------------------------------------------------------
-- Failures of computations
-- ---------------------------------------------------------------------------

theorem bind_eq_error {x : Except ε α} {f : α → Except ε β} :
    x >>= f = .error e ↔ x = .error e ∨ ∃ a, x = .ok a ∧ f a = .error e := by
  cases x <;> simp [bind, Except.bind]

theorem map_eq_error {x : Except ε α} {f : α → β} : f <$> x = .error e ↔ x = .error e := by
  cases x <;> simp [Functor.map, Except.map]

theorem forall_ne_error_iff {x : Except ε α} : (∀ e, x ≠ .error e) ↔ ∃ a, x = .ok a := by
  cases x <;> simp

/-- A step whose failures are the faults of something, in front of other steps. -/
theorem bind_eq_error_iff_first {Fault : γ → ε → Prop} {x : Except ε α} {f : α → Except ε β}
    (step : ∀ e, x = .error e ↔ Fault c e)
    (rest : ∀ a, x = .ok a → (f a = .error e ↔ First Fault cs e)) :
    x >>= f = .error e ↔ First Fault (c :: cs) e := by
  rw [bind_eq_error, First.cons_iff, step]
  refine or_congr_right ?_
  simp only [← step]
  constructor
  · rintro ⟨a, hx, hf⟩
    exact ⟨forall_ne_error_iff.mpr ⟨a, hx⟩, (rest a hx).mp hf⟩
  · rintro ⟨fine, h⟩
    obtain ⟨a, hx⟩ := forall_ne_error_iff.mp fine
    exact ⟨a, hx, (rest a hx).mpr h⟩

theorem mapM_eq_error {f : α → Except ε β} {as : List α} :
    as.mapM f = .error e ↔ First (fun a e => f a = .error e) as e := by
  induction as generalizing e with
  | nil =>
    rw [List.mapM_nil]
    exact iff_of_false (fun h => nomatch h) First.not_nil
  | cons a as ih =>
    rw [List.mapM_cons]
    refine bind_eq_error_iff_first (fun _ => Iff.rfl) fun b _ => ?_
    rw [← ih, bind_eq_error]
    simp [pure, Except.pure]

theorem forM_eq_error {f : α → Except ε Unit} {as : List α} :
    as.forM f = .error e ↔ First (fun a e => f a = .error e) as e := by
  induction as generalizing e with
  | nil => exact iff_of_false (fun h => nomatch h) First.not_nil
  | cons a as ih => exact bind_eq_error_iff_first (fun _ => Iff.rfl) fun _ _ => ih

-- ---------------------------------------------------------------------------
-- Errors of one kind
-- ---------------------------------------------------------------------------

def FailsOnly (P : ε → Prop) (x : Except ε α) : Prop := ∀ e, x = .error e → P e

namespace FailsOnly

variable {P : ε → Prop} {x : Except ε α}

theorem ok (a : α) : FailsOnly P (.ok a) := fun _ h => nomatch h

theorem error (h : P e) : FailsOnly P (.error e : Except ε α) := by
  rintro _ ⟨⟩
  exact h

theorem mono {Q : ε → Prop} (h : FailsOnly P x) (weaker : ∀ e, P e → Q e) : FailsOnly Q x :=
  fun e he => weaker e (h e he)

theorem bind {f : α → Except ε β} (hx : FailsOnly P x) (hf : ∀ a, FailsOnly P (f a)) :
    FailsOnly P (x >>= f) := by
  intro e h
  rcases bind_eq_error.mp h with h | ⟨a, -, h⟩
  · exact hx e h
  · exact hf a e h

theorem map (hx : FailsOnly P x) (f : α → β) : FailsOnly P (f <$> x) :=
  fun e h => hx e (map_eq_error.mp h)

theorem mapM {f : α → Except ε β} (hf : ∀ a, FailsOnly P (f a)) (as : List α) :
    FailsOnly P (as.mapM f) := by
  intro e h
  obtain ⟨a, -, fails⟩ := (mapM_eq_error.mp h).exists_fault
  exact hf a e fails

end FailsOnly

end FilterSql
