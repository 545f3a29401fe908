import Mathlib.Data.List.Forall2

/-!
# Two computations side by side

`Agree E R`: two computations in `Except` come out alike, which is with results that `R` relates or
with errors that `E` relates. What is put together from computations that agree agrees as well.
-/

namespace FilterSql

inductive Agree (E : ε → ε → Prop) (R : α → β → Prop) : Except ε α → Except ε β → Prop
  | ok (h : R a b) : Agree E R (.ok a) (.ok b)
  | error (h : E e e') : Agree E R (.error e) (.error e')

namespace Agree

variable {E : ε → ε → Prop}

theorem refl (hE : ∀ e, E e e) (x : Except ε α) : Agree E (· = ·) x x := by
  cases x with
  | error e => exact .error (hE e)
  | ok a => exact .ok rfl

theorem imp {x : Except ε α} {y : Except ε β} (h : Agree E R x y) (hR : ∀ a b, R a b → S a b) :
    Agree E S x y := by
  cases h with
  | ok h => exact .ok (hR _ _ h)
  | error h => exact .error h

theorem bind {x : Except ε α} {y : Except ε β} {f : α → Except ε γ} {g : β → Except ε δ}
    (h : Agree E R x y) (hf : ∀ a b, R a b → Agree E S (f a) (g b)) :
    Agree E S (x >>= f) (y >>= g) := by
  cases h with
  | ok h => exact hf _ _ h
  | error h => exact .error h

theorem map {x : Except ε α} {y : Except ε β} {f : α → γ} {g : β → δ} (h : Agree E R x y)
    (hf : ∀ a b, R a b → S (f a) (g b)) : Agree E S (f <$> x) (g <$> y) := by
  cases h with
  | ok h => exact .ok (hf _ _ h)
  | error h => exact .error h

theorem mapError {x : Except ε α} {y : Except ε β} {F : ε' → ε' → Prop} {f : ε → ε'}
    (h : Agree E R x y) (hf : ∀ e e', E e e' → F (f e) (f e')) :
    Agree F R (x.mapError f) (y.mapError f) := by
  cases h with
  | ok h => exact .ok h
  | error h => exact .error (hf _ _ h)

theorem mapM {f : α → Except ε γ} {g : β → Except ε δ}
    (h : List.Forall₂ (fun a b => Agree E R (f a) (g b)) as bs) :
    Agree E (List.Forall₂ R) (as.mapM f) (bs.mapM g) := by
  induction h with
  | nil => exact .ok .nil
  | cons h _ ih =>
    rw [List.mapM_cons, List.mapM_cons]
    exact h.bind fun _ _ hfirst => ih.bind fun _ _ hrest => .ok (.cons hfirst hrest)

theorem either {x : Except ε α} {y : Except ε β} (h : Agree (· = ·) R x y) :
    (∃ e, x = .error e ∧ y = .error e) ∨ ∃ a b, x = .ok a ∧ y = .ok b ∧ R a b := by
  cases h with
  | ok h => exact .inr ⟨_, _, rfl, rfl, h⟩
  | error h => exact .inl ⟨_, rfl, congrArg Except.error h.symm⟩

end Agree

end FilterSql
