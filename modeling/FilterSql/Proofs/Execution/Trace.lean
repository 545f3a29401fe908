import FilterSql.Execution
import FilterSql.Proofs.Outcome

/-!
# Computations and the calls that they make

`Traces`: what a computation comes to, and which calls of a backend it makes on the way, read off a
second run of it over the logged backend. The rules follow the computation step by step.
-/

namespace FilterSql

variable {σ τ ε α β : Type}

/-- From a state, a computation and its counterpart over the logged backend come to the same result
and the same state, and the log is longer by the calls. Beside the log the state is seen through
`logged`. -/
def Traces (logged : σ → List BackendCall → τ) (x : ExceptT ε (StateM σ) α)
    (y : ExceptT ε (StateM τ) α) (s : σ) (result : Except ε α) (s' : σ)
    (calls : List BackendCall) : Prop :=
  x s = (result, s') ∧ ∀ log, y (logged s log) = (result, logged s' (log ++ calls))

namespace Traces

variable {logged : σ → List BackendCall → τ} {x : ExceptT ε (StateM σ) α}
  {y : ExceptT ε (StateM τ) α} {f : α → ExceptT ε (StateM σ) β} {g : α → ExceptT ε (StateM τ) β}

theorem pure (a : α) (s : σ) :
    Traces logged (Pure.pure a : ExceptT ε (StateM σ) α) (Pure.pure a) s (.ok a) s [] :=
  ⟨rfl, fun log => by rw [List.append_nil]; rfl⟩

theorem throw (e : ε) (s : σ) :
    Traces logged (MonadExcept.throw e : ExceptT ε (StateM σ) α) (MonadExcept.throw e) s
      (.error e) s [] :=
  ⟨rfl, fun log => by rw [List.append_nil]; rfl⟩

theorem bind (hx : Traces logged x y s (.ok a) s₁ calls)
    (hf : Traces logged (f a) (g a) s₁ result s₂ more) :
    Traces logged (x >>= f) (y >>= g) s result s₂ (calls ++ more) := by
  refine ⟨(run_bind f hx.1).trans hf.1, fun log => ?_⟩
  rw [run_bind g (hx.2 log), hf.2, List.append_assoc]

theorem bind_error (hx : Traces logged x y s (.error e) s' calls) :
    Traces logged (x >>= f) (y >>= g) s (.error e) s' calls :=
  ⟨run_bind_error f hx.1, fun log => run_bind_error g (hx.2 log)⟩

theorem bind_pure (hx : Traces logged x y s (.ok a) s' calls) (h : α → β) :
    Traces logged (x >>= fun a => Pure.pure (h a)) (y >>= fun a => Pure.pure (h a)) s (.ok (h a))
      s' calls := by
  rw [← List.append_nil calls]
  exact hx.bind (.pure (h a) s')

theorem unique (seen : ∀ {s t : σ} {l l'}, logged s l = logged t l' → s = t ∧ l = l')
    (h : Traces logged x y s result s' calls) (h' : Traces logged x y s result' t' calls') :
    result = result' ∧ s' = t' ∧ calls = calls' := by
  have same := (h.2 []).symm.trans (h'.2 [])
  rw [Prod.mk.injEq, List.nil_append, List.nil_append] at same
  exact ⟨same.1, seen same.2⟩

end Traces

-- ---------------------------------------------------------------------------
-- The calls of a backend
-- ---------------------------------------------------------------------------

namespace Traces

theorem require {holds : Bool} (h : holds = true) (s : σ) :
    Traces Prod.mk (Backend.require holds) (Backend.require holds) s (.ok ()) s [] := by
  subst h
  exact .pure () s

theorem require_false {holds : Bool} (h : holds = false) (s : σ) :
    Traces Prod.mk (Backend.require holds) (Backend.require holds) s (.error .overflow) s [] := by
  subst h
  exact .throw ExecutionFailure.overflow s

theorem call (c : BackendCall) {x : BackendM σ α} (h : x s = (result, s')) :
    Traces Prod.mk x (Backend.record c >>= fun _ => Backend.onFirst x) s result s' [c] := by
  refine ⟨h, fun log => ?_⟩
  have recorded : Backend.record c (s, log) = (.ok (), s, log ++ [c]) := rfl
  rw [run_bind _ recorded, Backend.onFirst, h]

end Traces

namespace Backend

variable {b : Backend σ} {statement : Query.Statement} {size : Nat}

theorem traces_pageRanges (h : b.pageRanges statement size s = (result, s')) :
    Traces Prod.mk (b.pageRanges statement size) (b.logged.pageRanges statement size) s result s'
      [.pageRanges statement size] :=
  .call _ h

theorem traces_fetchPage (h : b.fetchPage statement size range s = (result, s')) :
    Traces Prod.mk (b.fetchPage statement size range) (b.logged.fetchPage statement size range) s
      result s' [.fetchPage statement size range] :=
  .call _ h

end Backend

end FilterSql
