import FilterSql.Proofs.Execution.Trace
import FilterSql.Service.Router

/-!
# Services and the calls that they make

`Handles`: what comes of a request to a service, together with the calls that its backend sees.
-/

namespace FilterSql.Service

open Query

variable {σ : Type}

def logged (s : Service σ) : Service (σ × List BackendCall) where
  catalog := s.catalog
  config := s.config
  maxPageSize := s.maxPageSize
  host := s.host
  port := s.port
  interfaces := s.interfaces
  backend databaseOpen := (s.backend databaseOpen).logged
  faultDetail := s.faultDetail

def State.logged (st : State σ) (log : List BackendCall) : State (σ × List BackendCall) :=
  ⟨st.shuttingDown, st.databaseOpen, st.backend, log⟩

/-- What comes of a request, the state in which the service is left, and the calls of the backend
on the way. -/
def Handles (s : Service σ) (clock : Clock) (r : HttpRequest) (st : State σ)
    (result : Except Breakdown HttpResponse) (st' : State σ) (calls : List BackendCall) : Prop :=
  Traces State.logged (s.respond clock r) (s.logged.respond clock r) st result st' calls

section

variable {α : Type} {x : BackendM σ α} {y : BackendM (σ × List BackendCall) α} {st : State σ}

def received : Except ExecutionFailure α → Except Breakdown (Except DataError α)
  | .ok a => .ok (.ok a)
  | .error (.backend e) => .ok (.error e)
  | .error .overflow => .error .overflow

theorem traces_callBackend (h : Traces Prod.mk x y st.backend result b calls) :
    Traces State.logged (callBackend x) (callBackend y) st (received result)
      { st with backend := b } calls := by
  refine ⟨?_, fun log => ?_⟩
  · simp only [callBackend, ExceptT.mk, h.1]
    rfl
  · simp only [callBackend, ExceptT.mk, State.logged, h.2 log]
    rfl

/-- The state is looked at. The log does not show in what is seen of it. -/
theorem traces_get {f : State σ → Handler σ α}
    {g : State (σ × List BackendCall) → Handler (σ × List BackendCall) α}
    (same : ∀ log, g (st.logged log) = g (st.logged []))
    (h : Traces State.logged (f st) (g (st.logged [])) st result st' calls) :
    Traces State.logged (get >>= f) (get >>= g) st result st' calls :=
  ⟨h.1, fun log => by rw [← h.2 log, ← same log]; rfl⟩

end

end FilterSql.Service
