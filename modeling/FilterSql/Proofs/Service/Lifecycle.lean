import FilterSql.Proofs.Service.QueryAnswer

/-!
# The life of a service

A service runs, is told to stop, has its database closed, and answers requests all the while. No
request changes whether it is shutting down or whether the database is open, and nothing takes the
one or the other back: `one_way` says of every sequence of events what becomes of the two, and what
queries, health checks and another closing meet with afterwards.
-/

namespace FilterSql.Service

open Query

variable {σ α β : Type}

-- ---------------------------------------------------------------------------
-- Work that leaves the flags alone
-- ---------------------------------------------------------------------------

structure SameFlags (st st' : State σ) : Prop where
  shuttingDown : st'.shuttingDown = st.shuttingDown
  databaseOpen : st'.databaseOpen = st.databaseOpen

theorem SameFlags.trans {st st' st'' : State σ} (h : SameFlags st st') (h' : SameFlags st' st'') :
    SameFlags st st'' :=
  ⟨h'.shuttingDown.trans h.shuttingDown, h'.databaseOpen.trans h.databaseOpen⟩

def KeepsFlags (x : Handler σ α) : Prop := ∀ st, SameFlags st (x st).2

namespace KeepsFlags

theorem pure (a : α) : KeepsFlags (Pure.pure a : Handler σ α) := fun _ => ⟨rfl, rfl⟩

theorem throw (e : Breakdown) : KeepsFlags (MonadExcept.throw e : Handler σ α) :=
  fun _ => ⟨rfl, rfl⟩

theorem get : KeepsFlags (MonadState.get : Handler σ (State σ)) := fun _ => ⟨rfl, rfl⟩

theorem bind {x : Handler σ α} {f : α → Handler σ β} (hx : KeepsFlags x)
    (hf : ∀ a, KeepsFlags (f a)) : KeepsFlags (x >>= f) := by
  intro st
  have first := hx st
  match h : x st with
  | (.ok a, st') =>
    rw [run_bind f h]
    rw [h] at first
    exact first.trans (hf a st')
  | (.error e, st') =>
    rw [run_bind_error f h]
    rwa [h] at first

theorem callBackend (x : BackendM σ α) : KeepsFlags (Service.callBackend x) := fun _ => ⟨rfl, rfl⟩

end KeepsFlags

variable {s : Service σ}

theorem keepsFlags_runQuery (clock : Clock) (body : QueryBody) :
    KeepsFlags (s.runQuery clock body) := by
  unfold runQuery
  refine .bind .get fun state => ?_
  split
  · exact .pure _
  · split
    · exact .pure _
    · exact .throw _
    · refine .bind (.callBackend _) fun result => ?_
      split
      · exact .pure _
      · exact .pure _

theorem keepsFlags_respond (clock : Clock) (r : HttpRequest) : KeepsFlags (s.respond clock r) := by
  have atEndpoint (e : Endpoint) : KeepsFlags (s.atEndpoint clock e r) := by
    unfold atEndpoint
    split
    · exact .bind .get fun _ => .pure _
    · exact .bind .get fun _ => .pure _
    · unfold postQuery
      split
      · exact keepsFlags_runQuery clock _
      · exact .pure _
    · exact .pure _
  unfold respond
  simp only
  split
  · exact .pure _
  · split
    · exact .bind (atEndpoint _) fun _ => .pure _
    · exact .pure _

-- ---------------------------------------------------------------------------
-- Closing
-- ---------------------------------------------------------------------------

section

variable {ε : Type} {st : State σ}

/-- The database is closed even if it fails to be. -/
theorem state_close (closing : Except ε Unit) (st : State σ) :
    (st.close closing).2 = st.closeDatabase := by
  unfold State.close
  split
  · rfl
  · rename_i closed
    simp only [Bool.not_eq_true] at closed
    simp only [State.closeDatabase, ← closed]

theorem close_of_closed (closed : st.databaseOpen = false) (closing : Except ε Unit) :
    st.close closing = (.ok (), st) := by
  simp [State.close, closed]

theorem connect_of_closed (closed : st.databaseOpen = false) :
    st.connect = .error .closed := by
  simp [State.connect, closed]

theorem shutdown_eq_self (triggered : st.shuttingDown = true) (closed : st.databaseOpen = false) :
    st.shutdown = st := by
  simp only [State.shutdown, State.trigger, State.closeDatabase, ← triggered, ← closed]

end

-- ---------------------------------------------------------------------------
-- Events
-- ---------------------------------------------------------------------------

inductive Event where
  | trigger
  | shutdown
  | close (closing : Except DataError Unit)
  | request (clock : Clock) (r : HttpRequest)

namespace Event

def stops : Event → Bool
  | trigger | shutdown => true
  | close _ | request .. => false

def closes : Event → Bool
  | shutdown | close _ => true
  | trigger | request .. => false

end Event

def step (s : Service σ) (st : State σ) : Event → State σ
  | .trigger => st.trigger
  | .shutdown => st.shutdown
  | .close closing => (st.close closing).2
  | .request clock r => (s.respond clock r st).2

def run (s : Service σ) (st : State σ) (events : List Event) : State σ := events.foldl s.step st

theorem flags_step (st : State σ) (e : Event) :
    (s.step st e).shuttingDown = (st.shuttingDown || e.stops) ∧
    (s.step st e).databaseOpen = (st.databaseOpen && !e.closes) := by
  cases e with
  | trigger => simp [step, State.trigger, Event.stops, Event.closes]
  | shutdown => simp [step, State.shutdown, State.trigger, State.closeDatabase, Event.stops,
      Event.closes]
  | close closing => simp [step, state_close, State.closeDatabase, Event.stops, Event.closes]
  | request clock r =>
    have same := keepsFlags_respond (s := s) clock r st
    simp [step, same.shuttingDown, same.databaseOpen, Event.stops, Event.closes]

theorem flags_run (st : State σ) (events : List Event) :
    (s.run st events).shuttingDown = (st.shuttingDown || events.any Event.stops) ∧
    (s.run st events).databaseOpen = (st.databaseOpen && !events.any Event.closes) := by
  induction events generalizing st with
  | nil => simp [run]
  | cons e events ih =>
    obtain ⟨stopped, closed⟩ := flags_step (s := s) st e
    obtain ⟨stoppedLater, closedLater⟩ := ih (s.step st e)
    rw [stopped, Bool.or_assoc] at stoppedLater
    rw [closed, Bool.and_assoc, ← Bool.not_or] at closedLater
    exact ⟨stoppedLater, closedLater⟩

-- ---------------------------------------------------------------------------
-- Requests to a service that has been stopped
-- ---------------------------------------------------------------------------

theorem respond_health {r : HttpRequest} (get : r.method = "GET")
    (path : r.path = "/api/v1/health") (clock : Clock) :
    s.respond clock r = MonadState.get >>= fun st =>
      pure ((health s st.databaseOpen).withHeaders (originHeader s r)) := by
  unfold respond
  simp only [path, Endpoint.ofPath?, get, atEndpoint]
  rfl

theorem handles_health {r : HttpRequest} (get : r.method = "GET")
    (path : r.path = "/api/v1/health") (clock : Clock) (st : State σ) :
    s.Handles clock r st
      (.ok ((health s st.databaseOpen).withHeaders (originHeader s r))) st [] := by
  unfold Handles
  rw [respond_health get path, respond_health get path]
  exact traces_get (fun _ => rfl) (.pure _ st)

/-- From the start of a service on. -/
theorem one_way (s : Service σ) (backend : σ) (events : List Event) :
    let st := s.run (.initial backend) events
    (st.shuttingDown = true ↔ ∃ e ∈ events, e.stops = true) ∧
    (st.databaseOpen = false ↔ ∃ e ∈ events, e.closes = true) ∧
    (∀ later, (st.shuttingDown = true → (s.run st later).shuttingDown = true) ∧
      (st.databaseOpen = false → (s.run st later).databaseOpen = false)) ∧
    (st.databaseOpen = false → st.connect = .error .closed ∧
      ∀ closing : Except DataError Unit, st.close closing = (.ok (), st)) ∧
    (∀ later, (s.run st.shutdown later).shuttingDown = true ∧
      (s.run st.shutdown later).databaseOpen = false ∧
      (s.run st.shutdown later).shutdown = s.run st.shutdown later) ∧
    (st.shuttingDown = true → ∀ clock r body, r.method = "POST" → r.path = "/api/v1/query" →
      r.queryBody = .ok body → ∃ a, s.Handles clock r st (.ok a) st [] ∧ a.status = 503) ∧
    (∀ clock r, r.method = "GET" → r.path = "/api/v1/health" → ∃ a,
      s.Handles clock r st (.ok a) st [] ∧ a.status = if st.databaseOpen then 200 else 503) := by
  intro st
  obtain ⟨stopped, closed⟩ := flags_run (s := s) (.initial backend) events
  refine ⟨?stops, ?closes, fun later => ?stays, fun closed => ?again, fun later => ?down,
    fun triggered clock r body post path read => ?turnedAway, fun clock r get path => ?healthy⟩
  case stops =>
    rw [show st.shuttingDown = _ from stopped]
    simp [State.initial]
  case closes =>
    rw [show st.databaseOpen = _ from closed]
    simp [State.initial]
  case stays =>
    obtain ⟨stopped, closed⟩ := flags_run (s := s) st later
    constructor
    · intro h
      rw [stopped, h, Bool.true_or]
    · intro h
      rw [closed, h, Bool.false_and]
  case again => exact ⟨connect_of_closed closed, close_of_closed closed⟩
  case down =>
    obtain ⟨stopped, closed⟩ := flags_run (s := s) st.shutdown later
    have triggered : (s.run st.shutdown later).shuttingDown = true := stopped
    have shut : (s.run st.shutdown later).databaseOpen = false := closed
    exact ⟨triggered, shut, shutdown_eq_self triggered shut⟩
  case turnedAway =>
    exact ⟨_, handles_query post path read (traces_runQuery_shuttingDown triggered), rfl⟩
  case healthy => exact ⟨_, handles_health get path clock st, rfl⟩

/-- Between two signals the database is closed. The query that comes last is turned away. -/
theorem one_way_closedAndTriggered :
    let s := ofRows { total := 25 }
    let st := s.run (.initial ()) [.trigger, .close (.error (.io "busy")), .trigger]
    st.connect = .error .closed ∧
      ∃ a, s.Handles noon explainedQuery st (.ok a) st [] ∧ a.status = 503 := by
  intro s st
  obtain ⟨body, read, -⟩ := exists_ok_of_toOption
    (show explainedQuery.queryBody.toOption.map (·.wantsDebug) = some true by decide +kernel)
  obtain ⟨-, -, -, closed, -, turnedAway, -⟩ :=
    one_way s () [.trigger, .close (.error (.io "busy")), .trigger]
  exact ⟨(closed rfl).1, turnedAway rfl noon explainedQuery body rfl (by decide +kernel) read⟩

end FilterSql.Service
