import FilterSql.Proofs.Execution.Protocol
import FilterSql.Proofs.Query.Blame
import FilterSql.Proofs.Service.Trace

/-!
# Answers to queries

A query is rejected, turned away, refused, failed or answered, whichever comes first of these:
`Judged` says when each of them is the case, which calls the backend has seen by then and in which
state the service is left, and `Verdict.Shown` what the answer shows of it. Whether a query asks to
be explained makes no difference to any of this.
-/

namespace FilterSql

open Query

variable {σ : Type}

namespace Service

def HttpRequest.queryBody (r : HttpRequest) : Except Rejection QueryBody :=
  QueryBody.read (r.header? "content-type") r.body

namespace HttpResponse

def members (a : HttpResponse) : Json.Members :=
  match a.content with
  | .json (.object members) => members
  | _ => []

def member? (a : HttpResponse) (key : String) : Option Json := a.members.get? key

def without (keys : List String) (a : HttpResponse) : HttpResponse :=
  match a.content with
  | .json (.object members) =>
    { a with content := .json (.object (members.filter fun m => m.1 ∉ keys)) }
  | _ => a

@[simp] theorem member?_json (status : Nat) (members : Json.Members) (headers : Headers)
    (key : String) :
    ((json status members).withHeaders headers).member? key = members.lookup key := rfl

@[simp] theorem status_json (status : Nat) (members : Json.Members) (headers : Headers) :
    ((json status members).withHeaders headers).status = status := rfl

end HttpResponse

-- ---------------------------------------------------------------------------
-- Verdicts
-- ---------------------------------------------------------------------------

inductive Verdict where
  | shuttingDown
  | refused (e : QueryError)
  | failed (cause : DataError)
  | succeeded (c : Compiled) (e : Execution)

/-- The verdict on a query, the state in which it leaves the service, and the calls. -/
inductive Judged (s : Service σ) (body : QueryBody) (st : State σ) :
    Verdict → State σ → List BackendCall → Prop
  | shuttingDown (triggered : st.shuttingDown = true) : Judged s body st .shuttingDown st []
  | refused (running : st.shuttingDown = false)
      (refuses : compile s.catalog s.config body.request = .error (.refused e)) :
      Judged s body st (.refused e) st []
  | failed (running : st.shuttingDown = false)
      (compiles : compile s.catalog s.config body.request = .ok c)
      (fails : (s.backend st.databaseOpen).Protocol c.statement (body.page s.maxPageSize)
        st.backend (.error (.backend cause)) b calls)
      (carried : ∀ call ∈ calls, call.statement = c.statement) :
      Judged s body st (.failed cause) { st with backend := b } calls
  | succeeded (running : st.shuttingDown = false)
      (compiles : compile s.catalog s.config body.request = .ok c)
      (executes : (s.backend st.databaseOpen).Protocol c.statement (body.page s.maxPageSize)
        st.backend (.ok e) b calls)
      (carried : ∀ call ∈ calls, call.statement = c.statement) :
      Judged s body st (.succeeded c e) { st with backend := b } calls

/-- The work on a query that is executed does not break down. -/
def Holds (s : Service σ) (body : QueryBody) (st : State σ) : Prop :=
  ∀ c, st.shuttingDown = false → compile s.catalog s.config body.request = .ok c →
    ¬ (s.backend st.databaseOpen).BreaksDown c.statement (body.page s.maxPageSize) st.backend

def Verdict.answer (clock : Clock) (body : QueryBody) : Verdict → HttpResponse
  | shuttingDown => Service.shuttingDown
  | refused e => failure clock body e
  | failed cause => failure clock body (.executionFailure cause)
  | succeeded c e => success clock body c e

structure AsksSame (body other : QueryBody) : Prop where
  request : other.request = body.request
  page : ∀ limit, other.page limit = body.page limit

theorem asksSame_withDebug (body : QueryBody) (debug : Option Bool) :
    AsksSame body { body with debug } :=
  ⟨rfl, fun _ => rfl⟩

variable {s : Service σ} {r : HttpRequest} {st : State σ} {body : QueryBody}

theorem traces_runQuery_shuttingDown (triggered : st.shuttingDown = true) :
    Traces State.logged (s.runQuery clock body) (s.logged.runQuery clock body) st
      (.ok (Verdict.shuttingDown.answer clock body)) st [] := by
  refine traces_get (fun _ => rfl) ?_
  simp only [State.logged, triggered, if_true]
  exact .pure _ st

theorem traces_runQuery_refused (running : st.shuttingDown = false)
    (refuses : compile s.catalog s.config body.request = .error (.refused e)) :
    Traces State.logged (s.runQuery clock body) (s.logged.runQuery clock body) st
      (.ok ((Verdict.refused e).answer clock body)) st [] := by
  have logged : compile s.logged.catalog s.logged.config body.request = _ := refuses
  refine traces_get (fun _ => rfl) ?_
  simp only [State.logged, running, Bool.false_eq_true, if_false, refuses, logged]
  exact .pure _ st

def Verdict.ofExecution (c : Compiled) : Except DataError Execution → Verdict
  | .ok e => succeeded c e
  | .error cause => failed cause

theorem traces_runQuery_compiled (running : st.shuttingDown = false)
    (compiles : compile s.catalog s.config body.request = .ok c)
    (executes : Traces State.logged
      (callBackend ((s.backend st.databaseOpen).execute c.statement (body.page s.maxPageSize)))
      (callBackend ((s.logged.backend st.databaseOpen).execute c.statement
        (body.page s.maxPageSize))) st (.ok execution) st' calls) :
    Traces State.logged (s.runQuery clock body) (s.logged.runQuery clock body) st
      (.ok ((Verdict.ofExecution c execution).answer clock body)) st' calls := by
  have logged : compile s.logged.catalog s.logged.config body.request = _ := compiles
  refine traces_get (fun _ => rfl) ?_
  simp only [State.logged, running, Bool.false_eq_true, if_false, compiles, logged]
  rw [← List.append_nil calls]
  refine executes.bind ?_
  cases execution <;> exact .pure _ st'

/-- The verdict on a query that has been read. It is the same on every query for the same rows. -/
theorem judged_runQuery (built : s.catalog.Built) (holds : s.Holds body st) :
    ∃ v st' calls, s.Judged body st v st' calls ∧ ∀ clock other, AsksSame body other →
      Traces State.logged (s.runQuery clock other) (s.logged.runQuery clock other) st
        (.ok (v.answer clock other)) st' calls := by
  cases running : st.shuttingDown with
  | true =>
    exact ⟨_, st, [], .shuttingDown running, fun _ _ _ =>
      traces_runQuery_shuttingDown running⟩
  | false =>
    match compiled : compile s.catalog s.config body.request with
    | .error f =>
      obtain ⟨e, rfl, -⟩ := isValidation_of_compile built compiled
      refine ⟨_, st, [], .refused running compiled, fun clock other same => ?_⟩
      rw [← same.request] at compiled
      exact traces_runQuery_refused running compiled
    | .ok c =>
      have sound := holds c running compiled
      obtain ⟨result, b, calls, traces, protocol⟩ := Backend.traces_execute fun overruns =>
        sound (.inl overruns)
      match result with
      | .ok e =>
        refine ⟨_, _, calls, .succeeded running compiled protocol protocol.carried,
          fun clock other same => ?_⟩
        rw [← same.request] at compiled
        rw [← same.page] at traces
        exact traces_runQuery_compiled running compiled (traces_callBackend traces)
      | .error (.backend cause) =>
        refine ⟨_, _, calls, .failed running compiled protocol protocol.carried,
          fun clock other same => ?_⟩
        rw [← same.request] at compiled
        rw [← same.page] at traces
        exact traces_runQuery_compiled running compiled (traces_callBackend traces)
      | .error .overflow => exact absurd (.inr ⟨b, calls, protocol⟩) sound

-- ---------------------------------------------------------------------------
-- Answers
-- ---------------------------------------------------------------------------

/-- What an answer shows of the verdict, and whether it explains itself. -/
def Verdict.Shown (debug : Bool) (a : HttpResponse) : Verdict → Prop
  | shuttingDown => a.status = 503 ∧ a.member? "debug" = none
  | refused e =>
    a.status = 400 ∧ a.member? "errorKind" = some (.string e.code) ∧
      (a.member? "debug").isSome = debug
  | failed _ =>
    a.status = 502 ∧ a.member? "errorKind" = some (.string "EXECUTION_FAILURE") ∧
      (a.member? "debug").isSome = debug
  | succeeded c _ =>
    a.status = 200 ∧ (a.member? "debug").isSome = debug ∧
      ∀ explained, a.member? "debug" = some explained →
        ∃ members : Json.Members, explained = .object members ∧
          members.get? "sql" = some (.string c.statement.sql) ∧
          members.get? "params" = some (.array (c.statement.params.map Scalar.toJson))

theorem shown_failure (clock : Clock) (body : QueryBody) (e : QueryError) (headers : Headers) :
    ((failure clock body e).withHeaders headers).status = failureStatus e ∧
    ((failure clock body e).withHeaders headers).member? "errorKind" = some (.string e.code) ∧
    (((failure clock body e).withHeaders headers).member? "debug").isSome = body.wantsDebug := by
  cases h : body.wantsDebug <;> simp [failure, h, Keyed.lookup_cons_eq_ite]

theorem lookup_debug_envelope (e : Execution) : e.envelope.lookup "debug" = none := by
  cases h : e.pagination <;> simp [Execution.envelope, h, Keyed.lookup_cons_eq_ite]

theorem member?_debug_success (clock : Clock) (body : QueryBody) (c : Compiled) (e : Execution)
    (headers : Headers) : ((success clock body c e).withHeaders headers).member? "debug" =
      if body.wantsDebug then some (debugInfo clock c e) else none := by
  cases h : body.wantsDebug <;>
    simp [success, h, Keyed.lookup_cons_eq_ite, List.lookup_append, lookup_debug_envelope]

theorem Judged.shown (judged : s.Judged body st v st' calls) (built : s.catalog.Built)
    (other : QueryBody) (clock : Clock) (headers : Headers) :
    v.Shown other.wantsDebug ((v.answer clock other).withHeaders headers) := by
  cases judged with
  | shuttingDown => exact ⟨rfl, rfl⟩
  | refused _ refuses =>
    obtain ⟨_, ⟨⟩, valid⟩ := isValidation_of_compile built refuses
    obtain ⟨status, kind, debug⟩ := shown_failure clock other _ headers
    rw [failureStatus, if_pos valid] at status
    exact ⟨status, kind, debug⟩
  | failed =>
    exact shown_failure clock other _ headers
  | succeeded =>
    refine ⟨rfl, ?_, ?_⟩
    · rw [Verdict.answer, member?_debug_success]
      cases other.wantsDebug <;> rfl
    · intro explained h
      rw [Verdict.answer, member?_debug_success, Option.ite_none_right_eq_some,
        Option.some.injEq] at h
      obtain ⟨-, rfl⟩ := h
      exact ⟨_, rfl, rfl, rfl⟩

theorem without_answer (same : AsksSame body other) (clock clock' : Clock) (v : Verdict)
    (headers : Headers) :
    ((v.answer clock other).withHeaders headers).without ["debug", "timestamp"] =
      ((v.answer clock' body).withHeaders headers).without ["debug", "timestamp"] := by
  have recordType : other.recordType = body.recordType :=
    congrArg Request.recordType same.request
  have debug (shown : Bool) (j : Json) : (if shown then [("debug", j)] else []).filter
      (fun m => m.1 ∉ ["debug", "timestamp"]) = [] := by
    cases shown <;> rfl
  cases v with
  | shuttingDown => rfl
  | refused | failed | succeeded =>
    simp only [Verdict.answer, failure, success, HttpResponse.without, HttpResponse.json,
      HttpResponse.withHeaders, List.filter_append, debug, recordType]
    rfl

theorem respond_query (post : r.method = "POST") (path : r.path = "/api/v1/query") :
    s.respond clock r =
      s.postQuery clock r >>= fun a => pure (a.withHeaders (originHeader s r)) := by
  unfold respond
  simp only [path, Endpoint.ofPath?, post, atEndpoint]
  rfl

theorem handles_query (post : r.method = "POST") (path : r.path = "/api/v1/query")
    (read : r.queryBody = .ok body)
    (h : Traces State.logged (s.runQuery clock body) (s.logged.runQuery clock body) st (.ok a) st'
      calls) :
    s.Handles clock r st (.ok (a.withHeaders (originHeader s r))) st' calls := by
  unfold Handles
  rw [respond_query post path, respond_query post path, postQuery, postQuery]
  simp only [show QueryBody.read (r.header? "content-type") r.body = .ok body from read]
  exact h.bind_pure _

theorem handles_rejected (post : r.method = "POST") (path : r.path = "/api/v1/query")
    (unread : r.queryBody = .error e) :
    s.Handles clock r st
      (.ok ((rejected (s.faultDetail r.body) e).withHeaders (originHeader s r))) st [] := by
  unfold Handles
  rw [respond_query post path, respond_query post path, postQuery, postQuery]
  simp only [show QueryBody.read (r.header? "content-type") r.body = .error e from unread]
  exact (Traces.pure (rejected (s.faultDetail r.body) e) st).bind_pure _

/-- What comes of a query: of one that cannot be read, of one that has been read, and of one that
asks for the same rows but for an explanation. -/
theorem query_answered (built : s.catalog.Built) (post : r.method = "POST")
    (path : r.path = "/api/v1/query") (holds : ∀ body, r.queryBody = .ok body → s.Holds body st)
    (clock : Clock) :
    (∀ e, r.queryBody = .error e → ∃ a, s.Handles clock r st (.ok a) st [] ∧ a.status = 400 ∧
      a.content = .json (.object [("error", .string "bad_request"), ("code", .string e.code),
        ("message", .string (e.message (s.faultDetail r.body)))])) ∧
    (∀ body, r.queryBody = .ok body → ∃ v a st' calls, s.Judged body st v st' calls ∧
      s.Handles clock r st (.ok a) st' calls ∧ v.Shown body.wantsDebug a) ∧
    ∀ body bytes debug clock', r.queryBody = .ok body →
      HttpRequest.queryBody { r with body := bytes } = .ok { body with debug } →
      ∃ a a' st' calls, s.Handles clock r st (.ok a) st' calls ∧
        s.Handles clock' { r with body := bytes } st (.ok a') st' calls ∧
        a'.without ["debug", "timestamp"] = a.without ["debug", "timestamp"] := by
  refine ⟨fun e unread => ?rejected, fun body read => ?judged,
    fun body bytes debug clock' read readOther => ?same⟩
  case rejected => exact ⟨_, handles_rejected post path unread, rfl, rfl⟩
  case judged =>
    obtain ⟨v, st', calls, judged, traces⟩ := judged_runQuery built (holds body read)
    have handles := handles_query post path read (traces clock body (asksSame_withDebug body _))
    exact ⟨v, _, st', calls, judged, handles, judged.shown built body clock _⟩
  case same =>
    obtain ⟨v, st', calls, -, traces⟩ := judged_runQuery built (holds body read)
    -- The verdict is on what is asked for, so that one and the same is given for both.
    have same := asksSame_withDebug body debug
    have handles := handles_query post path read (traces clock body (asksSame_withDebug body _))
    have handlesOther := handles_query (r := { r with body := bytes }) post path readOther
      (traces clock' _ same)
    exact ⟨_, _, st', calls, handles, handlesOther, without_answer same clock' clock v _⟩

-- ---------------------------------------------------------------------------
-- A service for numbered rows
-- ---------------------------------------------------------------------------

def ofRows (rows : NumberedRows) : Service Unit where
  catalog := .builtin
  config := {}
  maxPageSize := 1000
  host := "127.0.0.1"
  port := 5390
  interfaces := []
  backend _ := rows.backend
  faultDetail _ := ""

def HttpRequest.ofQuery (body : String) : HttpRequest where
  method := "POST"
  target := "/api/v1/query"
  headers := [("content-type", "application/json")]
  body := body.toUTF8

def noon : Clock := ⟨"2024-01-02T12:00:00.000Z", 5⟩

def explainedQuery : HttpRequest := .ofQuery "\x7b\"recordType\":\"customer\",\"debug\":true\x7d"

def wholeQuery : HttpRequest :=
  .ofQuery "\x7b\"recordType\":\"customer\",\"pageSize\":1,\"usePagination\":false\x7d"

/-- Of 25 rows a query for customers gets a page, with or without an explanation. -/
theorem query_answered_explained :
    Catalog.builtin.Built ∧ explainedQuery.method = "POST" ∧
    explainedQuery.path = "/api/v1/query" ∧
    (∀ body, explainedQuery.queryBody = .ok body →
      (ofRows { total := 25 }).Holds body (.initial ())) ∧
    ∃ body v a st' calls, explainedQuery.queryBody = .ok body ∧
      (ofRows { total := 25 }).Judged body (.initial ()) v st' calls ∧
      (ofRows { total := 25 }).Handles noon explainedQuery (.initial ()) (.ok a) st' calls ∧
      v.Shown true a := by
  have post : explainedQuery.method = "POST" := rfl
  have path : explainedQuery.path = "/api/v1/query" := by decide +kernel
  obtain ⟨body, read, page⟩ := exists_ok_of_toOption
    (show explainedQuery.queryBody.toOption.map (·.page 1000) = some ⟨1000, 0, true⟩ by
      decide +kernel)
  obtain ⟨body', read', debug⟩ := exists_ok_of_toOption
    (show explainedQuery.queryBody.toOption.map (·.wantsDebug) = some true by decide +kernel)
  obtain rfl := Except.ok.inj (read.symm.trans read')
  have holds : ∀ body, explainedQuery.queryBody = .ok body →
      (ofRows { total := 25 }).Holds body (.initial ()) := by
    intro body' read' c _ _
    obtain rfl := Except.ok.inj (read.symm.trans read')
    have serves : (ofRows { total := 25 }).backend true |>.Serves c.statement 1000
        ((List.range 25).map NumberedRows.row) :=
      NumberedRows.serves (by decide) (by decide) (by decide) (by decide) c.statement
    have few : ((List.range 25).map NumberedRows.row).length < 2 ^ 63 := by simp
    show ¬ ((ofRows { total := 25 }).backend true).BreaksDown c.statement (body.page 1000) ()
    rw [page]
    exact Backend.Serves.not_breaksDown serves (by decide) (by decide) few rfl ()
  obtain ⟨-, answered, -⟩ := query_answered .builtin post path holds noon
  obtain ⟨v, a, st', calls, judged, handles, shown⟩ := answered body read
  exact ⟨.builtin, post, path, holds, body, v, a, st', calls, read, judged, handles, debug ▸ shown⟩

/-- A service that is shutting down explains nothing, and there is no answer at all to a query for
all pages of rows that there is no room for. -/
theorem unexplained_or_unanswered :
    (∃ body a, explainedQuery.queryBody = .ok body ∧ body.wantsDebug = true ∧
      (ofRows { total := 25 }).Handles noon explainedQuery (State.initial ()).trigger (.ok a)
        (State.initial ()).trigger [] ∧
      a.member? "debug" = none) ∧
    (∃ body c, wholeQuery.queryBody = .ok body ∧
      compile Catalog.builtin {} body.request = .ok c ∧
      NumberedRows.boastful.backend.pageRanges c.statement 1 () = (.ok [⟨0, 2 ^ 63 - 1⟩], ()) ∧
      NumberedRows.boastful.backend.fetchPage c.statement 1 ⟨0, 2 ^ 63 - 1⟩ () =
        (.ok [NumberedRows.row 0], ()) ∧
      ∀ a st', (ofRows .boastful).respond noon wholeQuery (.initial ()) ≠ (.ok a, st')) := by
  constructor
  · obtain ⟨body, read, debug⟩ := exists_ok_of_toOption
      (show explainedQuery.queryBody.toOption.map (·.wantsDebug) = some true by decide +kernel)
    have path : explainedQuery.path = "/api/v1/query" := by decide +kernel
    have triggered : (State.initial ()).trigger.shuttingDown = true := rfl
    exact ⟨body, _, read, debug,
      handles_query rfl path read (traces_runQuery_shuttingDown triggered), rfl⟩
  · obtain ⟨body, read, compiles⟩ := exists_ok_of_toOption
      (show wholeQuery.queryBody.toOption.map
          (fun body => (compile .builtin {} body.request).toOption.map fun _ => ()) =
        some (some ()) by decide +kernel)
    obtain ⟨c, compiles, -⟩ := exists_ok_of_toOption compiles
    have unanswered : ((ofRows .boastful).respond noon wholeQuery (.initial ())).1.toOption.isNone =
        true := by decide +kernel
    refine ⟨body, c, read, compiles, rfl, rfl, fun a st' h => ?_⟩
    rw [h] at unanswered
    cases unanswered

end Service

end FilterSql
