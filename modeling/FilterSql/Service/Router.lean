import FilterSql.Service.Answer

/-!
# Routing

Which request is answered by what. `Service.respond` answers one request and leaves the service in
its next state. The work on a request may break down, and then there is no answer to it.
-/

namespace FilterSql.Service

open Query

inductive Endpoint where
  | root
  | openApi
  | documentation
  | health
  | query
  deriving DecidableEq, Repr

namespace Endpoint

def ofPath? : String → Option Endpoint
  | "/" => some root
  | "/api/openapi.json" => some openApi
  | "/api/docs" | "/api/docs/" => some documentation
  | "/api/v1/health" => some health
  | "/api/v1/query" => some query
  | _ => none

def methods : Endpoint → List String
  | query => ["GET", "HEAD", "POST"]
  | _ => ["GET", "HEAD"]

def allow (e : Endpoint) : Headers := [("allow", String.intercalate "," e.methods)]

end Endpoint

def originHeader {σ : Type} (s : Service σ) (r : HttpRequest) : Headers :=
  match r.header? "origin" with
  | some origin =>
    if (allowedOrigins s.host s.port s.interfaces).contains origin then
      [("access-control-allow-origin", origin)]
    else []
  | none => []

/-- What a browser is told before it sends a request across origins. -/
def preflightHeaders : Headers :=
  [("access-control-allow-methods", "GET,POST,OPTIONS"),
   ("access-control-allow-headers", "content-type,accept,origin")]

variable {σ : Type}

inductive Breakdown where
  /-- A part of the SQL that does not have a placeholder for each parameter. -/
  | unbalanced (f : Fragment)
  | overflow

/-- What the service does for a request: it changes its state even where it breaks down. -/
abbrev Handler (σ α : Type) := ExceptT Breakdown (StateM (State σ)) α

/-- Runs a call of the backend on its part of the state. -/
def callBackend {α : Type} (x : BackendM σ α) : Handler σ (Except DataError α) := .mk fun s =>
  let (result, backend) := x s.backend
  let result := match result with
    | .ok a => .ok (.ok a)
    | .error (.backend e) => .ok (.error e)
    | .error .overflow => .error .overflow
  (result, { s with backend })

def runQuery (s : Service σ) (clock : Clock) (body : QueryBody) : Handler σ HttpResponse := do
  let state ← get
  if state.shuttingDown then return shuttingDown
  match compile s.catalog s.config body.request with
  | .error (.refused e) => return failure clock body e
  | .error (.unbalanced f) => throw (.unbalanced f)
  | .ok c =>
    match ← callBackend
        ((s.backend state.databaseOpen).execute c.statement (body.page s.maxPageSize)) with
    | .ok e => return success clock body c e
    | .error e => return failure clock body (.executionFailure e)

def postQuery (s : Service σ) (clock : Clock) (r : HttpRequest) : Handler σ HttpResponse :=
  match QueryBody.read (r.header? "content-type") r.body with
  | .ok body => s.runQuery clock body
  | .error rejection => return rejected (s.faultDetail r.body) rejection

def getEndpoint (s : Service σ) (e : Endpoint) (databaseOpen : Bool) : HttpResponse :=
  match e with
  | .root => .redirect "/api/docs"
  | .openApi => .json 200 outline
  | .documentation => .html documentationPage
  | .health => health s databaseOpen
  | .query => capabilities s

def atEndpoint (s : Service σ) (clock : Clock) (e : Endpoint) (r : HttpRequest) :
    Handler σ HttpResponse := do
  match r.method, e with
  | "GET", e => return s.getEndpoint e (← get).databaseOpen
  | "HEAD", e => return (s.getEndpoint e (← get).databaseOpen).withoutContent
  | "POST", .query => s.postQuery clock r
  | _, e => return (HttpResponse.empty 405).withHeaders e.allow

def respond (s : Service σ) (clock : Clock) (r : HttpRequest) : Handler σ HttpResponse := do
  let endpoint := Endpoint.ofPath? r.path
  let origin := originHeader s r
  if r.method = "OPTIONS" then
    let allow := (endpoint.map Endpoint.allow).getD []
    return ((HttpResponse.empty 200).withHeaders allow).withHeaders (origin ++ preflightHeaders)
  match endpoint with
  | some e => return (← s.atEndpoint clock e r).withHeaders origin
  | none => return (HttpResponse.empty 404).withHeaders origin

end FilterSql.Service
