import FilterSql.Catalog.Builtin
import FilterSql.Execution
import FilterSql.Service.Address

/-!
# The state of a service

A service has a catalog, a backend and a database connection. What changes while it runs is
whether it is shutting down, whether the database is open, and the state of the backend.
-/

namespace FilterSql

open Query

structure Service (σ : Type) where
  catalog : Catalog
  config : Config
  maxPageSize : Nat
  host : String
  port : Nat
  /-- The addresses of the network interfaces, or none if they cannot be told. -/
  interfaces : List Service.Address
  /-- The backend, as it answers while the database is open or closed. -/
  backend : (databaseOpen : Bool) → Backend σ
  /-- What the reader of JSON says of the first fault in a body. -/
  faultDetail : (body : ByteArray) → String

namespace Service

structure State (σ : Type) where
  shuttingDown : Bool
  databaseOpen : Bool
  backend : σ

namespace State

variable {σ : Type}

def initial (backend : σ) : State σ := ⟨false, true, backend⟩

/-- Asks the service to stop: no query is executed from here on. -/
def trigger (s : State σ) : State σ := { s with shuttingDown := true }

def closeDatabase (s : State σ) : State σ := { s with databaseOpen := false }

/-- Closes the database. `closing` is what it says to that; one that is closed already is not
asked. -/
def close {ε : Type} (closing : Except ε Unit) (s : State σ) : Except ε Unit × State σ :=
  if s.databaseOpen then (closing, s.closeDatabase) else (.ok (), s)

/-- Stops the service: those who wait for the signal go on, and then the database is closed. -/
def shutdown (s : State σ) : State σ := s.trigger.closeDatabase

end State

inductive ConnectionError where
  | closed
  deriving DecidableEq, Repr

def ConnectionError.message : ConnectionError → String
  | closed => "DuckDB connection already closed"

def State.connect {σ : Type} (s : State σ) : Except ConnectionError Unit :=
  if s.databaseOpen then .ok () else .error .closed

end Service

end FilterSql
