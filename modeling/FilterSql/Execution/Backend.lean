import FilterSql.Paging
import FilterSql.Query.Error
import FilterSql.Query.Fragment

/-!
# Backends

A backend says which pages a statement has and fetches the rows of one of them. Either may fail
and either may change the backend's state. `Backend.logged` is a backend that also keeps the calls
made of it.
-/

namespace FilterSql

open Query

/-- A row: its columns in order. -/
abbrev Record := Json.Members

inductive ExecutionFailure where
  | backend (e : DataError)
  /-- A number of rows does not fit into a machine word, or the rows do not fit into memory. -/
  | overflow
  deriving DecidableEq, Repr

/-- What a backend with states in `σ` does: it changes its state even where it fails. -/
abbrev BackendM (σ : Type) := ExceptT ExecutionFailure (StateM σ)

structure Backend (σ : Type) where
  pageRanges (statement : Statement) (pageSize : Nat) : BackendM σ (List PageRange)
  fetchPage (statement : Statement) (pageSize : Nat) (range : PageRange) : BackendM σ (List Record)

inductive BackendCall where
  | pageRanges (statement : Statement) (pageSize : Nat)
  | fetchPage (statement : Statement) (pageSize : Nat) (range : PageRange)
  deriving DecidableEq

namespace Backend

variable {σ : Type}

def onFirst {α τ : Type} (x : BackendM σ α) : BackendM (σ × τ) α :=
  fun (s, t) =>
    let (result, s) := x s
    (result, s, t)

def record (call : BackendCall) : BackendM (σ × List BackendCall) Unit :=
  modify fun (s, calls) => (s, calls ++ [call])

def logged (b : Backend σ) : Backend (σ × List BackendCall) where
  pageRanges statement pageSize := do
    record (.pageRanges statement pageSize)
    onFirst (b.pageRanges statement pageSize)
  fetchPage statement pageSize range := do
    record (.fetchPage statement pageSize range)
    onFirst (b.fetchPage statement pageSize range)

def disconnected : Backend σ where
  pageRanges _ _ := throw (.backend .disconnected)
  fetchPage _ _ _ := throw (.backend .disconnected)

end Backend

end FilterSql
