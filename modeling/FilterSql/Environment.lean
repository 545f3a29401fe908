import FilterSql.Environment.File
import FilterSql.FilePath
import FilterSql.Service.Address

/-!
# The environment

What the program asks of the machine it runs on, from whose answers everything else in the library is
computed, and the environment variables of the program: those of the machine, and those that an
environment file adds. The file is the nearest one named `.env` in the working directory or above it.
It never changes a variable that is set.
-/

namespace FilterSql

inductive PathContent where
  | directory
  | text (contents : String)
  /-- A file that cannot be read as text. -/
  | unreadable
  deriving DecidableEq, Repr

structure Machine (m : Type → Type) where
  envValue? : String → m (Option String)
  workingDirectory : m String
  /-- What is at a path, if anything is. -/
  contentAt? : String → m (Option PathContent)
  /-- Makes a directory and the ones above it, as far as they are missing. Tells whether it is
  there. -/
  makeDirectory : String → m Bool
  /-- The same place by its absolute path without links and dots, or the path itself if there is no
  such place. -/
  canonical : String → m String
  /-- The addresses of the network interfaces, or none if they cannot be told. -/
  interfaces : m (List Service.Address)

abbrev Variables := List (String × String)

namespace Environment

def assign (vars : Variables) (a : Assignment) : Variables :=
  if (vars.lookup a.name).isSome then vars
  else (a.name, a.value.expand fun name => vars.lookup name) :: vars

def Assignment.names (a : Assignment) : List String :=
  a.name :: a.value.filterMap fun
    | .variable name => some name
    | .char _ => none

def fileName : String := ".env"

variable {m : Type → Type} [Monad m]

/-- The text of the environment file in the first of some directories that has one. -/
def fileText? (machine : Machine m) : List String → m (Option String)
  | [] => return none
  | directory :: rest => do
    match ← machine.contentAt? (FilePath.join directory fileName) with
    | some (.text s) => return some s
    | some .unreadable => return none
    | some .directory | none => fileText? machine rest

def load (machine : Machine m) (names : List String) : m Variables := do
  let text? ← fileText? machine (FilePath.ancestors (← machine.workingDirectory))
  let assignments := (text?.map Assignment.ofText).getD []
  let set ← (names ++ assignments.flatMap Assignment.names).filterMapM fun name => do
    return (← machine.envValue? name).map (name, ·)
  return assignments.foldl assign set

def directoryVariables : List String := ["HOME", "XDG_DATA_HOME"]

/-- The directories that paths are relative to. The home directory is the superuser's, unless the
variable tells. -/
def surroundings (vars : Variables) (workingDirectory : String) : Surroundings where
  home := ((vars.lookup "HOME").filter (!·.isEmpty)).getD "/root"
  workingDirectory
  dataHome := vars.lookup "XDG_DATA_HOME"

def hyperlinkVariable : String := "FORCE_HYPERLINK"

def wantsHyperlinks (vars : Variables) : Bool :=
  (vars.lookup hyperlinkVariable).any fun value => Text.trim value ≠ "0"

end Environment

end FilterSql
