import FilterSql.Text.WhiteSpace

/-!
# File paths

Paths as text, with a slash between the components. Nothing is looked up and nothing is
simplified, so a path need not exist.
-/

namespace FilterSql

structure Surroundings where
  home : String
  workingDirectory : String
  /-- The directory for the data of programs, if it is not the usual one below the home directory.
  -/
  dataHome : Option String := none
  deriving DecidableEq, Repr

namespace FilePath

def isAbsolute (path : String) : Bool := path.toList.head? = some '/'

/-- A path below a directory. An absolute path stays what it is. -/
def join (directory path : String) : String :=
  if isAbsolute path then path
  else if directory.isEmpty || directory.toList.getLast? = some '/' then directory ++ path
  else directory ++ "/" ++ path

def replaceTilde (home : String) (path : List Char) : String :=
  match path with
  | ['~'] => home
  | '~' :: '/' :: rest | '~' :: '\\' :: rest => join home (String.ofList rest)
  | _ => String.ofList path

/-- The absolute path that a text means, white space around it aside. Blank text is the working
directory. -/
def expand (s : Surroundings) (path : String) : String :=
  match Text.trimChars path.toList with
  | [] => s.workingDirectory
  | cs => join s.workingDirectory (replaceTilde s.home cs)

def components (path : String) : List String :=
  ((path.toList.splitOn '/').filter (· ≠ [])).map String.ofList

def ancestors (path : String) : List String :=
  let names := components path
  (List.range (names.length + 1)).reverse.map fun n => "/" ++ String.intercalate "/" (names.take n)

end FilePath

/-! ## Where the service keeps its files -/

namespace Storage

/-- Where programs keep their data: a relative path that was asked for does not count. -/
def dataHome (s : Surroundings) : String :=
  match s.dataHome.filter FilePath.isAbsolute with
  | some path => path
  | none => FilePath.join s.home ".local/share"

def defaultDirectory (s : Surroundings) : String := FilePath.join (dataHome s) "recordql"

def dataDirectory (s : Surroundings) (asked : Option String) : String :=
  match asked with
  | some path => FilePath.expand s path
  | none => defaultDirectory s

def databaseDirectory (dataDirectory : String) : String := FilePath.join dataDirectory "duckdb"

def databaseName : String := "recordql.duckdb"

def databaseFile (dataDirectory : String) : String :=
  FilePath.join (databaseDirectory dataDirectory) databaseName

end Storage

end FilterSql
