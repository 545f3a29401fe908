import FilterSql.Program

/-!
# Command line

Runs the program on the machine at hand.
-/

namespace FilterSql

def textAt (path : String) : IO PathContent := do
  return ((String.fromUTF8? (← IO.FS.readBinFile path)).map .text).getD .unreadable

def contentAt? (path : String) : IO (Option PathContent) := do
  match ← (IO.FS.realPath path).toBaseIO with
  | .error _ => return none
  | .ok place =>
    if ← place.isDir then return some .directory
    match ← (textAt place.toString).toBaseIO with
    | .error _ => return some .unreadable
    | .ok content => return some content

def localMachine : Machine IO where
  envValue? name := IO.getEnv name
  workingDirectory := return (← IO.currentDir).toString
  contentAt?
  makeDirectory path := return (← (IO.FS.createDirAll path).toBaseIO).isOk
  canonical path := return ((← (IO.FS.realPath path).toBaseIO).toOption.map toString).getD path
  interfaces := return []

end FilterSql

def main (args : List String) : IO UInt32 := do
  let outcome ← FilterSql.Program.run FilterSql.localMachine args
  IO.print outcome.output
  IO.eprint outcome.errors
  return outcome.exitCode.toUInt32
