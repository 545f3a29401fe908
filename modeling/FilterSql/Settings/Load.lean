import FilterSql.Environment
import FilterSql.Settings.Basic

/-!
# Finding the settings files

The file in the home directory comes first. The one that was asked for is laid over it, or else
the one in the working directory. A file that was asked for has to exist, the others need not.
-/

namespace FilterSql

def SettingsFile.fileName : String := "recordql.json"

def SettingsFile.pathInHome (home : String) : String :=
  FilePath.join (FilePath.join home ".recordql") fileName

def SettingsFile.ofContent (path : String) : PathContent → Except SettingsError SettingsFile
  | .text s =>
    match ofText? s with
    | some f => .ok f
    | none => .error (.malformedFile path)
  | .directory | .unreadable => .error (.unreadableFile path)

variable {m : Type → Type} [Monad m]

namespace Machine

def settingsFile (machine : Machine m) (path : String) : ExceptT SettingsError m SettingsFile := do
  match ← machine.contentAt? path with
  | some content => SettingsFile.ofContent path content
  | none => return {}

def askedSettingsFile (machine : Machine m) (path : String) :
    ExceptT SettingsError m SettingsFile := do
  match ← machine.contentAt? path with
  | some content => SettingsFile.ofContent path content
  | none => throw (.missingFile path)

def settings (machine : Machine m) (around : Surroundings) (o : Overrides) :
    ExceptT SettingsError m Settings := do
  let below ← machine.settingsFile (SettingsFile.pathInHome around.home)
  let above ← match o.settingsFile with
    | some path => machine.askedSettingsFile (FilePath.expand around path)
    | none => machine.settingsFile SettingsFile.fileName
  Settings.ofLayers o ((SettingsFile.overlay {} below).overlay above)

end Machine

end FilterSql
