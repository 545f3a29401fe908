import FilterSql.CommandLine.Values
import FilterSql.CommandLine.Word

/-!
# Command lines

A command line is a row of arguments, then a command if there is one, then the arguments of that
command. General arguments may stand before the command and behind it, and those behind it count
first; the environment counts last. The value of an argument is read when the next argument is
named or the row ends, so an unknown word before that is what is complained about.
-/

namespace FilterSql.CommandLine

inductive Command where
  | start
  | compile (query : QueryWords)
  deriving DecidableEq, Repr

structure Invocation where
  overrides : Overrides
  command : Option Command
  deriving DecidableEq, Repr

inductive Stop where
  | help
  | version
  | misuse (m : Misuse)
  deriving DecidableEq, Repr

inductive CommandName where
  | start
  | compile
  | help
  deriving DecidableEq, Repr

def CommandName.ofText? : String → Option CommandName
  | "start" => some start
  | "compile" => some compile
  | "help" => some help
  | _ => none

inductive Scope where
  | top
  | start
  | compile
  deriving DecidableEq, Repr

namespace Scope

def arguments : Scope → List Argument
  | top | start => Argument.general
  | compile => Argument.general ++ Argument.ofQuery

def command? : Scope → String → Option CommandName
  | top, word => CommandName.ofText? word
  | start, _ | compile, _ => none

def unknown : Scope → String → Stop
  | top, word => .misuse (.unknownCommand word)
  | start, word | compile, word => .misuse (.unknownArgument word)

def unknownBehindSeparator (s : Scope) (word : String) : Stop :=
  if (s.command? word).isSome then .misuse (.unknownArgument word) else s.unknown word

end Scope

/-! ## Rows of arguments -/

structure Row where
  values : Values := {}
  given : List Argument := []
  /-- The argument that was named last, with its value once that has been met. -/
  pending : Option (Argument × Option String) := none
  deriving DecidableEq, Repr

namespace Row

def awaitsValue (r : Row) : Bool := r.pending.any (·.2.isNone)

def give (r : Row) (a : Argument) (text : String) : Except Stop Row := do
  if a ∈ r.given ∧ ¬ a.mayRepeat then throw (.misuse (.repeatedArgument a))
  let values ← (r.values.set a text).mapError .misuse
  return { r with values, given := a :: r.given }

/-- Sets the argument that was named last, if it has not been set. -/
def settle (r : Row) : Except Stop Row :=
  match r.pending with
  | none => .ok r
  | some (a, none) => .error (.misuse (.missingValue a))
  | some (a, some text) => { r with pending := none }.give a text

def supply (r : Row) (text : String) : Row :=
  { r with pending := r.pending.map fun (a, _) => (a, some text) }

def meet (r : Row) (a : Argument) (value : Option String) : Except Stop Row := do
  match a.isSwitch, value with
  | true, none => (← r.settle).give a "true"
  | true, some _ => throw (.misuse (.needlessValue a.name))
  | false, some text => (← r.settle).give a text
  | false, none => return { ← r.settle with pending := some (a, none) }

def stop (r : Row) (name : String) (stop : Stop) (value : Option String) : Except Stop Row := do
  if value.isSome then throw (.misuse (.needlessValue name))
  discard r.settle
  throw stop

def long (r : Row) (s : Scope) (name : String) (value : Option String) : Except Stop Row :=
  if name = "help" then r.stop name .help value
  else if name = "version" ∧ s = .top then r.stop name .version value
  else match s.arguments.find? (·.name = name) with
    | some a => r.meet a value
    | none => .error (.misuse (.unknownArgument ("--" ++ name)))

/-- The row after a letter behind one hyphen. What is attached to `-h` or `-V` is not looked at. -/
def short (r : Row) (s : Scope) (letter : Char) (value : Option String) : Except Stop Row :=
  if letter = 'h' then r.stop "help" .help none
  else if letter = 'V' ∧ s = .top then r.stop "version" .version none
  else match s.arguments.find? (·.letter? = some letter) with
    | some a => r.meet a value
    | none => .error (.misuse (.unknownArgument (String.ofList ['-', letter])))

/-- Reads a row up to its end or to a command, which is returned with the words behind it. -/
def read (s : Scope) : List String → Row → Except Stop (Row × Option (CommandName × List String))
  | [], r => .ok (r, none)
  | word :: rest, r =>
    match Word.ofText word with
    | .plain =>
      if r.awaitsValue then read s rest (r.supply word)
      else match s.command? word with
        | some command => .ok (r, some (command, rest))
        | none => .error (s.unknown word)
    | .separator =>
      -- Behind the separator there are plain words only, and no plain word is expected there.
      match rest with
      | [] => .ok (r, none)
      | word :: _ => .error (s.unknownBehindSeparator word)
    | .long name value => do read s rest (← r.long s name value)
    | .short letter value => do read s rest (← r.short s letter value)

def environment (r : Row) (valueOf : String → Option String) : Except Stop Overrides :=
  Argument.general.foldlM (fun o a =>
    match a.envName?.bind valueOf with
    | some text =>
      if a ∈ r.given then .ok o else (setOverride a text o).mapError .misuse
    | none => .ok o) {}

end Row

/-! ## The whole line -/

/-- The row behind a command. The environment has to make sense where it would count. -/
def readCommandRow (valueOf : String → Option String) (s : Scope) (words : List String) :
    Except Stop Values := do
  let (r, _) ← Row.read s words {}
  let r ← r.settle
  discard (r.environment valueOf)
  if s = .compile ∧ .recordType ∉ r.given then throw (.misuse (.missingArgument .recordType))
  return r.values

def helpOn : List String → Stop
  | [] => .help
  | word :: rest =>
    if (CommandName.ofText? word).isNone then .misuse (.unknownCommand word)
    else match rest with
      | [] => .help
      | word :: _ => .misuse (.unknownCommand word)

def readCommand (valueOf : String → Option String) (name : CommandName) (words : List String) :
    Except Stop (Command × Overrides) := do
  match name with
  | .help => throw (helpOn words)
  | .start => return (.start, (← readCommandRow valueOf .start words).overrides)
  | .compile =>
    let v ← readCommandRow valueOf .compile words
    return (.compile v.query, v.overrides)

def parse (valueOf : String → Option String) (words : List String) : Except Stop Invocation := do
  let (r, found) ← Row.read .top words {}
  let (command, behind) ← match found with
    | none => pure (none, {})
    | some (name, rest) => do
      let (command, overrides) ← readCommand valueOf name rest
      pure (some command, overrides)
  let r ← r.settle
  let overrides := (behind.orElse r.values.overrides).orElse (← r.environment valueOf)
  return { overrides, command }

end FilterSql.CommandLine
