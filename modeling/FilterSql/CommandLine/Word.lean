/-!
# Words of a command line
-/

namespace FilterSql.CommandLine

inductive Word where
  /-- Two hyphens alone: no argument is named behind them. -/
  | separator
  /-- A name behind two hyphens, with the value behind an equals sign if there is one. -/
  | long (name : String) (value : Option String)
  /-- A letter behind one hyphen, with the value that is attached to it if there is one. -/
  | short (letter : Char) (value : Option String)
  | plain
  deriving DecidableEq, Repr

namespace Word

def ofLong (cs : List Char) : Word :=
  let (name, rest) := cs.span (· ≠ '=')
  .long (String.ofList name) (match rest with
    | [] => none
    | _ :: value => some (String.ofList value))

/-- The value behind a letter: an equals sign at its front is not part of it. -/
def attached? : List Char → Option String
  | [] => none
  | '=' :: value | value => some (String.ofList value)

def ofText (text : String) : Word :=
  match text.toList with
  | ['-', '-'] => .separator
  | '-' :: '-' :: cs => ofLong cs
  | '-' :: letter :: cs => .short letter (attached? cs)
  | _ => .plain

end Word

end FilterSql.CommandLine
