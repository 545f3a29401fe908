import FilterSql.Text.Alphanumeric

/-!
# Values with variables

The value of an environment variable as an environment file writes it: plain, in single quotes, in
double quotes, or in parts of these kinds. Outside of single quotes `$NAME` and `$` with a name in
braces stand for other variables. After a blank that is not quoted only a comment may follow.
-/

namespace FilterSql.Environment

inductive Piece where
  | char (c : Char)
  | variable (name : String)
  deriving DecidableEq, Repr

abbrev Template := List Piece

def Template.expand (valueOf : String → Option String) (t : Template) : String :=
  String.join <| t.map fun
    | .char c => c.toString
    | .variable name => (valueOf name).getD ""

/-- Where in a value a reader is. `quoted` tells whether double quotes are open. -/
inductive Position where
  | between (quoted : Bool)
  | inSingleQuotes
  | afterBackslash (quoted : Bool)
  | inName (quoted : Bool) (read : List Char)
  | inBraces (quoted : Bool) (read : List Char)
  /-- Behind a blank that ends the value. -/
  | atEnd
  deriving DecidableEq, Repr

namespace Position

def unescape? (c : Char) : Option Char :=
  if c = 'n' then some '\n'
  else if ['\\', '\'', '"', '$', ' '].contains c then some c
  else none

def isBlank (c : Char) : Bool := c = ' ' || c = '\t'

def between? (quoted : Bool) (c : Char) : Position × Template :=
  if c = '$' then (inName quoted [], [])
  else if c = '"' then (between (!quoted), [])
  else if c = '\\' then (afterBackslash quoted, [])
  else if quoted then (between true, [.char c])
  else if c = '\'' then (inSingleQuotes, [])
  else if isBlank c then (atEnd, [])
  else (between false, [.char c])

/-- The position after a character and what the character adds, if it may stand there. The
character that ends a name stands for itself, quotes and all; only a dollar sign begins the next
name. -/
def step? (c : Char) : Position → Option (Position × Template)
  | between quoted => some (between? quoted c)
  | inSingleQuotes =>
    some (if c = '\'' then (between false, []) else (inSingleQuotes, [.char c]))
  | afterBackslash quoted => (unescape? c).map fun c => (between quoted, [.char c])
  | inName quoted read =>
    if Text.isAlphanumeric c then some (inName quoted (read ++ [c]), [])
    else if c = '{' ∧ read = [] then some (inBraces quoted [], [])
    else
      let name := Piece.variable (String.ofList read)
      some (if c = '$' then (inName quoted [], [name]) else (between quoted, [name, .char c]))
  | inBraces quoted read =>
    some (if c = '}' then (between quoted, [.variable (String.ofList read)])
      else (inBraces quoted (read ++ [c]), []))
  | atEnd => if isBlank c then some (atEnd, []) else none

def finish? : Position → Option Template
  | between quoted | afterBackslash quoted => if quoted then none else some []
  | inName quoted read => if quoted then none else some [.variable (String.ofList read)]
  | inSingleQuotes | inBraces .. => none
  | atEnd => some []

end Position

def Template.readFrom? (p : Position) : List Char → Option Template
  | [] => p.finish?
  | c :: rest => do
    if p = .atEnd ∧ c = '#' then return []
    let (next, pieces) ← p.step? c
    return pieces ++ (← readFrom? next rest)

def Template.read? (value : List Char) : Option Template := readFrom? (.between false) value

end FilterSql.Environment
