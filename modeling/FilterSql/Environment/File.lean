import FilterSql.Environment.Template
import FilterSql.Text.DecimalDigit
import FilterSql.Text.WhiteSpace

/-!
# Environment files

A file of lines `NAME=value`, with `export` before the name or without it, blank lines and
comments. A value in quotes may go over several lines. What comes after the first line that is
none of these has no effect.
-/

namespace FilterSql.Environment

structure Assignment where
  name : String
  value : Template
  deriving DecidableEq, Repr

/-! ## Lines -/

/-- Whether a line may end, as far as quotes tell. -/
inductive LineState where
  | mayEnd
  | afterBlank
  | afterBackslash
  | inQuotes (mark : Char)
  | inQuotesAfterBackslash (mark : Char)
  deriving DecidableEq, Repr

namespace LineState

def outside (c : Char) : LineState :=
  if c = '\\' then afterBackslash
  else if c = '"' ∨ c = '\'' then inQuotes c
  else mayEnd

def next (c : Char) : LineState → LineState
  | mayEnd =>
    if Text.isWhiteSpace c ∧ c ≠ '\n' ∧ c ≠ '\r' then afterBlank else outside c
  | afterBlank => outside c
  | afterBackslash => mayEnd
  | inQuotes mark =>
    if c = '\\' then inQuotesAfterBackslash mark
    else if c = mark then mayEnd
    else inQuotes mark
  | inQuotesAfterBackslash mark => inQuotes mark

/-- The state after a line of the file, or the part of the line before a comment: one that begins
right behind a blank. -/
def after : LineState → List Char → LineState ⊕ List Char
  | s, [] => .inl s
  | s, c :: rest =>
    if s = afterBlank ∧ c = '#' then .inr []
    else match after (s.next c) rest with
      | .inl s => .inl s
      | .inr kept => .inr (c :: kept)

end LineState

def cutLines : List Char → List (List Char)
  | [] => []
  | c :: rest =>
    if c = '\n' then [c] :: cutLines rest
    else match cutLines rest with
      | [] => [[c]]
      | line :: lines => (c :: line) :: lines

def startsWithComment (line : List Char) : Bool :=
  (line.dropWhile Text.isWhiteSpace).head? = some '#'

/-- Puts lines together where quotes go on, and leaves out comments. `start` is what has been read
of a line and `state` what it has come to. Where the text ends within quotes, `none` stands for the
last line. -/
def joinLines (start : List Char) (state : LineState) : List (List Char) → List (Option (List Char))
  | [] => if state = .mayEnd then [] else [none]
  | line :: rest =>
    if startsWithComment (start ++ line) then joinLines [] .mayEnd rest
    else match state.after line with
      | .inr kept => some (start ++ kept) :: joinLines [] .mayEnd rest
      | .inl .mayEnd => some (start ++ line) :: joinLines [] .mayEnd rest
      | .inl state => joinLines (start ++ line) state rest

/-! ## Assignments -/

def isNameStart (c : Char) : Bool := c.isAlpha || c = '_'

def isNameChar (c : Char) : Bool := isNameStart c || Text.isAsciiDigit c || c = '.'

def skipBlanks (cs : List Char) : List Char := cs.dropWhile Text.isWhiteSpace

def takeName? (cs : List Char) : Option (String × List Char) :=
  if cs.head?.any isNameStart then
    let (name, rest) := cs.span isNameChar
    some (String.ofList name, skipBlanks rest)
  else none

/-- The name that a line assigns to, and what is behind the equals sign. The word `export` is a
name only where an equals sign follows it. -/
def takeTarget? (cs : List Char) : Option (String × List Char) := do
  let (name, rest) ← takeName? cs
  match name, rest with
  | name, '=' :: rest => some (name, rest)
  | "export", rest =>
    let (name, '=' :: rest) ← takeName? rest | none
    some (name, rest)
  | _, _ => none

def trimEnd (line : List Char) : List Char := (line.reverse.dropWhile Text.isWhiteSpace).reverse

def Assignment.ofLine? (line : List Char) : Option (Option Assignment) := do
  let cs := skipBlanks (trimEnd line)
  if cs.isEmpty || cs.head? = some '#' then return none
  let (name, rest) ← takeTarget? cs
  let value := skipBlanks rest
  if value.isEmpty || value.head? = some '#' then return some ⟨name, []⟩
  return some ⟨name, ← Template.read? value⟩

/-- The assignments of lines, up to the first one that is at fault. -/
def Assignment.ofLines : List (Option (List Char)) → List Assignment
  | [] => []
  | line :: rest =>
    match line.bind ofLine? with
    | none => []
    | some none => ofLines rest
    | some (some a) => a :: ofLines rest

def withoutMark : List Char → List Char
  | c :: rest => if c.toNat = 0xFEFF then rest else c :: rest
  | [] => []

def Assignment.ofText (text : String) : List Assignment :=
  ofLines (joinLines [] .mayEnd (cutLines (withoutMark text.toList)))

end FilterSql.Environment
