import FilterSql.Text.Ascii

/-!
# Media types

The values of `Content-Type`: a type and a subtype, then parameters. `isJson` accepts
`application/json` and the subtypes that end in `+json`.
-/

namespace FilterSql.Service.MediaType

/-- The characters of names and of values without quotes. -/
def isTokenChar (c : Char) : Bool := c.isAlphanum || "!#$%&'*+-.^_`|~".toList.contains c

def isQuotedChar (c : Char) : Bool := 0x20 ≤ c.toNat && c.toNat < 0x7F

inductive ParameterState where
  | beforeName
  | name
  | beforeValue
  | value
  | openQuote
  | quoted
  | afterQuote
  deriving DecidableEq, Repr

def ParameterState.next? : ParameterState → Char → Option ParameterState
  | beforeName, c => if c = ' ' then some beforeName else if isTokenChar c then some name else none
  | name, c => if c = '=' then some beforeValue else if isTokenChar c then some name else none
  | beforeValue, c => if c = '"' then some openQuote else if isTokenChar c then some value else none
  | value, c => if c = ';' then some beforeName else if isTokenChar c then some value else none
  | openQuote, c => if isQuotedChar c then some quoted else none
  | quoted, c => if c = '"' then some afterQuote else if isQuotedChar c then some quoted else none
  | afterQuote, c => if c = ';' then some beforeName else if c = ' ' then some afterQuote else none

def ParameterState.isFinal : ParameterState → Bool
  | beforeName | beforeValue | value | afterQuote => true
  | name | openQuote | quoted => false

def areParameters (cs : List Char) : Bool :=
  (cs.foldlM ParameterState.next? .beforeName).any (·.isFinal)

/-- The subtype without its suffix, and the suffix after the last plus. A plus at the front starts
no suffix. -/
def splitSuffix (subtype : List Char) : List Char × Option (List Char) :=
  let suffix := (subtype.reverse.takeWhile (· ≠ '+')).reverse
  if suffix.length + 1 < subtype.length then
    (subtype.take (subtype.length - suffix.length - 1), some suffix)
  else (subtype, none)

def isWord (word : String) (cs : List Char) : Bool :=
  Text.sameIgnoringAsciiCase (String.ofList cs) word

def isJson (mediaType : String) : Bool :=
  match mediaType.toList.span isTokenChar with
  | (type, '/' :: rest) =>
    let (subtype, parameters) := rest.span isTokenChar
    let (name, suffix) := splitSuffix subtype
    let rest := match parameters with
      | [] => true
      | ';' :: cs => areParameters cs
      | _ => false
    isWord "application" type && (isWord "json" name || suffix.any (isWord "json")) && rest
  | _ => false

end FilterSql.Service.MediaType
