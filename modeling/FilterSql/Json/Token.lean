import FilterSql.Json.Number
import FilterSql.Text.Ascii

/-!
# JSON tokens

The words of a JSON text. `Token.lex` never fails: where no token can be read it puts `malformed`
and stops, so a reader that goes through the list meets the faults of a text in their order.
`Token.ofBytes` does the same for bytes, which need not be text.
-/

namespace FilterSql.Json

open Text

inductive Token where
  | openBrace
  | closeBrace
  | openBracket
  | closeBracket
  | colon
  | comma
  | null
  | bool (b : Bool)
  | number (t : NumberText)
  /-- The text of a string, or nothing if it has none: an escape in it is half of a surrogate pair,
  or a byte in it is part of no character. -/
  | string (text? : Option String)
  | malformed
  deriving DecidableEq, Repr

namespace Token

def isBlank (c : Char) : Bool := c = ' ' || c = '\t' || c = '\n' || c = '\r'

def hex4? (a b c d : Char) : Option Nat := do
  some ((((← hexValue? a) * 16 + (← hexValue? b)) * 16 + (← hexValue? c)) * 16 + (← hexValue? d))

def escaped? : Char → Option Char
  | '"' => some '"'
  | '\\' => some '\\'
  | '/' => some '/'
  | 'b' => some (Char.ofNat 0x08)
  | 'f' => some (Char.ofNat 0x0C)
  | 'n' => some '\n'
  | 'r' => some '\r'
  | 't' => some '\t'
  | _ => none

inductive Piece where
  | char (c : Char)
  | highHalf (n : Nat)
  | lowHalf (n : Nat)
  deriving DecidableEq, Repr

def Piece.ofUnit (n : Nat) : Piece :=
  if 0xD800 ≤ n ∧ n < 0xDC00 then .highHalf (n - 0xD800)
  else if 0xDC00 ≤ n ∧ n < 0xE000 then .lowHalf (n - 0xDC00)
  else .char (Char.ofNat n)

/-- Joins the halves of surrogate pairs; nothing if one stands alone. -/
def join? : List Piece → Option (List Char)
  | [] => some []
  | .char c :: rest => (join? rest).map (c :: ·)
  | .highHalf h :: .lowHalf l :: rest =>
    (join? rest).map (Char.ofNat (0x10000 + h * 0x400 + l) :: ·)
  | _ => none

def stringBody : List Char → Option (List Piece × List Char)
  | [] => none
  | '"' :: rest => some ([], rest)
  | '\\' :: 'u' :: a :: b :: c :: d :: rest => do
    let unit ← hex4? a b c d
    let (pieces, after) ← stringBody rest
    some (.ofUnit unit :: pieces, after)
  | '\\' :: letter :: rest => do
    let c ← escaped? letter
    let (pieces, after) ← stringBody rest
    some (.char c :: pieces, after)
  | c :: rest => do
    if c = '\\' ∨ c.toNat < 0x20 then none
    let (pieces, after) ← stringBody rest
    some (.char c :: pieces, after)

def digits? (cs : List Char) : Option (List Char × List Char) :=
  match cs.span isAsciiDigit with
  | ([], _) => none
  | found => some found

def whole? : List Char → Option (List Char × List Char)
  | '0' :: rest => if (rest.head?.any isAsciiDigit) then none else some (['0'], rest)
  | cs => digits? cs

def fraction? : List Char → Option (Option (List Char) × List Char)
  | '.' :: cs => (digits? cs).map fun found => (some found.1, found.2)
  | cs => some (none, cs)

def exponent? : List Char → Option (Option (Bool × List Char) × List Char)
  | 'e' :: cs | 'E' :: cs =>
    let (negative, cs) := match cs with
      | '-' :: cs => (true, cs)
      | '+' :: cs => (false, cs)
      | cs => (false, cs)
    (digits? cs).map fun found => (some (negative, found.1), found.2)
  | cs => some (none, cs)

def number? (cs : List Char) : Option (NumberText × List Char) := do
  let (negative, cs) := match cs with
    | '-' :: cs => (true, cs)
    | cs => (false, cs)
  let (whole, cs) ← whole? cs
  let (fraction, cs) ← fraction? cs
  let (exponent, cs) ← exponent? cs
  some (⟨negative, whole, fraction, exponent⟩, cs)

/-- The token at the front of a text that does not start with a blank. -/
def next? : List Char → Option (Token × List Char)
  | '{' :: cs => some (.openBrace, cs)
  | '}' :: cs => some (.closeBrace, cs)
  | '[' :: cs => some (.openBracket, cs)
  | ']' :: cs => some (.closeBracket, cs)
  | ':' :: cs => some (.colon, cs)
  | ',' :: cs => some (.comma, cs)
  | 'n' :: 'u' :: 'l' :: 'l' :: cs => some (.null, cs)
  | 't' :: 'r' :: 'u' :: 'e' :: cs => some (.bool true, cs)
  | 'f' :: 'a' :: 'l' :: 's' :: 'e' :: cs => some (.bool false, cs)
  | '"' :: cs => do
    let (pieces, cs) ← stringBody cs
    some (.string ((join? pieces).map String.ofList), cs)
  | cs => (number? cs).map fun found => (.number found.1, found.2)

def lexUpTo : (count : Nat) → List Char → List Token
  | 0, _ => []
  | count + 1, cs =>
    match cs.dropWhile isBlank with
    | [] => []
    | cs => match next? cs with
      | none => [.malformed]
      | some (t, rest) => t :: lexUpTo count rest

/-- All tokens: a text has no more of them than characters. -/
def lexChars (cs : List Char) : List Token := lexUpTo cs.length cs

def lex (s : String) : List Token := lexChars s.toList

/-! ## Bytes -/

/-- The characters from a byte on. A byte that is part of no character becomes a `stray` one. -/
def charsFrom (stray : Char) (bytes : ByteArray) : (count start : Nat) → List Char
  | 0, _ => []
  | count + 1, start =>
    if start < bytes.size then
      match bytes.utf8DecodeChar? start with
      | some c => c :: charsFrom stray bytes count (start + c.utf8Size)
      | none => stray :: charsFrom stray bytes count (start + 1)
    else []

def charsOf (stray : Char) (bytes : ByteArray) : List Char := charsFrom stray bytes bytes.size 0

/-- The token that two readings have in common: a string has to be the same text in both. -/
def common : Token → Token → Token
  | .string s, .string s' => if s = s' then .string s else .string none
  | t, _ => t

/-- The tokens that do not depend on what a stray byte is taken for. -/
def ofBytes (bytes : ByteArray) : List Token :=
  (lexChars (charsOf '\uFFFD' bytes)).zipWith common (lexChars (charsOf '\uFFFC' bytes))

end Token

end FilterSql.Json
