import FilterSql.Text.Ascii

/-!
# Safe identifiers

A name may stand in SQL text only if it is a safe identifier: an ASCII letter or underscore, then
letters, digits and underscores. `Identifier` carries the proof, so no other name can be used as a
column.
-/

namespace FilterSql.Query

def isIdentifierStart (c : Char) : Bool :=
  (0x41 ≤ c.toNat && c.toNat ≤ 0x5A) || (0x61 ≤ c.toNat && c.toNat ≤ 0x7A) || c = '_'

def isIdentifierPart (c : Char) : Bool :=
  isIdentifierStart c || (0x30 ≤ c.toNat && c.toNat ≤ 0x39)

def isSafeIdentifier (name : String) : Bool :=
  match name.toList with
  | [] => false
  | c :: rest => isIdentifierStart c && rest.all isIdentifierPart

structure Identifier where
  text : String
  safe : isSafeIdentifier text = true
  deriving DecidableEq

namespace Identifier

def ofText? (name : String) : Option Identifier :=
  if h : isSafeIdentifier name = true then some ⟨name, h⟩ else none

def sameAs (id : Identifier) (name : String) : Bool := Text.sameIgnoringAsciiCase id.text name

theorem ofText?_eq_some_iff {name : String} {id : Identifier} :
    ofText? name = some id ↔ id.text = name := by
  unfold ofText?
  split
  · constructor
    · intro h; cases h; rfl
    · rintro rfl; rfl
  · rename_i h
    constructor
    · intro hn; cases hn
    · rintro rfl; exact absurd id.safe h

end Identifier

end FilterSql.Query
