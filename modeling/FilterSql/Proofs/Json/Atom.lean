import FilterSql.Json.Printer
import FilterSql.Json.Reader
import FilterSql.Proofs.Json.Lexing

/-!
# Atoms

The values without parts, which are one token: wherever the characters of such a token stand, the
lexer finds it (`Spells.lexChars`), and alone they are read as the value of the token
(`parse?_of_spells`).
-/

namespace FilterSql.Json

namespace Token

/-- What may follow a value in a text without blanks. -/
def EndsValue (rest : List Char) : Prop := ∀ c ∈ rest.head?, c = ',' ∨ c = ']' ∨ c = '}'

def isAtom : Token → Bool
  | .null | .bool _ | .number _ | .string _ => true
  | _ => false

def value? : Token → Option Json
  | .null => some .null
  | .bool b => some (.bool b)
  | .number t => t.value?.map .number
  | .string s => s.map .string
  | _ => none

/-- The characters are those of an atom, without blanks in front. -/
structure Spells (cs : List Char) (t : Token) : Prop where
  atom : t.isAtom = true
  visible : ∀ c ∈ cs.head?, isBlank c = false
  next : ∀ rest, EndsValue rest → next? (cs ++ rest) = some (t, rest)

variable {cs rest : List Char} {t : Token}

theorem endsValue_nil : EndsValue [] := nofun

theorem Spells.ne_nil (h : Spells cs t) : cs ≠ [] := by
  rintro rfl
  exact absurd (h.next [] endsValue_nil) nofun

theorem Spells.lexChars (h : Spells cs t) (ends : EndsValue rest) :
    lexChars (cs ++ rest) = t :: lexChars rest := by
  obtain ⟨c, cs, rfl⟩ := List.exists_cons_of_ne_nil h.ne_nil
  exact lexChars_of_next? (h.visible c rfl) (h.next rest ends)

theorem Spells.lex {s : String} (h : Spells s.toList t) : lex s = [t] := by
  have alone := h.lexChars endsValue_nil
  rwa [List.append_nil, lexChars_nil] at alone

end Token

namespace Machine

variable {t : Token} {depth : Option Nat}

theorem begin_atom (atom : t.isAtom = true) (stack : List (Frame Json)) :
    begin Builder.json depth stack t = t.value?.map (give · stack) := by
  cases t with
  | null | bool | number | string => rfl
  | _ => cases atom

theorem step_atom {await : Await} (ready : await = .value ∨ await = .firstItem)
    (atom : t.isAtom = true) (stack : List (Frame Json)) :
    step Builder.json depth ⟨stack, await⟩ t = t.value?.map (give · stack) := by
  rw [← begin_atom atom]
  obtain rfl | rfl := ready
  · rfl
  · cases t with
    | closeBracket => cases atom
    | _ => rfl

end Machine

theorem parse?_of_spells {s : String} {t : Token} (h : t.Spells s.toList) :
    parse? s = t.value? := by
  rw [parse?, h.lex, valueOf?, Machine.run, Machine.step_atom (.inl rfl) h.atom]
  cases t.value? <;> rfl

end FilterSql.Json
