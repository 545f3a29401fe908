import FilterSql.Proofs.Text.Lowercase
import FilterSql.Query.Term

/-!
# The tokens of operators

`Term.operatorOf_eq_ok_iff`: a token is accepted exactly if it is, white space around it aside, one
of the six symbols or the name of an operator in any case of the ASCII letters. Lowercasing knows the
case pairs of all scripts, but leads to no name from a text beyond ASCII, since no name has a `k`.
-/

namespace FilterSql.Query

open Text

namespace Operator

inductive Symbol : String → Operator → Prop
  | equals : Symbol "=" .equals
  | notEquals : Symbol "!=" .notEquals
  | greaterThan : Symbol ">" .greaterThan
  | lessThan : Symbol "<" .lessThan
  | greaterThanOrEqual : Symbol ">=" .greaterThanOrEqual
  | lessThanOrEqual : Symbol "<=" .lessThanOrEqual

/-- A word names an operator by its symbol, or by its name in any case of the ASCII letters. -/
inductive NamedBy (word : String) (op : Operator) : Prop
  | symbol (short : Symbol word op)
  | name (spelled : sameIgnoringAsciiCase word op.name = true)

theorem mem_symbols_iff {word : String} {op : Operator} :
    (word, op) ∈ symbols ↔ Symbol word op := by
  constructor
  · intro listed
    simp only [symbols, List.mem_cons, Prod.mk.injEq, List.not_mem_nil, or_false] at listed
    rcases listed with ⟨rfl, rfl⟩ | ⟨rfl, rfl⟩ | ⟨rfl, rfl⟩ | ⟨rfl, rfl⟩ | ⟨rfl, rfl⟩ | ⟨rfl, rfl⟩
    · exact .notEquals
    · exact .lessThan
    · exact .lessThanOrEqual
    · exact .equals
    · exact .greaterThan
    · exact .greaterThanOrEqual
  · intro short
    cases short <;> decide

theorem name_plain (op : Operator) : ∀ c ∈ op.name.toList, c.toNat < 0x80 ∧ c ≠ 'k' := by
  have plain : (op.name.toList.all fun c => c.toNat < 0x80 && c != 'k') = true := by
    cases op <;> decide
  simpa using plain

theorem asciiLower_name (op : Operator) : asciiLower op.name = op.name := by
  cases op <;> decide

theorem lowercase_eq_name_iff {word : String} {op : Operator} :
    lowercase word = op.name ↔ sameIgnoringAsciiCase word op.name = true := by
  rw [lowercase_eq_iff op.name_plain, sameIgnoringAsciiCase_iff, asciiLower_name]

theorem Symbol.not_spelled {word : String} {op : Operator} (short : Symbol word op)
    (other : Operator) : sameIgnoringAsciiCase word other.name = false := by
  cases short <;> cases other <;> decide

theorem Symbol.unique {word : String} {a b : Operator} (ha : Symbol word a) (hb : Symbol word b) :
    a = b := by
  have listed := mem_symbols_iff.mpr hb
  cases ha <;> simpa [symbols, eq_comm] using listed

theorem NamedBy.unique {word : String} {a b : Operator} (ha : NamedBy word a)
    (hb : NamedBy word b) : a = b := by
  cases ha with
  | symbol short =>
    cases hb with
    | symbol short' => exact short.unique short'
    | name spelled => exact absurd spelled (by simp [short.not_spelled])
  | name spelled =>
    cases hb with
    | symbol short => exact absurd spelled (by simp [short.not_spelled])
    | name spelled' =>
      rw [← lowercase_eq_name_iff] at spelled spelled'
      exact name_injective (spelled.symm.trans spelled')

theorem NamedBy.of_ofToken? {token : String} {op : Operator} (h : ofToken? token = some op) :
    NamedBy (trim token) op := by
  unfold ofToken? at h
  rcases Option.or_eq_some_iff.mp h with h | ⟨-, h⟩
  · obtain ⟨before, after, hsymbols, -⟩ := List.lookup_eq_some_iff.mp h
    exact .symbol (mem_symbols_iff.mp (hsymbols ▸ List.mem_append_right _ List.mem_cons_self))
  · have named := List.find?_some h
    exact .name (lowercase_eq_name_iff.mp (beq_iff_eq.mp named).symm)

theorem NamedBy.exists_ofToken? {token : String} {op : Operator} (h : NamedBy (trim token) op) :
    ∃ found, ofToken? token = some found := by
  unfold ofToken?
  rw [← Option.isSome_iff_exists, Option.isSome_or, Bool.or_eq_true]
  cases h with
  | symbol short =>
    left
    exact List.lookup_isSome_iff.mpr ⟨_, mem_symbols_iff.mpr short, beq_self_eq_true _⟩
  | name spelled =>
    right
    rw [List.find?_isSome]
    exact ⟨op, mem_all op, beq_iff_eq.mpr (lowercase_eq_name_iff.mpr spelled).symm⟩

theorem ofToken?_eq_some_iff {token : String} {op : Operator} :
    ofToken? token = some op ↔ NamedBy (trim token) op := by
  refine ⟨NamedBy.of_ofToken?, fun h => ?_⟩
  obtain ⟨found, hfound⟩ := h.exists_ofToken?
  rw [hfound, (NamedBy.of_ofToken? hfound).unique h]

theorem ofToken?_eq_none_iff {token : String} :
    ofToken? token = none ↔ ∀ op, ¬ NamedBy (trim token) op := by
  simp only [← ofToken?_eq_some_iff, Option.eq_none_iff_forall_ne_some, ne_eq]

/-- No operator has a name or a symbol beyond ASCII. -/
theorem not_namedBy_of_beyond {word : String} {c : Char} (hc : c ∈ word.toList)
    (beyond : 0x80 ≤ c.toNat) (op : Operator) : ¬ NamedBy word op := by
  rintro (short | spelled)
  · have ascii : (word.toList.all fun d => d.toNat < 0x80) = true := by cases short <;> decide
    have low := List.all_eq_true.mp ascii c hc
    exact absurd (decide_eq_true_eq.mp low) (Nat.not_lt.mpr beyond)
  · have plain := op.name_plain
    rw [← lowercase_eq_name_iff.mpr spelled, lowercase, String.toList_ofList] at plain
    exact absurd (ascii_of_lowerChars plain c hc) (Nat.not_lt.mpr beyond)

theorem namedBy_name (op : Operator) : NamedBy (trim op.name) op := by
  have stripped : trim op.name = op.name := by cases op <;> decide
  rw [stripped]
  exact .name (sameIgnoringAsciiCase_self op.name)

theorem Symbol.namedBy {word : String} {op : Operator} (short : Symbol word op) :
    NamedBy (trim word) op := by
  have stripped : trim word = word := by cases short <;> decide
  rw [stripped]
  exact .symbol short

end Operator

namespace Term

open Operator

theorem operatorOf_eq_ok_iff {token : String} {op : Operator} :
    operatorOf (some (.string token)) = .ok op ↔ NamedBy (trim token) op := by
  rw [← ofToken?_eq_some_iff]
  cases h : ofToken? token <;> simp [operatorOf, h]

theorem operatorOf_eq_error_iff {token : String} {e : QueryError} :
    operatorOf (some (.string token)) = .error e ↔
      (∀ op, ¬ NamedBy (trim token) op) ∧ e = .unsupportedOperator (trim token) := by
  rw [← ofToken?_eq_none_iff]
  cases h : ofToken? token <;> simp [operatorOf, h, eq_comm]

end Term

end FilterSql.Query
