import FilterSql.Proofs.Query.FlatFilter
import FilterSql.Query.Compile

/-!
# The shapes of a filter

A list of records with the fields that they are about can be written in four shapes. `shapes_agree`:
a filter has the same terms in all of them, or the same error, and so has the query that is compiled
from it. A shape is recognised by the keys of all elements together. An array in which every record
stands under the word `field` is taken for one of records that name their fields.
-/

namespace FilterSql.Query.Filter

/-- A record that has an operator and leaves it to the shape to name the field. -/
structure Unnamed (spec : Json.Members) : Prop where
  operator : spec.has "operator" = true
  field : spec.has "field" = false
  fieldName : spec.has "field_name" = false

instance (spec : Json.Members) : Decidable (Unnamed spec) :=
  decidable_of_iff (_ ∧ _ ∧ _)
    ⟨fun ⟨operator, field, fieldName⟩ => ⟨operator, field, fieldName⟩,
      fun ⟨operator, field, fieldName⟩ => ⟨operator, field, fieldName⟩⟩

-- ---------------------------------------------------------------------------
-- Shapes
-- ---------------------------------------------------------------------------

/-- An array of records that name their fields themselves. -/
def named (key : String) (pairs : List (String × Json.Members)) : Json :=
  .array (pairs.map fun p => .object ((key, .string p.1) :: p.2))

/-- An array of records, each under the name of its field. -/
def keyed (pairs : List (String × Json.Members)) : Json :=
  .array (pairs.map fun p => .object [(p.1, .object p.2)])

/-- One object with a record for each field. -/
def flat (pairs : List (String × Json.Members)) : Json :=
  .object (Json.Members.ofWritten (pairs.map fun p => (p.1, .object p.2)))

/-- The filters have the same terms, or the same error, and so has every query that is compiled with
one of them. -/
structure SameFilter (f g : Json) : Prop where
  terms : Filter.terms f = Filter.terms g
  compile (catalog : Catalog) (config : Config) (r : Request) :
    Query.compile catalog config { r with filter := f } =
      Query.compile catalog config { r with filter := g }

theorem SameFilter.of_terms {f g : Json} (h : Filter.terms f = Filter.terms g) :
    SameFilter f g := by
  refine ⟨h, fun catalog config r => ?_⟩
  simp only [Query.compile, outline, h]

-- ---------------------------------------------------------------------------
-- Records
-- ---------------------------------------------------------------------------

def IsName (key : String) : Prop := key = "field" ∨ key = "field_name"

/-- A term is read from the name of its field and from the members that name none. -/
theorem ofSpec_congr {spec spec' : Json.Members} (hfield : fieldIdentifier a = fieldIdentifier b)
    (same : ∀ k, ¬IsName k → spec.get? k = spec'.get? k) :
    Term.ofSpec a spec = Term.ofSpec b spec' := by
  have other (k : String) (hk : k ≠ "field" ∧ k ≠ "field_name") : spec.get? k = spec'.get? k :=
    same k (not_or.mpr hk)
  simp [Term.ofSpec, Term.dateUnder, List.findSome?_cons, hfield, other]

theorem ofSpec_cons (hkey : IsName key) (field : String) (name : Json) (spec : Json.Members) :
    Term.ofSpec field ((key, name) :: spec) = Term.ofSpec field spec := by
  refine ofSpec_congr rfl fun k hk => (Keyed.lookup_cons_eq_ite k key name spec).trans (if_neg ?_)
  rintro rfl
  exact hk hkey

theorem namedTerm_cons (hkey : IsName key) (field : String) (spec : Json.Members) :
    namedTerm key ((key, .string field) :: spec) = Term.ofSpec field spec := by
  have own : Json.Members.get? ((key, .string field) :: spec) key = some (.string field) :=
    List.lookup_cons_self
  rw [namedTerm, own]
  exact ofSpec_cons hkey field _ spec

theorem Unnamed.two_keys (unnamed : Unnamed spec) (key : String) (name : Json) :
    hasOneKey (.object ((key, name) :: spec)) = false := by
  cases spec with
  | nil => cases unnamed.operator
  | cons => simp [hasOneKey, Json.members?]

-- ---------------------------------------------------------------------------
-- Element by element
-- ---------------------------------------------------------------------------

theorem mapM_written {rule : β → Except ε (Option γ)} {term : α → Except ε γ} {write : α → β}
    {as : List α} (h : ∀ a ∈ as, rule (write a) = some <$> term a) :
    (do return (← (as.map write).mapM rule).filterMap id) = as.mapM term := by
  induction as with
  | nil => rfl
  | cons a as ih =>
    obtain ⟨ha, has⟩ := List.forall_mem_cons.mp h
    rw [List.map_cons, List.mapM_cons, List.mapM_cons, ha, ← ih has]
    cases term a with
    | error => rfl
    | ok t =>
      cases (as.map write).mapM rule <;> rfl

/-- The terms of the records, each with the name of its field. `Term.ofSpec_eq_ok_iff` says what a
record asks for, and `Term.ofSpec_eq_error_iff` what it is refused for. -/
def described (pairs : List (String × Json.Members)) : Except QueryError (List Term) :=
  pairs.mapM fun p => Term.ofSpec p.1 p.2

variable {pairs : List (String × Json.Members)}

theorem ofArray_named_field :
    ofArray (pairs.map fun p => .object (("field", .string p.1) :: p.2)) = described pairs := by
  have all :
      (pairs.map fun p => Json.object (("field", .string p.1) :: p.2)).all hasField = true := by
    simp [hasField, Json.members?, Json.Members.has, Json.Members.get?]
  unfold ofArray
  rw [if_pos all]
  refine mapM_written fun p _ => ?_
  exact congrArg (some <$> ·) (namedTerm_cons (.inl rfl) p.1 p.2)

theorem not_all_of_mem {write : α → Json} {has : Json → Bool} {as : List α} (ha : a ∈ as)
    (h : has (write a) = false) : ¬(as.map write).all has = true := by
  rw [List.all_map, List.all_eq_true]
  intro all
  exact Bool.false_ne_true (h.symm.trans (all a ha))

/-- If each of the fields is called `field`, the array is taken for one of the first shape. -/
theorem ofArray_keyed (h : pairs = [] ∨ ∃ p ∈ pairs, p.1 ≠ "field") :
    ofArray (pairs.map fun p => .object [(p.1, .object p.2)]) = described pairs := by
  rcases h with rfl | ⟨p, hp, hne⟩
  · rfl
  · have notField : hasField (.object [(p.1, .object p.2)]) = false := by
      simp [hasField, Json.members?, Json.Members.has, Json.Members.get?,
        Keyed.lookup_cons_eq_ite, Ne.symm hne]
    have all : (pairs.map fun p => Json.object [(p.1, .object p.2)]).all hasOneKey = true := by
      simp [hasOneKey, Json.members?]
    unfold ofArray
    rw [if_neg (not_all_of_mem hp notField), if_pos all]
    exact mapM_written fun p _ => rfl

theorem ofArray_named_fieldName (unnamed : ∀ p ∈ pairs, Unnamed p.2) :
    ofArray (pairs.map fun p => .object (("field_name", .string p.1) :: p.2)) =
      described pairs := by
  by_cases hpairs : pairs = []
  · rw [hpairs]
    rfl
  · obtain ⟨p, hp⟩ := List.exists_mem_of_ne_nil pairs hpairs
    have notField : hasField (.object (("field_name", .string p.1) :: p.2)) = false :=
      (unnamed p hp).field
    have notOne := (unnamed p hp).two_keys "field_name" (.string p.1)
    unfold ofArray
    rw [if_neg (not_all_of_mem hp notField), if_neg (not_all_of_mem hp notOne)]
    refine mapM_written fun p _ => ?_
    exact congrArg (some <$> ·) (namedTerm_cons (.inr rfl) p.1 p.2)

theorem ranges_plain (pairs : List (String × Json.Members)) :
    ranges (pairs.map fun p => .plain p.1 (.object p.2)) = [] := by
  rw [ranges_eq_foldl]
  induction pairs with
  | nil => rfl
  | cons p rest ih => exact ih

theorem ofMembers_flat (unnamed : ∀ p ∈ pairs, Unnamed p.2) (plain : ∀ p ∈ pairs, ¬IsBound p.1) :
    ofMembers (pairs.map fun p => (p.1, .object p.2)) = described pairs := by
  have written : (pairs.map fun p => (p.1, Json.object p.2)).map (fun m => classify m.1 m.2) =
      pairs.map fun p => .plain p.1 (.object p.2) := by
    rw [List.map_map]
    refine List.map_congr_left fun p hp => ?_
    rcases classify_cases p.1 (.object p.2) with ⟨which, field, hkey, -⟩ | ⟨-, hc⟩
    · exact absurd ⟨which, field, hkey⟩ (plain p hp)
    · exact hc
  have terms : (do return (← (pairs.map fun p => .plain p.1 (.object p.2)).mapM
      Member.plainTerm?).filterMap id) = described pairs := by
    refine mapM_written fun p hp => ?_
    rw [Member.plainTerm?, plainTerm, if_pos (unnamed p hp).operator]
  unfold ofMembers
  simp only [written, ranges_plain]
  rw [← terms]
  cases (pairs.map fun p => Member.plain p.1 (.object p.2)).mapM Member.plainTerm? with
  | error => rfl
  | ok => simp [bind, Except.bind, pure, Except.pure]

-- ---------------------------------------------------------------------------
-- All shapes
-- ---------------------------------------------------------------------------

def shaped (pairs : List (String × Json.Members)) : Except QueryError (List Term) := do
  checkCount pairs.length
  let ts ← described pairs
  checkCount ts.length
  return ts

theorem terms_array {write : String × Json.Members → Json}
    (h : ofArray (pairs.map write) = described pairs) :
    terms (.array (pairs.map write)) = shaped pairs := by
  simp only [terms, shaped, List.length_map, h]

theorem terms_flat (distinct : (pairs.map Prod.fst).Nodup) (unnamed : ∀ p ∈ pairs, Unnamed p.2)
    (plain : ∀ p ∈ pairs, ¬IsBound p.1) : terms (flat pairs) = shaped pairs := by
  have written : Json.Members.ofWritten (pairs.map fun p => (p.1, Json.object p.2)) =
      pairs.map fun p => (p.1, .object p.2) :=
    Json.Members.ofWritten_of_nodup (by rwa [List.map_map])
  simp only [flat, written, terms, shaped, List.length_map, ofMembers_flat unnamed plain]

theorem checkCount_ok (h : count ≤ maxTerms) : checkCount count = .ok () :=
  if_neg (Nat.not_lt.mpr h)

theorem shaped_eq_described (h : pairs.length ≤ maxTerms) : shaped pairs = described pairs := by
  unfold shaped
  rw [checkCount_ok h]
  cases hts : described pairs with
  | error => rfl
  | ok ts =>
    have count : ts.length ≤ maxTerms := (mapM_eq_ok.mp hts).length_eq ▸ h
    simp only [bind, Except.bind, checkCount_ok count]
    rfl

/-- All shapes of a filter say the same. -/
theorem shapes_agree (unnamed : ∀ p ∈ pairs, Unnamed p.2)
    (hfield : pairs = [] ∨ ∃ p ∈ pairs, p.1 ≠ "field") :
    SameFilter (named "field" pairs) (keyed pairs) ∧
      SameFilter (named "field_name" pairs) (keyed pairs) ∧
      ((pairs.map Prod.fst).Nodup → (∀ p ∈ pairs, ¬IsBound p.1) →
        SameFilter (flat pairs) (keyed pairs)) ∧
      (pairs.length ≤ maxTerms →
        terms (keyed pairs) = pairs.mapM fun p => Term.ofSpec p.1 p.2) := by
  have hkeyed : terms (keyed pairs) = shaped pairs := terms_array (ofArray_keyed hfield)
  have hfirst : terms (named "field" pairs) = shaped pairs := terms_array ofArray_named_field
  have hthird : terms (named "field_name" pairs) = shaped pairs :=
    terms_array (ofArray_named_fieldName unnamed)
  refine ⟨.of_terms (hfirst.trans hkeyed.symm), .of_terms (hthird.trans hkeyed.symm),
    fun distinct plain => ?_, fun count => hkeyed.trans (shaped_eq_described count)⟩
  exact .of_terms ((terms_flat distinct unnamed plain).trans hkeyed.symm)

/-- One of the fields is called `field`. -/
def ofSomeFields : List (String × Json.Members) :=
  [("field", [("operator", .string "in"), ("values", .array [.string "a", .bool true])]),
    (" d ", [("end_date", .string "1/2/2024"), ("operator", .string "Date_Range")]),
    ("no", [("operator", .string "is_not_null")])]

theorem shapes_agree_ofSomeFields :
    SameFilter (named "field" ofSomeFields) (keyed ofSomeFields) ∧
      SameFilter (named "field_name" ofSomeFields) (keyed ofSomeFields) ∧
      SameFilter (flat ofSomeFields) (keyed ofSomeFields) ∧
      ∃ ts, terms (keyed ofSomeFields) = .ok ts ∧ ts.length = 3 := by
  have unnamed : ∀ p ∈ ofSomeFields, Unnamed p.2 := by decide +kernel
  obtain ⟨first, third, fourth, read⟩ := shapes_agree unnamed (.inr (by decide +kernel))
  refine ⟨first, third, fourth (by decide +kernel) (by decide +kernel), ?_⟩
  rw [read (by decide)]
  exact exists_ok_of_toOption (by decide +kernel)

end FilterSql.Query.Filter
