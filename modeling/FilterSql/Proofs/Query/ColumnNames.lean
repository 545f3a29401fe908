import FilterSql.Proofs.FirstFault
import FilterSql.Proofs.Query.FlatOrder
import FilterSql.Proofs.Query.TermCount
import FilterSql.Proofs.Query.TermRecord

/-!
# Where the names of columns come from

A column is named by a text: a string in an element of an array, or the key of a member. A value of
another type is refused as a name, because its JSON text is no identifier.
`columnsFromTexts_iff`: so it is exactly unless the value is null, true or false, whose JSON texts
are identifiers and name a column.
-/

namespace FilterSql.Json

mutual

/-- All floats in the value are finite, as they are if it is read from text. -/
def isFinite : Json → Bool
  | .number (.float x) => (Decimal.Reading.ofFloat x).isFinite
  | .array items => itemsFinite items
  | .object members => membersFinite members
  | _ => true

def itemsFinite : List Json → Bool
  | [] => true
  | j :: rest => isFinite j && itemsFinite rest

def membersFinite : List (String × Json) → Bool
  | [] => true
  | (_, j) :: rest => isFinite j && membersFinite rest

end

theorem isFinite_of_mem (h : itemsFinite items = true) (hitem : item ∈ items) :
    item.isFinite = true := by
  induction items with
  | nil => cases hitem
  | cons j rest ih =>
    simp only [itemsFinite, Bool.and_eq_true] at h
    rcases List.mem_cons.mp hitem with rfl | hitem
    · exact h.1
    · exact ih h.2 hitem

theorem isFinite_of_get? {members : Members} (h : membersFinite members = true)
    (found : members.get? key = some value) : value.isFinite = true := by
  induction members with
  | nil => cases found
  | cons m rest ih =>
    simp only [membersFinite, Bool.and_eq_true] at h
    rw [Members.get?, Keyed.lookup_cons_eq_ite] at found
    split at found
    · obtain rfl := Option.some.inj found
      exact h.1
    · exact ih h.2 found

end FilterSql.Json

namespace FilterSql.Query

open Text

namespace Filter

/-- The key gives the column its name, without the suffix if it is that of an end of a range. -/
def KeyNames (key column : String) : Prop :=
  ¬IsBound key ∧ column = trim key ∨ NamesField column key

/-- Each column is named by a text: those of an array by its elements one by one, and those of an
object by its keys. -/
def NamedByTexts (filter : Json) (ts : List Term) : Prop :=
  match filter with
  | .array items =>
    List.Forall₂ (fun item t => ∃ s spec,
        (shapeOf items).record? item = some (.string s, spec) ∧ t.field.text = trim s)
      (items.filter (shapeOf items).asks) ts
  | .object members => ∀ t ∈ ts, ∃ m ∈ members, KeyNames m.1 t.field.text
  | _ => ts = []

/-- Reading the filter comes to an element with this value for the name of its field, and makes this
of it: the array is not too large, and the elements before can be read. -/
inductive GetsTo : Json → Json → Except QueryError (Option Term) → Prop
  | intro (few : (before ++ item :: after).length ≤ maxTerms)
      (fine : ∀ b ∈ before, ∃ t?, (shapeOf (before ++ item :: after)).read b = .ok t?)
      (named : (shapeOf (before ++ item :: after)).record? item = some (name, spec)) :
      GetsTo (.array (before ++ item :: after)) name ((shapeOf (before ++ item :: after)).read item)

/-- Columns come from texts, and the first value that is none is refused as a name, for which the
whole filter is refused. -/
structure ColumnsFromTexts (filter : Json) : Prop where
  named : ∀ ts, terms filter = .ok ts → NamedByTexts filter ts
  refused : ∀ name outcome, GetsTo filter name outcome → name.string? = none →
    outcome = .error (.unsafeIdentifier .fieldName (trim (nameText name))) ∧
    terms filter = .error (.unsafeIdentifier .fieldName (trim (nameText name)))

end Filter

/-- Null, true and false, whose JSON texts are words. -/
def IsConstant : Json → Prop
  | .null | .bool _ => True
  | _ => False

instance (j : Json) : Decidable (IsConstant j) := by
  cases j <;> unfold IsConstant <;> infer_instance

-- ---------------------------------------------------------------------------
-- Texts that are no names
-- ---------------------------------------------------------------------------

/-- The text begins with something that is neither white space nor the beginning of a name. -/
def OpensNoName (cs : List Char) : Prop :=
  ∃ c rest, cs = c :: rest ∧ isWhiteSpace c = false ∧ isIdentifierStart c = false

theorem opensNoName_cons (hspace : isWhiteSpace c = false) (hname : isIdentifierStart c = false)
    (rest : List Char) : OpensNoName (c :: rest) :=
  ⟨c, rest, rfl, hspace, hname⟩

theorem OpensNoName.append (h : OpensNoName cs) (more : List Char) : OpensNoName (cs ++ more) := by
  obtain ⟨c, rest, rfl, hspace, hname⟩ := h
  exact ⟨c, rest ++ more, rfl, hspace, hname⟩

theorem OpensNoName.take (h : OpensNoName cs) (hn : 0 < n) : OpensNoName (cs.take n) := by
  obtain ⟨c, rest, rfl, hspace, hname⟩ := h
  obtain ⟨m, rfl⟩ := Nat.exists_eq_add_one.mpr hn
  exact ⟨c, rest.take m, rfl, hspace, hname⟩

theorem isSafeIdentifier_trim_of_opensNoName {s : String} (h : OpensNoName s.toList) :
    isSafeIdentifier (trim s) = false := by
  obtain ⟨c, rest, hs, hspace, hname⟩ := h
  have kept := trimChars_isPrefix s.toList
  rw [hs, List.dropWhile_cons_of_neg (by simp [hspace]), ← hs, ← toList_trim, hs] at kept
  unfold isSafeIdentifier
  cases htrim : (trim s).toList with
  | nil => rfl
  | cons d rest' =>
    rw [htrim, List.cons_prefix_cons] at kept
    simp [kept.1, hname]

theorem opensNoName_toDigits (n : Nat) : OpensNoName (Nat.toDigits 10 n) := by
  cases hds : Nat.toDigits 10 n with
  | nil => exact absurd hds Nat.toDigits_ne_nil
  | cons c rest =>
    have digit : c.isDigit = true :=
      Nat.isDigit_of_mem_toDigits (by decide) (by decide) (hds ▸ List.mem_cons_self)
    have ascii : isAsciiDigit c = true := by
      simpa [Char.isDigit, isAsciiDigit, UInt32.le_iff_toNat_le] using digit
    refine opensNoName_cons ?_ ?_ rest
    · exact isWhiteSpace_of_isDecimalDigit (isDecimalDigit_of_isAsciiDigit ascii)
    · have table : ∀ n : Fin 0x80, isAsciiDigit (Char.ofNat n) = true →
          isIdentifierStart (Char.ofNat n) = false := by decide
      have small := toNat_lt_of_isIdentifierPart (isIdentifierPart_of_isDigit digit)
      simpa using table ⟨c.toNat, small⟩ (by simpa using ascii)

theorem opensNoName_zero (rest : List Char) : OpensNoName ('0' :: rest) :=
  opensNoName_cons (by decide) (by decide) rest

theorem opensNoName_minus (rest : List Char) : OpensNoName ('-' :: rest) :=
  opensNoName_cons (by decide) (by decide) rest

open Decimal in
theorem opensNoName_placePoint (l : Layout) (h : OpensNoName ds) (point : Int) :
    OpensNoName (l.placePoint ds point) := by
  unfold Layout.placePoint
  split
  · rw [List.append_assoc]
    exact h.append _
  · split
    · exact (h.take (by omega)).append _
    · exact opensNoName_zero _

open Decimal in
theorem opensNoName_withExponent (l : Layout) (h : OpensNoName ds) (exponent : Int) :
    OpensNoName (l.withExponent ds exponent) := by
  simp only [Layout.withExponent, List.append_assoc]
  exact (h.take Nat.one_pos).append _

open Decimal in
theorem opensNoName_magnitude (l : Layout) (x : Magnitude) : OpensNoName (l.magnitude x) := by
  unfold Layout.magnitude
  split
  · exact opensNoName_zero _
  · have digits := opensNoName_toDigits (x.shortest l.tie).strip.digits
    dsimp only
    split
    · exact opensNoName_placePoint l digits _
    · split
      · exact opensNoName_placePoint l digits _
      · exact opensNoName_withExponent l digits _

theorem opensNoName_number {n : Json.Number} (finite : (Json.number n).isFinite = true) :
    OpensNoName n.text.toList := by
  cases n with
  | integer n =>
    cases n with
    | ofNat n => simpa [Json.Number.text, toString, Int.repr, Nat.repr] using opensNoName_toDigits n
    | negSucc n => simpa [Json.Number.text, toString, Int.repr] using opensNoName_minus _
  | float x =>
    unfold Json.isFinite at finite
    cases hx : Decimal.Reading.ofFloat x with
    | nan | infinite => simp [hx, Decimal.Reading.isFinite] at finite
    | finite negative x =>
      simp only [Json.Number.text, Decimal.Layout.text, hx, String.toList_ofList]
      cases negative with
      | true => exact opensNoName_minus _
      | false => simpa using opensNoName_magnitude Json.Number.layout x

/-- Other values than texts are no names, unless they are constants. -/
theorem isSafeIdentifier_nameText {name : Json} (finite : name.isFinite = true)
    (text : name.string? = none) (constant : ¬IsConstant name) :
    isSafeIdentifier (trim (nameText name)) = false := by
  apply isSafeIdentifier_trim_of_opensNoName
  cases name with
  | null | bool => exact absurd trivial constant
  | string => cases text
  | number n => exact opensNoName_number finite
  | array items =>
    simpa [nameText, Json.render] using opensNoName_cons (by decide) (by decide) _
  | object members =>
    simpa [nameText, Json.render] using opensNoName_cons (by decide) (by decide) _

theorem isSafeIdentifier_nameText_of_isConstant {name : Json} (constant : IsConstant name) :
    isSafeIdentifier (trim (nameText name)) = true := by
  match name, constant with
  | .null, _ | .bool true, _ | .bool false, _ => decide

theorem isSafeIdentifier_of_ofSpec
    (h : Term.ofSpec name spec = .error (.unsafeIdentifier .fieldName culprit)) :
    isSafeIdentifier (trim name) = false := by
  rcases Term.ofSpec_eq_error_iff.mp h with bad | ⟨-, fault⟩
  · exact bad
  · obtain ⟨told, other⟩ := fault.exists_eq
    cases other

namespace Filter

-- ---------------------------------------------------------------------------
-- Arrays
-- ---------------------------------------------------------------------------

variable {items : List Json} {name item : Json} {filter : Json}
  {outcome : Except QueryError (Option Term)}

theorem getsTo_of_terms (h : terms (.array items) = .ok ts) (hitem : item ∈ items)
    (named : (shapeOf items).record? item = some (name, spec)) :
    GetsTo (.array items) name ((shapeOf items).read item) := by
  have few : items.length ≤ maxTerms := by
    by_contra many
    have failed : terms (.array items) = .error (.tooManyFilters items.length maxTerms) :=
      tooManyFilters_iff.mpr ⟨Nat.not_le.mp many, rfl, rfl⟩
    rw [h] at failed
    cases failed
  have read := uncounted_of_terms h
  simp only [uncounted, ofArray_eq, map_eq_ok, mapM_eq_ok] at read
  obtain ⟨found, hfound, -⟩ := read
  have fine : ∀ item ∈ items, ∃ t?, (shapeOf items).read item = .ok t? := by
    intro item hitem
    obtain ⟨t?, -, ht⟩ := exists_of_mem_left hfound hitem
    exact ⟨t?, ht⟩
  obtain ⟨before, after, rfl⟩ := List.append_of_mem hitem
  exact .intro few (fun b hb => fine b (List.mem_append_left _ hb)) named

/-- The first element that cannot be read has the error of the filter. -/
theorem GetsTo.terms_eq (h : GetsTo filter name outcome) (failed : outcome = .error e) :
    terms filter = .error e := by
  cases h with | @intro before item after _ spec few fine named => ?_
  have few : size (.array (before ++ item :: after)) ≤ maxTerms := few
  rw [terms_of_size_le few, uncounted, ofArray_eq, map_eq_error, mapM_eq_error,
    First.append_iff]
  refine .inr ⟨fun b hb e failed => ?_, .here failed⟩
  obtain ⟨t?, ht⟩ := fine b hb
  rw [ht] at failed
  cases failed

theorem GetsTo.exists_ofSpec (h : GetsTo filter name outcome) :
    ∃ spec, outcome = some <$> Term.ofSpec (nameText name) spec := by
  cases h with
  | intro few fine named => exact ⟨_, Shape.read_of_record named⟩

theorem GetsTo.isFinite (h : GetsTo filter name outcome) (finite : filter.isFinite = true) :
    name.isFinite = true := by
  cases h with | @intro before item after _ spec few fine named => ?_
  have own : item.isFinite = true := Json.isFinite_of_mem finite (by simp)
  generalize shapeOf (before ++ item :: after) = shape at named
  cases shape with
  | keyed =>
    match item, named with
    | .object [(_, .object _)], rfl => rfl
  | field | fieldName =>
    cases item with
    | object members =>
      obtain ⟨found, hfound, same⟩ := Option.map_eq_some_iff.mp named
      cases same
      exact Json.isFinite_of_get? own hfound
    | _ => simp [Shape.record?] at named

-- ---------------------------------------------------------------------------
-- Objects
-- ---------------------------------------------------------------------------

theorem keyNames_of_describes (plain : ¬IsBound key) (h : Describes key value t) :
    KeyNames key t.field.text := by
  cases h with
  | record hop h => exact .inl ⟨plain, (Term.ofSpec_eq_ok_iff.mp h).field⟩
  | bound hkey hdate hid => exact absurd ⟨_, _, hkey⟩ plain
  | listed hkey hid hvs => exact .inl ⟨plain, hid⟩
  | equal hkey hid hlist hop => exact .inl ⟨plain, hid⟩

theorem field_of_endTerm (h : EndTerm members field which (some t)) : t.field.text = field := by
  cases h with
  | date hid last text nonblank date => exact hid

theorem keyNames_of_ofMembers (h : ofMembers members = .ok ts) :
    ∀ t ∈ ts, ∃ m ∈ members, KeyNames m.1 t.field.text := by
  obtain ⟨plain, fields, ends, rfl, hplain, order, hends⟩ := ofMembers_in_order h
  intro t ht
  rcases List.mem_append.mp ht with ht | ht
  · obtain ⟨m, hm, describes⟩ := exists_of_mem_right hplain ht
    obtain ⟨hm, unbound⟩ := List.mem_filter.mp hm
    exact ⟨m, hm, keyNames_of_describes (by simpa using unbound) describes⟩
  · obtain ⟨us, hus, ht⟩ := List.mem_flatten.mp ht
    obtain ⟨field, hfield, range⟩ := exists_of_mem_right hends hus
    obtain ⟨m, hm, names⟩ := (order.named field).mp hfield
    obtain ⟨lower, upper⟩ := range
    have own : t.field.text = field := by
      rcases List.mem_append.mp ht with ht | ht
      · rw [Option.mem_toList.mp ht] at lower
        exact field_of_endTerm lower
      · rw [Option.mem_toList.mp ht] at upper
        exact field_of_endTerm upper
    exact ⟨m, hm, .inr (own ▸ names)⟩

-- ---------------------------------------------------------------------------
-- All filters
-- ---------------------------------------------------------------------------

theorem names_of_terms (finite : (Json.array items).isFinite = true)
    (h : terms (.array items) = .ok ts) :
    List.Forall₂ (fun item t => ∃ name spec, (shapeOf items).record? item = some (name, spec) ∧
        (∃ outcome, GetsTo (.array items) name outcome) ∧ ((∃ s, name = .string s) ∨ IsConstant name) ∧
        t.field.text = trim (nameText name))
      (items.filter (shapeOf items).asks) ts := by
  have gives := (gives_of_ofArray (uncounted_of_terms h)).1
  refine ((List.forall₂_and_left _ _).mpr ⟨fun _ hitem => hitem, gives⟩).imp ?_
  rintro item t ⟨hitem, name, spec, found, ht⟩
  have gets := getsTo_of_terms h (List.mem_of_mem_filter hitem) found
  have column := (Term.ofSpec_eq_ok_iff.mp ht).field
  refine ⟨name, spec, found, ⟨_, gets⟩, ?_, column⟩
  by_contra other
  rw [not_or] at other
  have text : name.string? = none := by
    cases name with
    | string s => exact absurd ⟨s, rfl⟩ other.1
    | _ => rfl
  have bad := isSafeIdentifier_nameText (gets.isFinite finite) text other.2
  rw [← column, t.field.safe] at bad
  cases bad

theorem columnsFromTexts_of_getsTo (finite : filter.isFinite = true)
    (h : ∀ name outcome, GetsTo filter name outcome → ¬IsConstant name) :
    ColumnsFromTexts filter where
  named ts hts := by
    match filter with
    | .array items =>
      refine (names_of_terms finite hts).imp ?_
      rintro item t ⟨name, spec, found, ⟨outcome, gets⟩, ⟨s, rfl⟩ | constant, column⟩
      · exact ⟨s, spec, found, column⟩
      · exact absurd constant (h name outcome gets)
    | .object members => exact keyNames_of_ofMembers (uncounted_of_terms hts)
    | .null | .bool _ | .number _ | .string _ =>
      exact (Except.ok.inj (uncounted_of_terms hts)).symm
  refused name outcome gets text := by
    have bad := isSafeIdentifier_nameText (gets.isFinite finite) text (h name outcome gets)
    obtain ⟨spec, own⟩ := gets.exists_ofSpec
    have refused : outcome = .error (.unsafeIdentifier .fieldName (trim (nameText name))) := by
      rw [own, Term.ofSpec_eq_error_iff.mpr (.field bad)]
      rfl
    exact ⟨refused, gets.terms_eq refused⟩

/-- A constant is taken as a name, whatever else may be wrong with the element. -/
theorem ColumnsFromTexts.not_isConstant (law : ColumnsFromTexts filter)
    (gets : GetsTo filter name outcome) : ¬IsConstant name := by
  intro constant
  have text : name.string? = none := by
    cases name with
    | string s => cases constant
    | _ => rfl
  obtain ⟨spec, own⟩ := gets.exists_ofSpec
  have failed := own.symm.trans (law.refused name outcome gets text).1
  have bad := isSafeIdentifier_of_ofSpec (map_eq_error.mp failed)
  rw [isSafeIdentifier_nameText_of_isConstant constant] at bad
  cases bad

theorem GetsTo.exists_item (h : GetsTo (.array items) name outcome) :
    ∃ item ∈ items, ∃ spec, (shapeOf items).record? item = some (name, spec) := by
  cases h with
  | intro few fine named => exact ⟨_, by simp, _, named⟩

/-- Columns come from texts exactly as long as reading comes to no element that is named by a
constant. In a filter that can be read, an element that is named by a constant has the JSON text of
it for its column, and nothing else but a text names one. -/
theorem columnsFromTexts_iff (finite : filter.isFinite = true) :
    (ColumnsFromTexts filter ↔ ∀ name outcome, GetsTo filter name outcome → ¬IsConstant name) ∧
    ∀ ts, terms filter = .ok ts →
      ∀ items, filter = .array items → List.Forall₂ (fun item t => ∃ name spec,
          (shapeOf items).record? item = some (name, spec) ∧
          ((∃ s, name = .string s) ∨ IsConstant name) ∧ t.field.text = trim (nameText name))
        (items.filter (shapeOf items).asks) ts := by
  refine ⟨⟨fun law name outcome gets => law.not_isConstant gets,
    columnsFromTexts_of_getsTo finite⟩, ?_⟩
  rintro ts hts items rfl
  refine (names_of_terms finite hts).imp ?_
  rintro item t ⟨name, spec, found, -, named, column⟩
  exact ⟨name, spec, found, named, column⟩

def nameAndNumber : List Json :=
  [.object [("field", .string " a\t"), ("operator", .string "is_null")],
    .object [("operator", .string "is_null"), ("field", .number (.float (-0.5)))]]

theorem columnsFromTexts_nameAndNumber : ColumnsFromTexts (.array nameAndNumber) ∧
    terms (.array nameAndNumber) = .error (.unsafeIdentifier .fieldName "-0.5") := by
  have finite : (Json.array nameAndNumber).isFinite = true := by decide +kernel
  have named : ∀ item ∈ nameAndNumber, ∀ r ∈ (shapeOf nameAndNumber).record? item,
      ¬IsConstant r.1 := by decide +kernel
  refine ⟨(columnsFromTexts_iff finite).1.mpr fun name outcome gets => ?_, by rfl⟩
  obtain ⟨item, hitem, spec, found⟩ := gets.exists_item
  exact named item hitem (name, spec) found

def nullForAName : Json :=
  .array [.object [("field", .null), ("operator", .string "is_null")]]

theorem not_columnsFromTexts_nullForAName :
    (∃ ts, terms nullForAName = .ok ts ∧ ts.map (·.field.text) = ["null"]) ∧
      ¬ColumnsFromTexts nullForAName := by
  have read : ∃ ts, terms nullForAName = .ok ts ∧ ts.map (·.field.text) = ["null"] :=
    exists_ok_of_toOption (by decide +kernel)
  refine ⟨read, fun law => ?_⟩
  obtain ⟨ts, hts, -⟩ := read
  have failed := (law.refused .null _ (getsTo_of_terms hts List.mem_cons_self rfl) rfl).2
  rw [hts] at failed
  cases failed

end Filter

end FilterSql.Query
