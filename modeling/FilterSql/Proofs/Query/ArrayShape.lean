import FilterSql.Proofs.Outcome
import FilterSql.Query.Filter

/-!
# Shapes of arrays

The elements of an array are all read by one rule, and `shapeOf` is that rule. `Shape.record?` is
what an element asks with: a record and what names its field. `gives_of_ofArray`: an array that can
be read has a term for each element that asks for one, in the order of the elements.
-/

namespace FilterSql.Query.Filter

/-- Records that name their fields, under either word, or that stand under the names of their
fields. -/
inductive Shape where
  | field
  | keyed
  | fieldName
  deriving DecidableEq, Repr

def shapeOf (items : List Json) : Shape :=
  if items.all hasField then .field
  else if items.all hasOneKey then .keyed
  else .fieldName

namespace Shape

def read : Shape → Json → Except QueryError (Option Term)
  | field => fieldItem
  | keyed => keyedItem
  | fieldName => fieldNameItem

/-- What names the field, and the record. -/
def record? : Shape → Json → Option (Json × Json.Members)
  | field, .object spec => (Json.Members.get? spec "field").map (·, spec)
  | keyed, .object [(key, .object spec)] => some (.string key, spec)
  | fieldName, .object spec => (Json.Members.get? spec "field_name").map (·, spec)
  | _, _ => none

def asks (shape : Shape) (item : Json) : Bool := (shape.record? item).isSome

/-- The term is that of the element, which its record spells out: `Term.ofSpec_eq_ok_iff`. -/
def Gives (shape : Shape) (item : Json) (t : Term) : Prop :=
  ∃ name spec, shape.record? item = some (name, spec) ∧ Term.ofSpec (nameText name) spec = .ok t

def Fits : Shape → Json → Prop
  | field, item => hasField item = true
  | keyed, item => hasOneKey item = true
  | fieldName, _ => True

-- ---------------------------------------------------------------------------
-- Elements
-- ---------------------------------------------------------------------------

variable {shape : Shape} {item name : Json} {spec : Json.Members}

theorem read_of_record (h : shape.record? item = some (name, spec)) :
    shape.read item = some <$> Term.ofSpec (nameText name) spec := by
  cases shape with
  | keyed =>
    match item, h with
    | .object [(_, .object _)], rfl => rfl
  | field | fieldName =>
    cases item with
    | object members =>
      obtain ⟨found, named, same⟩ := Option.map_eq_some_iff.mp h
      cases same
      simp [read, fieldItem, fieldNameItem, namedTerm, named]
    | _ => simp [record?] at h

/-- An element without a record is passed over, or it cannot be read. -/
theorem read_of_asks_false (fits : shape.Fits item) (h : shape.asks item = false) :
    (shape = .keyed ∧ shape.read item = .ok none) ∨
      (shape = .fieldName ∧
        ∃ name, shape.read item = .error (.unsafeIdentifier .fieldName name)) := by
  cases shape with
  | field =>
    cases item with
    | object members => simp_all [Fits, hasField, Json.members?, Json.Members.has, asks, record?]
    | _ => cases fits
  | keyed =>
    refine .inl ⟨rfl, ?_⟩
    show keyedItem item = .ok none
    unfold keyedItem keyedTerm?
    split
    · split
      · simp [asks, record?] at h
      · rfl
    · rfl
  | fieldName =>
    refine .inr ⟨rfl, ?_⟩
    cases item with
    | object members =>
      have unnamed : Json.Members.get? members "field_name" = none := by
        simpa [asks, record?] using h
      -- The name of a record without one is empty.
      exact ⟨"", by simp [read, fieldNameItem, namedTerm, unnamed]; rfl⟩
    | _ => exact ⟨_, rfl⟩

theorem cases_of_read (fits : shape.Fits item) (h : shape.read item = .ok t?) :
    (∃ t, t? = some t ∧ shape.Gives item t) ∨
      shape = .keyed ∧ shape.asks item = false ∧ t? = none := by
  cases found : shape.record? item with
  | none =>
    have silent : shape.asks item = false := by simp [asks, found]
    rcases read_of_asks_false fits silent with ⟨rfl, passed⟩ | ⟨-, _, failed⟩
    · rw [passed] at h
      exact .inr ⟨rfl, silent, (Except.ok.inj h).symm⟩
    · rw [failed] at h
      cases h
  | some record =>
    obtain ⟨name, spec⟩ := record
    rw [read_of_record found] at h
    obtain ⟨t, ht, rfl⟩ := map_eq_ok.mp h
    exact .inl ⟨t, rfl, name, spec, found, ht⟩

theorem Gives.asks (h : shape.Gives item t) : shape.asks item = true := by
  obtain ⟨name, spec, found, -⟩ := h
  simp [Shape.asks, found]

end Shape

-- ---------------------------------------------------------------------------
-- Arrays
-- ---------------------------------------------------------------------------

variable {items : List Json}

theorem shapeOf_eq_field_iff : shapeOf items = .field ↔ items.all hasField = true := by
  unfold shapeOf
  split
  · simp_all
  · split <;> simp_all

theorem fits_shapeOf (h : item ∈ items) : (shapeOf items).Fits item := by
  unfold shapeOf
  split
  · rename_i all
    exact List.all_eq_true.mp all item h
  · split
    · rename_i all
      exact List.all_eq_true.mp all item h
    · trivial

theorem ofArray_eq (items : List Json) :
    ofArray items = List.filterMap id <$> items.mapM (shapeOf items).read := by
  unfold ofArray shapeOf
  split
  · rfl
  · split <;> rfl

theorem gives_of_ofArray (h : ofArray items = .ok ts) :
    List.Forall₂ (shapeOf items).Gives (items.filter (shapeOf items).asks) ts ∧
      (shapeOf items ≠ .keyed → items.filter (shapeOf items).asks = items) := by
  have fits : ∀ item ∈ items, (shapeOf items).Fits item := fun item => fits_shapeOf
  rw [ofArray_eq, map_eq_ok] at h
  obtain ⟨found, hfound, rfl⟩ := h
  replace hfound := mapM_eq_ok.mp hfound
  generalize shapeOf items = shape at *
  induction hfound with
  | nil => exact ⟨.nil, fun _ => rfl⟩
  | cons hread _ ih =>
    obtain ⟨fits, rest⟩ := List.forall_mem_cons.mp fits
    obtain ⟨gives, all⟩ := ih rest
    rcases Shape.cases_of_read fits hread with ⟨t, rfl, first⟩ | ⟨rfl, silent, rfl⟩
    · rw [List.filter_cons_of_pos first.asks]
      exact ⟨.cons first gives, fun named => congrArg _ (all named)⟩
    · rw [List.filter_cons_of_neg (by simp [silent])]
      exact ⟨gives, fun named => absurd rfl named⟩

end FilterSql.Query.Filter
