import FilterSql.Proofs.Query.DateForm
import FilterSql.Proofs.Query.NothingDropped

/-!
# The order of the terms of a flat filter

`terms_in_order`: the terms of the plain members come first, and then those of the ranges, field by
field in the order in which the fields are first named, each with the start before the end.
`ranges_classified` says what the ranges are in the end: one for each field, with the last value for
either end. Hence the start and the end of a range may be given in either order.
-/

namespace FilterSql.Query.Filter

def NamesField (field key : String) : Prop := ∃ which, BoundKey which field key

/-- The last member that is about this end of the range of the field has this value. -/
inductive LastValue (field : String) (which : Bound) : Json.Members → Json → Prop
  | intro (hkey : BoundKey which field key) (later : ∀ m ∈ after, ¬BoundKey which field m.1) :
      LastValue field which (before ++ (key, value) :: after) value

/-- A key for `f` stands where there has been none for `g`. -/
def NamedFirst (members : Json.Members) (f g : String) : Prop :=
  ∃ before m after, members = before ++ m :: after ∧ NamesField f m.1 ∧
    ∀ x ∈ before, ¬NamesField g x.1

/-- The fields that have a range, in the order in which there is a first key for each. -/
structure InOrderOfFirstKeys (members : Json.Members) (fields : List String) : Prop where
  nodup : fields.Nodup
  named : ∀ f, f ∈ fields ↔ ∃ m ∈ members, NamesField f m.1
  order : fields.Pairwise (NamedFirst members)

/-- The text of a value that is read as a date. -/
def givenText? : Json → Option String
  | .string s => some s
  | .number n => some n.text
  | _ => none

/-- The term for one end of the range of a field, unless the last value leaves the end open. -/
inductive EndTerm (members : Json.Members) (field : String) (which : Bound) : Option Term → Prop
  | date {id : Identifier} (hid : id.text = field) (last : LastValue field which members value)
      (text : givenText? value = some s) (nonblank : ¬Blank s.toList)
      (date : normalizeDate? s = some d) :
      EndTerm members field which
        (some { field := id, op := which.op, value := some (.text d) })
  | unset (blank : ∀ value s, LastValue field which members value →
      givenText? value = some s → Blank s.toList) : EndTerm members field which none

inductive RangeTerms (members : Json.Members) (field : String) : List Term → Prop
  | intro (lower : EndTerm members field .start t) (upper : EndTerm members field .finish u) :
      RangeTerms members field (t.toList ++ u.toList)

def plainMembers (members : Json.Members) : Json.Members := members.filter fun m => ¬IsBound m.1

/-- Both ends of the range of a field, which change places. -/
inductive Swapped : Json.Members → Json.Members → Prop
  | intro (hkey : BoundKey which field key) (hkey' : BoundKey which' field key')
      (hne : which ≠ which') (between : ∀ m ∈ middle, ¬NamesField field m.1) :
      Swapped (before ++ (key, value) :: middle ++ (key', value') :: after)
        (before ++ (key', value') :: middle ++ (key, value) :: after)

-- ---------------------------------------------------------------------------
-- The last value of an end
-- ---------------------------------------------------------------------------

def lastValue? (members : Json.Members) (field : String) (which : Bound) : Option Json :=
  (members.reverse.find? fun m => boundOf? m.1 = some (which, field)).map Prod.snd

section

variable {members xs ys : Json.Members} {field key : String} {which : Bound} {value : Json}

theorem lastValue?_eq_some_iff :
    lastValue? members field which = some value ↔ LastValue field which members value := by
  simp only [lastValue?, Option.map_eq_some_iff, List.find?_eq_some_iff_append, decide_eq_true_eq,
    Bool.not_eq_true', decide_eq_false_iff_not, boundOf?_eq_some_iff]
  constructor
  · rintro ⟨⟨key, v⟩, ⟨hkey, after, before, heq, later⟩, rfl⟩
    obtain rfl : members = before.reverse ++ (key, v) :: after.reverse := by
      rw [← List.reverse_inj, heq]
      simp
    exact .intro hkey fun m hm => later m (List.mem_reverse.mp hm)
  · rintro ⟨hkey, later⟩
    rename_i key after before
    refine ⟨(key, value), ⟨hkey, after.reverse, before.reverse, by simp, fun m hm => ?_⟩, rfl⟩
    exact later m (List.mem_reverse.mp hm)

theorem lastValue?_append (xs ys : Json.Members) (field : String) (which : Bound) :
    lastValue? (xs ++ ys) field which =
      (lastValue? ys field which).or (lastValue? xs field which) := by
  simp only [lastValue?, List.reverse_append, List.find?_append, Option.map_or]

theorem lastValue?_eq_none (h : ∀ m ∈ members, ¬BoundKey which field m.1) :
    lastValue? members field which = none := by
  refine Option.map_eq_none_iff.mpr (List.find?_eq_none.mpr fun m hm => ?_)
  rw [decide_eq_true_eq, boundOf?_eq_some_iff]
  exact h m (List.mem_reverse.mp hm)

theorem lastValue?_singleton (hkey : BoundKey which field key) (value : Json) :
    lastValue? [(key, value)] field which = some value := by
  have last : LastValue field which ([] ++ [(key, value)]) value :=
    .intro hkey fun _ h => nomatch h
  exact lastValue?_eq_some_iff.mpr last

theorem lastValue?_of_other (h : BoundKey which field key)
    (hne : ¬(which' = which ∧ field' = field)) (value : Json) :
    lastValue? [(key, value)] field' which' = none := by
  refine lastValue?_eq_none fun x hx hkey => hne ?_
  obtain rfl := List.mem_singleton.mp hx
  exact hkey.unique h

end

-- ---------------------------------------------------------------------------
-- Fields in order
-- ---------------------------------------------------------------------------

def fieldOf? (key : String) : Option String := (boundOf? key).map Prod.snd

theorem fieldOf?_eq_some_iff : fieldOf? key = some field ↔ NamesField field key := by
  simp only [fieldOf?, Option.map_eq_some_iff, Prod.exists, boundOf?_eq_some_iff, NamesField]
  constructor
  · rintro ⟨which, _, hkey, rfl⟩
    exact ⟨which, hkey⟩
  · rintro ⟨which, hkey⟩
    exact ⟨which, field, hkey, rfl⟩

theorem fieldOf?_eq_none_iff : fieldOf? key = none ↔ ¬IsBound key := by
  rw [Option.eq_none_iff_forall_ne_some, not_isBound_iff, forall_comm]
  simp only [ne_eq, fieldOf?_eq_some_iff, NamesField, not_exists]

/-- The fields that the keys name, each where it is named first. -/
def fieldNames (members : Json.Members) : List String :=
  (members.filterMap fun m => fieldOf? m.1).eraseDups

section

variable {members : Json.Members} {fields : List String}

theorem mem_fieldNames : field ∈ fieldNames members ↔ ∃ m ∈ members, NamesField field m.1 := by
  simp only [fieldNames, List.mem_eraseDups, List.mem_filterMap, fieldOf?_eq_some_iff]

theorem fieldNames_concat_plain (h : ¬IsBound m.1) :
    fieldNames (members ++ [m]) = fieldNames members := by
  simp [fieldNames, fieldOf?_eq_none_iff.mpr h]

theorem fieldNames_concat (h : NamesField field m.1) : fieldNames (members ++ [m]) =
    if field ∈ fieldNames members then fieldNames members
    else fieldNames members ++ [field] := by
  have names : (members ++ [m]).filterMap (fun m => fieldOf? m.1) =
      members.filterMap (fun m => fieldOf? m.1) ++ [field] := by
    simp [fieldOf?_eq_some_iff.mpr h]
  simp only [fieldNames, names, List.eraseDups_append, List.mem_eraseDups]
  split
  · rename_i known
    simp [List.removeAll, known]
  · rename_i new
    simp [List.removeAll, new, List.eraseDups_cons]

theorem NamedFirst.concat (h : NamedFirst members f g) (m : String × Json) :
    NamedFirst (members ++ [m]) f g := by
  obtain ⟨before, x, after, rfl, hf, first⟩ := h
  exact ⟨before, x, after ++ [m], by simp, hf, first⟩

theorem InOrderOfFirstKeys.concat (h : InOrderOfFirstKeys members fields) (m : String × Json)
    (named : ∀ f, NamesField f m.1 → f ∈ fields) : InOrderOfFirstKeys (members ++ [m]) fields where
  nodup := h.nodup
  named f := by
    simp only [List.mem_append, List.mem_singleton, or_and_right, exists_or, exists_eq_left]
    rw [← h.named]
    exact ⟨.inl, fun hf => hf.elim id (named f)⟩
  order := h.order.imp fun first => first.concat m

theorem InOrderOfFirstKeys.concat_new (h : InOrderOfFirstKeys members fields)
    (hm : NamesField field m.1) (new : field ∉ fields) :
    InOrderOfFirstKeys (members ++ [m]) (fields ++ [field]) where
  nodup := by
    refine List.nodup_append.mpr ⟨h.nodup, List.nodup_singleton _, fun f hf g hg => ?_⟩
    rintro rfl
    exact new (List.mem_singleton.mp hg ▸ hf)
  named f := by
    simp only [List.mem_append, List.mem_singleton, or_and_right, exists_or, exists_eq_left]
    rw [← h.named]
    refine or_congr_right ⟨?_, fun hf => ?_⟩
    · rintro rfl
      exact hm
    · obtain ⟨which, hm⟩ := hm
      obtain ⟨which', hf⟩ := hf
      exact (hf.unique hm).2
  order := by
    refine List.pairwise_append.mpr ⟨h.order.imp fun first => first.concat m,
      List.pairwise_singleton _ _, fun f hf g hg => ?_⟩
    obtain rfl := List.mem_singleton.mp hg
    -- No member so far is about the new field.
    obtain ⟨x, hx, hf⟩ := (h.named f).mp hf
    obtain ⟨before, after, rfl⟩ := List.append_of_mem hx
    refine ⟨before, x, after ++ [m], by simp, hf, fun y hy hg => new ?_⟩
    exact (h.named g).mpr ⟨y, List.mem_append_left _ hy, hg⟩

theorem inOrderOfFirstKeys_fieldNames (members : Json.Members) :
    InOrderOfFirstKeys members (fieldNames members) := by
  induction members using List.reverseRecOn with
  | nil => exact ⟨.nil, by simp [fieldNames], .nil⟩
  | append_singleton members m ih =>
    by_cases hm : IsBound m.1
    · obtain ⟨which, field, hm⟩ := hm
      rw [fieldNames_concat ⟨which, hm⟩]
      split
      · rename_i known
        refine ih.concat m fun f hf => ?_
        obtain ⟨which', hf⟩ := hf
        exact (hm.unique hf).2 ▸ known
      · rename_i new
        exact ih.concat_new ⟨which, hm⟩ new
    · rw [fieldNames_concat_plain hm]
      refine ih.concat m fun f hf => ?_
      obtain ⟨which, hf⟩ := hf
      exact absurd ⟨which, f, hf⟩ hm

end

-- ---------------------------------------------------------------------------
-- Ranges
-- ---------------------------------------------------------------------------

/-- What the last values for both ends of the range of a field come to. -/
def rangeOf (members : Json.Members) (field : String) : Range where
  field
  start := (lastValue? members field .start).bind dateText?
  finish := (lastValue? members field .finish).bind dateText?

theorem setBound_map {range : String → Range} (own : ∀ f, (range f).field = f)
    (distinct : fields.Nodup) (new : field ∉ fields → range field = { field }) :
    setBound field which date (fields.map range) =
      (if field ∈ fields then fields else fields ++ [field]).map fun f =>
        if f = field then (range f).set which date else range f := by
  induction fields with
  | nil => simp [setBound, new]
  | cons f fields ih =>
    obtain ⟨hf, hrest⟩ := List.nodup_cons.mp distinct
    rw [List.map_cons, setBound, own]
    by_cases heq : f = field
    · subst heq
      have others : fields.map range =
          fields.map fun g => if g = f then (range g).set which date else range g :=
        List.map_congr_left fun g hg => (if_neg (ne_of_mem_of_not_mem hg hf)).symm
      simp [others]
    · have known : field ∈ f :: fields ↔ field ∈ fields := by simp [Ne.symm heq]
      have rest := ih hrest fun h => new (mt known.mp h)
      rw [if_neg heq, rest]
      simp only [known]
      split <;> simp [heq]

theorem rangeOf_concat_plain (h : ¬IsBound m.1) :
    rangeOf (members ++ [m]) = rangeOf members := by
  have unset (field : String) (which : Bound) : lastValue? [m] field which = none := by
    refine lastValue?_eq_none fun x hx hkey => h ?_
    exact List.mem_singleton.mp hx ▸ ⟨which, field, hkey⟩
  funext field
  simp only [rangeOf, lastValue?_append, unset, Option.none_or]

theorem rangeOf_concat (h : BoundKey which field key) (value : Json) (f : String) :
    rangeOf (members ++ [(key, value)]) f =
      if f = field then (rangeOf members f).set which (dateText? value)
      else rangeOf members f := by
  split
  · rename_i heq
    subst heq
    have other (w : Bound) (hne : w ≠ which) : lastValue? [(key, value)] f w = none :=
      lastValue?_of_other h (fun same => hne same.1) value
    cases which with
    | start =>
      simp [rangeOf, Range.set, lastValue?_append, lastValue?_singleton h, other .finish]
    | finish =>
      simp [rangeOf, Range.set, lastValue?_append, lastValue?_singleton h, other .start]
  · rename_i hne
    have other (w : Bound) : lastValue? [(key, value)] f w = none :=
      lastValue?_of_other h (fun same => hne same.2) value
    simp only [rangeOf, lastValue?_append, other, Option.none_or]

/-- The ranges that the members give, one for each field. -/
theorem ranges_classified (members : Json.Members) :
    ranges (classified members) = (fieldNames members).map (rangeOf members) := by
  induction members using List.reverseRecOn with
  | nil => rfl
  | append_singleton members m ih =>
    obtain ⟨key, value⟩ := m
    rw [ranges_eq_foldl] at ih ⊢
    rw [classified, List.map_append, ← classified, List.foldl_append, ih]
    rcases classify_cases key value with ⟨which, field, hkey, hc⟩ | ⟨hplain, hc⟩
    · simp only [List.map_cons, List.map_nil, hc, List.foldl_cons, List.foldl_nil, setMember]
      have new : field ∉ fieldNames members → rangeOf members field = { field } := by
        intro unnamed
        have unset (which : Bound) : lastValue? members field which = none :=
          lastValue?_eq_none fun m hm hkey => unnamed (mem_fieldNames.mpr ⟨m, hm, which, hkey⟩)
        simp [rangeOf, unset]
      rw [setBound_map (fun _ => rfl) (inOrderOfFirstKeys_fieldNames members).nodup new,
        fieldNames_concat ⟨which, hkey⟩]
      exact List.map_congr_left fun f _ => (rangeOf_concat hkey value f).symm
    · have hkey : ¬IsBound key := not_isBound_iff.mpr hplain
      simp only [List.map_cons, List.map_nil, hc, List.foldl_cons, List.foldl_nil, setMember]
      rw [fieldNames_concat_plain hkey, rangeOf_concat_plain hkey]

-- ---------------------------------------------------------------------------
-- Terms
-- ---------------------------------------------------------------------------

theorem mapM_plainTerm? (members : Json.Members) :
    List.filterMap id <$> (classified members).mapM Member.plainTerm? =
      (plainMembers members).mapM fun m => plainTerm m.1 m.2 := by
  induction members with
  | nil => rfl
  | cons m rest ih =>
    obtain ⟨key, value⟩ := m
    have cons : classified ((key, value) :: rest) = classify key value :: classified rest := rfl
    rw [cons, List.mapM_cons]
    rcases classify_cases key value with ⟨which, field, hkey, hc⟩ | ⟨hplain, hc⟩
    · have hkey : IsBound key := ⟨which, field, hkey⟩
      have passed : plainMembers ((key, value) :: rest) = plainMembers rest := by
        simp [plainMembers, hkey]
      rw [hc, passed, ← ih, Member.plainTerm?, ok_bind]
      cases (classified rest).mapM Member.plainTerm? <;> rfl
    · have hkey : ¬IsBound key := not_isBound_iff.mpr hplain
      have kept : plainMembers ((key, value) :: rest) = (key, value) :: plainMembers rest := by
        simp [plainMembers, hkey]
      rw [hc, kept, List.mapM_cons, ← ih, Member.plainTerm?]
      simp

theorem ofMembers_eq (members : Json.Members) : ofMembers members = do
    let plain ← (plainMembers members).mapM fun m => plainTerm m.1 m.2
    let ends ← ((fieldNames members).map (rangeOf members)).mapM Range.terms
    return plain ++ ends.flatten := by
  rw [← mapM_plainTerm?, bind_map_left, ← ranges_classified]
  rfl

theorem dateText?_eq (value : Json) : dateText? value = (givenText? value).bind normalizeDate? := by
  cases value <;> simp [dateText?, givenText?]

theorem endTerm_of_rangeOf {id : Identifier} (hid : id.text = field) (which : Bound) :
    EndTerm members field which
      (((lastValue? members field which).bind dateText?).map fun date =>
        { field := id, op := which.op, value := some (.text date) }) := by
  cases h : (lastValue? members field which).bind dateText? with
  | none =>
    refine .unset fun value s last text => normalizeDate?_eq_none_iff.mp ?_
    rw [lastValue?_eq_some_iff.mpr last, Option.bind_some, dateText?_eq, text,
      Option.bind_some] at h
    exact h
  | some date =>
    obtain ⟨value, last, hdate⟩ := Option.bind_eq_some_iff.mp h
    rw [dateText?_eq] at hdate
    obtain ⟨s, text, hdate⟩ := Option.bind_eq_some_iff.mp hdate
    refine .date hid (lastValue?_eq_some_iff.mp last) text (fun blank => ?_) hdate
    rw [normalizeDate?_eq_none_iff.mpr blank] at hdate
    cases hdate

theorem rangeTerms_of_rangeOf (h : (rangeOf members field).terms = .ok ts)
    (hfield : Text.trim field = field) : RangeTerms members field ts := by
  simp only [Range.terms, bind_eq_ok, pure_eq_ok] at h
  obtain ⟨id, hid, rfl⟩ := h
  have hid : id.text = field := (Identifier.check_eq_ok.mp hid).trans hfield
  exact .intro (endTerm_of_rangeOf hid .start) (endTerm_of_rangeOf hid .finish)

theorem ofMembers_in_order (h : ofMembers members = .ok ts) :
    ∃ plain fields ends, ts = plain ++ ends.flatten ∧
      List.Forall₂ (fun m t => Describes m.1 m.2 t) (plainMembers members) plain ∧
      InOrderOfFirstKeys members fields ∧ List.Forall₂ (RangeTerms members) fields ends := by
  rw [ofMembers_eq] at h
  simp only [bind_eq_ok, pure_eq_ok, mapM_eq_ok] at h
  obtain ⟨plain, hplain, ends, hends, rfl⟩ := h
  refine ⟨plain, fieldNames members, ends, rfl, ?_, inOrderOfFirstKeys_fieldNames members, ?_⟩
  · have unbound : ∀ m ∈ plainMembers members, ¬IsBound m.1 := fun m hm => by
      simpa using (List.mem_filter.mp hm).2
    exact ((List.forall₂_and_left _ _).mpr ⟨unbound, hplain⟩).imp
      fun m t h => describes_of_plainTerm h.1 h.2
  · have trimmed : ∀ f ∈ fieldNames members, Text.trim f = f := by
      intro f hf
      obtain ⟨m, -, which, hkey⟩ := mem_fieldNames.mp hf
      exact hkey.trim_field
    exact ((List.forall₂_and_left _ _).mpr ⟨trimmed, List.forall₂_map_left_iff.mp hends⟩).imp
      fun f ts h => rangeTerms_of_rangeOf h.2 h.1

-- ---------------------------------------------------------------------------
-- Either order
-- ---------------------------------------------------------------------------

theorem Swapped.same (h : Swapped members members') :
    plainMembers members' = plainMembers members ∧ fieldNames members' = fieldNames members ∧
      rangeOf members' = rangeOf members := by
  cases h with
  | @intro which field key which' key' middle before value value' after hkey hkey' hne between =>
  refine ⟨?_, ?_, ?_⟩
  · have bound : IsBound key := ⟨_, _, hkey⟩
    have bound' : IsBound key' := ⟨_, _, hkey'⟩
    simp [plainMembers, bound, bound']
  · have named : fieldOf? key = some field := fieldOf?_eq_some_iff.mpr ⟨_, hkey⟩
    have named' : fieldOf? key' = some field := fieldOf?_eq_some_iff.mpr ⟨_, hkey'⟩
    simp [fieldNames, named, named']
  · have last (f : String) (w : Bound) :
        lastValue? (before ++ (key', value') :: middle ++ (key, value) :: after) f w =
          lastValue? (before ++ (key, value) :: middle ++ (key', value') :: after) f w := by
      have parts (a b : String × Json) : before ++ a :: middle ++ b :: after =
          before ++ [a] ++ middle ++ [b] ++ after := by simp
      simp only [parts, lastValue?_append]
      by_cases hf : f = field
      · -- One of the two is not about this end, and nothing between them is about the field.
        subst hf
        have unset : lastValue? middle f w = none :=
          lastValue?_eq_none fun m hm hkey => between m hm ⟨w, hkey⟩
        by_cases hw : w = which
        · simp [unset, lastValue?_of_other hkey' (fun h => hne (hw.symm.trans h.1)) value']
        · simp [unset, lastValue?_of_other hkey (fun h => hw h.1) value]
      · simp [lastValue?_of_other hkey (fun h => hf h.2) value,
          lastValue?_of_other hkey' (fun h => hf h.2) value']
    funext f
    simp only [rangeOf, last]

theorem Swapped.terms_eq (h : Swapped members members') :
    terms (.object members') = terms (.object members) := by
  obtain ⟨plain, fields, range⟩ := h.same
  have count : members'.length = members.length := by
    cases h with
    | intro => simp
  simp only [terms, ofMembers_eq, plain, fields, range, count]

/-- First come the terms of the plain members, in the order of the keys, and then those of the
ranges, in the order of their first keys. An end of a range has a term if the last value for it is a
text or a number and not blank. Which end is given first makes no difference. -/
theorem terms_in_order (h : terms (.object members) = .ok ts) :
    (∃ plain fields ends, ts = plain ++ ends.flatten ∧
      List.Forall₂ (fun m t => Describes m.1 m.2 t) (plainMembers members) plain ∧
      InOrderOfFirstKeys members fields ∧ List.Forall₂ (RangeTerms members) fields ends) ∧
    ∀ members', Swapped members members' → terms (.object members') = .ok ts :=
  ⟨ofMembers_in_order (ofMembers_of_terms h), fun _ swapped => swapped.terms_eq.trans h⟩

/-- Ranges that are named by turns, in several letter cases, with a plain member in between. -/
def byTurns (one other : String × Json) : Json.Members :=
  [one, ("no", .array [.string "1", .string "2"]), ("a_startdate", .string "1-4-2024"),
    ("A_startdate", .ofInt 2024), other, ("a_StartDate", .string " ")]

def startOfB : String × Json := (" b_startdate", .string "1-1-2024")

def endOfB : String × Json := ("b_ENDDATE", .string "6/30/2024")

theorem terms_in_order_byTurns : ∃ ts,
    terms (.object (byTurns endOfB startOfB)) = .ok ts ∧
    (ts.map fun t => (t.field.text, t.op, t.value)) =
      [("no", .isIn, none), ("b", .greaterThanOrEqual, some (.text "2024-01-01")),
        ("b", .lessThanOrEqual, some (.text "2024-06-30")),
        ("A", .greaterThanOrEqual, some (.text "2024"))] ∧
    (∃ fields ends, InOrderOfFirstKeys (byTurns endOfB startOfB) fields ∧
      List.Forall₂ (RangeTerms (byTurns endOfB startOfB)) fields ends) ∧
    terms (.object (byTurns startOfB endOfB)) = .ok ts := by
  have given : ∃ ts, terms (.object (byTurns endOfB startOfB)) = .ok ts ∧
      (ts.map fun t => (t.field.text, t.op, t.value)) =
        [("no", .isIn, none), ("b", .greaterThanOrEqual, some (.text "2024-01-01")),
          ("b", .lessThanOrEqual, some (.text "2024-06-30")),
          ("A", .greaterThanOrEqual, some (.text "2024"))] :=
    exists_ok_of_toOption (by decide +kernel)
  obtain ⟨ts, hts, listed⟩ := given
  obtain ⟨⟨-, fields, ends, -, -, order, hends⟩, swap⟩ := terms_in_order hts
  have start : BoundKey .start "b" startOfB.1 := boundOf?_eq_some_iff.mp (by decide +kernel)
  have finish : BoundKey .finish "b" endOfB.1 := boundOf?_eq_some_iff.mp (by decide +kernel)
  have swapped : Swapped (byTurns endOfB startOfB) (byTurns startOfB endOfB) := by
    show Swapped ([] ++ endOfB :: [_, _, _] ++ startOfB :: [_]) _
    refine .intro finish start (by decide) fun m hm => ?_
    rw [← fieldOf?_eq_some_iff]
    revert m
    decide +kernel
  exact ⟨ts, hts, listed, ⟨fields, ends, order, hends⟩, swap _ swapped⟩

end FilterSql.Query.Filter
