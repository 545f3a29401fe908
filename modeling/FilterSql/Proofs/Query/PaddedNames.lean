import FilterSql.Proofs.Agreement
import FilterSql.Proofs.Query.FilterShapes
import FilterSql.Proofs.Query.FlatOrder
import FilterSql.Proofs.Query.TermCount

/-!
# White space around names of fields

A filter means the same with white space around the names of its fields, in whatever shape the
names are given. `terms_padded_iff`: the one exception is white space behind the suffix of a key for
an end of a range. The key is then one of a field with the suffix in its name.
-/

namespace FilterSql.Query

open Text

def Padded (s padded : String) : Prop :=
  ∃ before after, padded = String.ofList before ++ s ++ String.ofList after ∧
    Blank before ∧ Blank after

namespace Filter

/-- White space around what names the field of an element. -/
inductive PaddedItem (shape : Shape) : Json → Json → Prop
  | same : PaddedItem shape item item
  | name (hkey : IsName key) (h : Padded s s') :
      PaddedItem shape (.object (before ++ (key, .string s) :: after))
        (.object (before ++ (key, .string s') :: after))
  | key (keyed : shape = .keyed) (other : trim key ≠ "field") (h : Padded key key') :
      PaddedItem shape (.object [(key, value)]) (.object [(key', value)])

/-- White space around a key, or around the field in a key for an end of its range. -/
inductive PaddedKey : String → String → Prop
  | around (h : Padded key key') : PaddedKey key key'
  | field {which : Bound} (hends : sameIgnoringAsciiCase tail which.suffix = true)
      (h : Padded head head') : PaddedKey (head ++ tail) (head' ++ tail)

inductive PaddedMember : String × Json → String × Json → Prop
  | intro (h : PaddedKey key key') : PaddedMember (key, value) (key', value)

/-- The second filter is the first one with white space around names of fields. -/
inductive PaddedFilter : Json → Json → Prop
  | array (h : List.Forall₂ (PaddedItem (shapeOf items)) items items') :
      PaddedFilter (.array items) (.array items')
  | object (h : List.Forall₂ PaddedMember members members') :
      PaddedFilter (.object members) (.object members')

/-- Where a key is that of an end of a range it has stayed one. -/
def KeepsBounds (filter padded : Json) : Prop :=
  match filter, padded with
  | .object members, .object members' =>
    List.Forall₂ (fun m m' => IsBound m.1 → IsBound m'.1) members members'
  | _, _ => True

end Filter

instance (cs : List Char) : Decidable (Blank cs) := List.decidableBAll _ cs

-- ---------------------------------------------------------------------------
-- White space
-- ---------------------------------------------------------------------------

theorem toLower_of_isWhiteSpace (h : isWhiteSpace c = true) : c.toLower = c := by
  have table : ∀ r ∈ whiteSpaceRanges, r.last < 'A'.toNat ∨ 'Z'.toNat < r.first := by decide
  obtain ⟨r, hr, hmem⟩ := List.any_eq_true.mp h
  simp only [CodeRange.mem, Bool.and_eq_true, decide_eq_true_eq] at hmem
  have apart := table r hr
  refine dif_neg fun capital => ?_
  have low : 'A'.toNat ≤ c.toNat := capital.1
  have high : c.toNat ≤ 'Z'.toNat := capital.2
  omega

theorem exists_blank_trimChars (cs : List Char) :
    ∃ before after, cs = before ++ trimChars cs ++ after ∧ Blank before ∧ Blank after := by
  let rest := cs.dropWhile isWhiteSpace
  have parts : trimChars cs ++ (rest.reverse.takeWhile isWhiteSpace).reverse = rest := by
    rw [trimChars, ← List.reverse_append, List.takeWhile_append_dropWhile, List.reverse_reverse]
  refine ⟨cs.takeWhile isWhiteSpace, (rest.reverse.takeWhile isWhiteSpace).reverse, ?_,
    fun c hc => List.mem_takeWhile_imp hc,
    fun c hc => List.mem_takeWhile_imp (List.mem_reverse.mp hc)⟩
  rw [List.append_assoc, parts, List.takeWhile_append_dropWhile]

theorem trim_padded (h : Padded s padded) : trim padded = trim s := by
  obtain ⟨before, after, rfl, hbefore, hafter⟩ := h
  obtain ⟨before', after', parts, hbefore', hafter'⟩ := exists_blank_trimChars s.toList
  have outer : before ++ s.toList ++ after =
      (before ++ before') ++ trimChars s.toList ++ (after' ++ after) := by
    conv_lhs => rw [parts]
    simp
  rw [trim, String.toList_append, String.toList_append, String.toList_ofList, String.toList_ofList,
    outer, trimChars_append (List.forall_mem_append.mpr ⟨hbefore, hbefore'⟩)
      (List.forall_mem_append.mpr ⟨hafter', hafter⟩) (isWhiteSpace_head?_trimChars _)
      (isWhiteSpace_getLast?_trimChars _), ← trim]

theorem fieldIdentifier_padded (h : Padded s padded) :
    fieldIdentifier padded = fieldIdentifier s := by
  rw [fieldIdentifier, trim_padded h, ← fieldIdentifier]

namespace Filter

-- ---------------------------------------------------------------------------
-- Keys
-- ---------------------------------------------------------------------------

variable {which which' : Bound} {key key' field : String}

theorem visible_of_suffix (hends : sameIgnoringAsciiCase tail which.suffix = true) :
    ∀ c ∈ tail.toList, isWhiteSpace c = false := by
  have suffix : which.suffix.toList.all (!isWhiteSpace ·) = true := by
    cases which <;> decide
  simp only [List.all_eq_true, Bool.not_eq_true'] at suffix
  intro c hc
  have lower : c.toLower ∈ which.suffix.toList := by
    rw [← which.suffix_lower, ← beq_iff_eq.mp hends]
    exact List.mem_map_of_mem hc
  by_contra white
  have white := Bool.eq_true_of_not_eq_false white
  rw [toLower_of_isWhiteSpace white] at lower
  rw [suffix c lower] at white
  cases white

theorem eq_nil_of_blank (blank : Blank cs) (visible : ∀ c ∈ cs, isWhiteSpace c = false) :
    cs = [] := by
  refine List.eq_nil_iff_forall_not_mem.mpr fun c hc => ?_
  have white := blank c hc
  rw [visible c hc] at white
  cases white

/-- White space around a key makes no suffix, and behind a suffix it takes it away. -/
theorem endsIn_of_padded (h : key' = String.ofList before ++ key ++ String.ofList after)
    (hbefore : Blank before) (hafter : Blank after) (hends : EndsIn which.suffix key' head) :
    after = [] ∧ ∃ head', EndsIn which.suffix key head' ∧ Padded head' head := by
  obtain ⟨tail, parts, hends⟩ := hends
  have visible := visible_of_suffix hends
  have nonempty : tail.toList ≠ [] := by
    intro empty
    have lengths := congrArg List.length (beq_iff_eq.mp hends)
    rw [empty] at lengths
    cases which <;> cases lengths
  have parts : before ++ (key.toList ++ after) = head.toList ++ tail.toList := by
    have lists := congrArg String.toList (h.symm.trans parts)
    simpa using lists
  have closed : after = [] := by
    have behind : after <:+ head.toList ++ tail.toList := ⟨before ++ key.toList, by simp [← parts]⟩
    rcases List.suffix_or_suffix_of_suffix behind (List.suffix_append _ _) with within | within
    · exact eq_nil_of_blank hafter fun c hc => visible c (within.subset hc)
    · have blank : Blank tail.toList := fun c hc => hafter c (within.subset hc)
      exact absurd (eq_nil_of_blank blank visible) nonempty
  subst closed
  refine ⟨rfl, ?_⟩
  have split : ∃ cs, head.toList = before ++ cs ∧ key.toList = cs ++ tail.toList := by
    rw [List.append_nil] at parts
    rcases List.append_eq_append_iff.mp parts with ⟨cs, hhead, hkey⟩ | ⟨cs, hbefore', htail⟩
    · exact ⟨cs, hhead, hkey⟩
    · -- The suffix does not begin in the white space.
      have blank : Blank cs := fun c hc => hbefore c (by simp [hbefore', hc])
      obtain rfl := eq_nil_of_blank blank fun c hc => visible c (by simp [htail, hc])
      exact ⟨[], by simpa using hbefore'.symm, by simpa using htail.symm⟩
  obtain ⟨cs, hhead, hkey⟩ := split
  refine ⟨String.ofList cs, ⟨tail, ?_, hends⟩, before, [], ?_, hbefore, hafter⟩
  · rw [← String.toList_inj, hkey]
    simp
  · rw [← String.toList_inj, hhead]
    simp

theorem boundKey_of_paddedKey (h : PaddedKey key key') (hkey : BoundKey which field key') :
    BoundKey which field key := by
  cases h with
  | around h =>
    obtain ⟨before, after, hpadded, hbefore, hafter⟩ := h
    obtain ⟨head, hends, rfl⟩ := hkey
    obtain ⟨-, head', hends', padded⟩ := endsIn_of_padded hpadded hbefore hafter hends
    exact ⟨head', hends', (trim_padded padded).symm⟩
  | @field tail head head' which' hends h =>
    have own : BoundKey which' (trim head') (head' ++ tail) := ⟨head', ⟨tail, rfl, hends⟩, rfl⟩
    obtain ⟨rfl, rfl⟩ := hkey.unique own
    exact ⟨head, ⟨tail, rfl, hends⟩, (trim_padded h).symm⟩

theorem isBound_of_paddedKey (h : PaddedKey key key') (hkey : IsBound key') : IsBound key := by
  obtain ⟨which, field, hkey⟩ := hkey
  exact ⟨which, field, boundKey_of_paddedKey h hkey⟩

theorem boundKey_paddedKey_iff (h : PaddedKey key key') (kept : IsBound key') :
    BoundKey which field key' ↔ BoundKey which field key := by
  refine ⟨boundKey_of_paddedKey h, fun hkey => ?_⟩
  obtain ⟨which', field', hkey'⟩ := kept
  obtain ⟨rfl, rfl⟩ := hkey.unique (boundKey_of_paddedKey h hkey')
  exact hkey'

/-- White space behind a suffix takes it away, and elsewhere it does not. -/
theorem isBound_padded_iff (hkey : IsBound key) (hbefore : Blank before) (hafter : Blank after) :
    IsBound (String.ofList before ++ key ++ String.ofList after) ↔ after = [] := by
  constructor
  · rintro ⟨which, field, head, hends, -⟩
    exact (endsIn_of_padded rfl hbefore hafter hends).1
  · rintro rfl
    obtain ⟨which, field, head, ⟨tail, rfl, hends⟩, -⟩ := hkey
    refine ⟨which, _, String.ofList before ++ head, ⟨tail, ?_, hends⟩, rfl⟩
    rw [← String.toList_inj]
    simp

theorem plainTerm_padded (h : PaddedKey key key') (hkey : ¬IsBound key) (value : Json) :
    plainTerm key' value = plainTerm key value := by
  cases h with
  | around h =>
    have record (spec : Json.Members) : Term.ofSpec key' spec = Term.ofSpec key spec := by
      simp only [Term.ofSpec, fieldIdentifier_padded h]
    cases value <;> simp only [plainTerm, record, fieldIdentifier_padded h]
  | field hends h => exact absurd ⟨_, _, _, ⟨_, rfl, hends⟩, rfl⟩ hkey

-- ---------------------------------------------------------------------------
-- Arrays
-- ---------------------------------------------------------------------------

section

variable {shape : Shape} {item item' : Json} {items items' : List Json}

theorem namedTerm_padded {before after : Json.Members} (hkey : IsName key)
    (h : Padded s s') (name : String) : namedTerm name (before ++ (key, .string s') :: after) =
      namedTerm name (before ++ (key, .string s) :: after) := by
  have found (k : String) (v : Json) : Json.Members.get? (before ++ (key, v) :: after) k =
      (before.get? k).or (if k = key then some v else after.get? k) := by
    rw [Json.Members.get?, List.lookup_append, Keyed.lookup_cons_eq_ite]
    rfl
  refine ofSpec_congr ?_ fun k hk => ?_
  · simp only [found]
    cases before.get? name with
    | some value => rfl
    | none =>
      by_cases own : name = key
      · simpa [own, nameText] using fieldIdentifier_padded h
      · simp [own]
  · have other : k ≠ key := fun same => hk (same ▸ hkey)
    simp only [found, if_neg other]

theorem read_padded (h : PaddedItem shape item item') : shape.read item' = shape.read item := by
  cases h with
  | same => rfl
  | @name key s s' before after hkey h =>
    cases shape with
    | field => exact congrArg (some <$> ·) (namedTerm_padded hkey h "field")
    | fieldName => exact congrArg (some <$> ·) (namedTerm_padded hkey h "field_name")
    | keyed =>
      -- A string under the name of a field is no record.
      match before, after with
      | [], [] | [], _ :: _ | [_], _ | _ :: _ :: _, _ => rfl
  | @key key key' value keyed other h =>
    subst keyed
    have record (spec : Json.Members) : Term.ofSpec key' spec = Term.ofSpec key spec :=
      ofSpec_congr (fieldIdentifier_padded h) fun _ _ => rfl
    cases value with
    | object spec => exact congrArg (some <$> ·) (record spec)
    | _ => rfl

theorem hasField_padded (h : PaddedItem shape item item') : hasField item' = hasField item := by
  cases h with
  | same => rfl
  | @name key s s' before after hkey h =>
    have found (v : Json) : hasField (.object (before ++ (key, v) :: after)) =
        ((Json.Members.get? before "field").isSome ||
          (decide ("field" = key) || (Json.Members.get? after "field").isSome)) := by
      simp only [hasField, Json.members?, Json.Members.has, Json.Members.get?, Option.any_some,
        List.lookup_append, Keyed.lookup_cons_eq_ite, Option.isSome_or]
      split <;> simp_all
    rw [found, found]
  | @key key key' value keyed other h =>
    have first : key ≠ "field" := by
      rintro rfl
      exact other (by decide)
    have second : key' ≠ "field" := by
      rintro rfl
      rw [← trim_padded h] at other
      exact other (by decide)
    simp [hasField, Json.members?, Json.Members.has, Json.Members.get?, Keyed.lookup_cons_eq_ite,
      first.symm, second.symm]

theorem hasOneKey_padded (h : PaddedItem shape item item') : hasOneKey item' = hasOneKey item := by
  cases h with
  | same => rfl
  | name => simp [hasOneKey, Json.members?]
  | key => rfl

theorem shapeOf_padded (h : List.Forall₂ (PaddedItem shape) items items') :
    shapeOf items' = shapeOf items := by
  have all {p : Json → Bool}
      (same : ∀ {item item'}, PaddedItem shape item item' → p item' = p item) :
      items'.all p = items.all p := by
    induction h with
    | nil => rfl
    | cons hitem _ ih => rw [List.all_cons, List.all_cons, same hitem, ih]
  rw [shapeOf, shapeOf, all hasField_padded, all hasOneKey_padded]

theorem ofArray_padded (h : List.Forall₂ (PaddedItem (shapeOf items)) items items') :
    ofArray items' = ofArray items := by
  rw [ofArray_eq, ofArray_eq, shapeOf_padded h]
  exact congrArg _ (mapM_eq_mapM (h.flip.imp fun _ _ => read_padded))

end

-- ---------------------------------------------------------------------------
-- Objects
-- ---------------------------------------------------------------------------

section

variable {members members' : Json.Members}

theorem classify_of_not_isBound (hkey : ¬IsBound key) (value : Json) :
    classify key value = .plain key value := by
  rcases classify_cases key value with ⟨which, field, bound, -⟩ | ⟨-, hc⟩
  · exact absurd ⟨which, field, bound⟩ hkey
  · exact hc

theorem classify_padded (h : PaddedKey key key') (kept : IsBound key → IsBound key')
    (value : Json) :
    (classify key' value).plainTerm? = (classify key value).plainTerm? ∧
      ∀ rs, setMember rs (classify key' value) = setMember rs (classify key value) := by
  by_cases hkey : IsBound key
  · obtain ⟨which, field, hbound⟩ := hkey
    have hbound' := (boundKey_paddedKey_iff h (kept ⟨which, field, hbound⟩)).mpr hbound
    rw [classify_of_boundKey hbound, classify_of_boundKey hbound']
    exact ⟨rfl, fun _ => rfl⟩
  · rw [classify_of_not_isBound hkey,
      classify_of_not_isBound fun hkey' => hkey (isBound_of_paddedKey h hkey')]
    exact ⟨congrArg (some <$> ·) (plainTerm_padded h hkey value), fun _ => rfl⟩

theorem ofMembers_padded (h : List.Forall₂ PaddedMember members members')
    (kept : List.Forall₂ (fun m m' => IsBound m.1 → IsBound m'.1) members members') :
    ofMembers members' = ofMembers members := by
  have read : (classified members').mapM Member.plainTerm? =
        (classified members).mapM Member.plainTerm? ∧
      ∀ rs, (classified members').foldl setMember rs = (classified members).foldl setMember rs := by
    induction h with
    | nil => exact ⟨rfl, fun _ => rfl⟩
    | cons hm _ ih =>
      obtain ⟨hkept, kept⟩ := List.forall₂_cons.mp kept
      obtain ⟨plain, ends⟩ := ih kept
      cases hm with
      | @intro key key' value hkey =>
        obtain ⟨own, set⟩ := classify_padded hkey hkept value
        refine ⟨?_, fun rs => ?_⟩
        · simp only [classified, List.map_cons, List.mapM_cons, own] at plain ⊢
          rw [plain]
        · simp only [classified, List.map_cons, List.foldl_cons, set] at ends ⊢
          rw [ends]
  have terms (members : Json.Members) : ofMembers members = do
      let plain ← (classified members).mapM Member.plainTerm?
      let ends ← ((classified members).foldl setMember []).mapM Range.terms
      return plain.filterMap id ++ ends.flatten := rfl
  rw [terms, terms, read.1, read.2]

end

-- ---------------------------------------------------------------------------
-- Keys that are no longer those of ends
-- ---------------------------------------------------------------------------

/-- The terms, those for equality counted twice. -/
def weight (ts : List Term) : Nat := ts.length + ts.countP fun t => t.op = .equals

theorem weight_cons (t : Term) (ts : List Term) :
    weight (t :: ts) = weight [t] + weight ts := by
  simp only [weight, List.countP_cons, List.countP_nil, List.length_cons, List.length_nil]
  omega

section

variable {members members' : Json.Members} {plain plain' : List (Option Term)}

theorem weight_of_ofMembers (h : ofMembers members = .ok ts) :
    ∃ plain, List.Forall₂ (fun m t => Member.plainTerm? m = .ok t) (classified members) plain ∧
      weight ts = weight (plain.filterMap id) + (standing (classified members)).length := by
  obtain ⟨plain, limits, hplain, hlimits, perm⟩ := ofMembers_eq_ok h
  have unequal : limits.countP (fun t => t.op = .equals) = 0 := by
    refine List.countP_eq_zero.mpr fun t ht => ?_
    obtain ⟨l, -, id, -, rfl⟩ := exists_of_mem_right hlimits ht
    cases l.which <;> simp [Bound.op]
  refine ⟨plain, hplain, ?_⟩
  rw [weight, perm.length_eq, perm.countP_eq, List.length_append, List.countP_append, unequal,
    hlimits.length_eq, weight]
  omega

theorem op_of_date (hdate : (dateText? value).isSome = true) (h : plainTerm key value = .ok t) :
    t.op = .equals := by
  cases value with
  | string | number =>
    simp only [plainTerm, bind_eq_ok, pure_eq_ok] at h
    obtain ⟨id, -, rfl⟩ := h
    rfl
  | _ => cases hdate

theorem any_isAt_padded (h : List.Forall₂ PaddedMember members members')
    (later : (classified members').any (·.isAt field which) = true) :
    (classified members).any (·.isAt field which) = true := by
  obtain ⟨m', hm', hkey⟩ := any_isAt_classified.mp later
  obtain ⟨m, hm, padded⟩ := exists_of_mem_right h hm'
  cases padded with
  | intro padded => exact any_isAt_classified.mpr ⟨_, hm, boundKey_of_paddedKey padded hkey⟩

theorem standing_of_boundKey (hkey : BoundKey which field key) (value : Json) :
    standing (classified ((key, value) :: members)) =
      (ownLimit field which value (classified members)).toList ++
        standing (classified members) := by
  have cons :
      classified ((key, value) :: members) = .bound field which value :: classified members :=
    congrArg (· :: classified members) (classify_of_boundKey hkey value)
  rw [cons, standing_bound]

theorem standing_of_not_isBound (hkey : ¬IsBound key) (value : Json) :
    standing (classified ((key, value) :: members)) = standing (classified members) := by
  have cons : classified ((key, value) :: members) = .plain key value :: classified members :=
    congrArg (· :: classified members) (classify_of_not_isBound hkey value)
  rw [cons]
  rfl

theorem ownLimit_padded (h : List.Forall₂ PaddedMember members members') (value : Json) :
    (ownLimit field which value (classified members)).toList.length ≤
      (ownLimit field which value (classified members')).toList.length := by
  unfold ownLimit
  by_cases later : (classified members').any (·.isAt field which) = true
  · rw [if_pos (any_isAt_padded h later)]
    exact Nat.zero_le _
  · rw [if_neg later]
    split
    · exact Nat.zero_le _
    · exact Nat.le_refl _

/-- A term counts more than the limit for which it stands in. -/
theorem ownLimit_lt_weight (h : plainTerm key value = .ok t) (later : List Member) :
    (ownLimit field which value later).toList.length < weight [t] := by
  have one : 1 ≤ weight [t] := Nat.le_add_right _ _
  unfold ownLimit
  split
  · exact one
  · cases hdate : dateText? value with
    | none => exact one
    | some date =>
      have equals := op_of_date (by rw [hdate]; rfl) h
      simp [weight, equals]

/-- A key that is no longer that of an end of a range makes the terms weigh more. -/
theorem weight_padded (h : List.Forall₂ PaddedMember members members')
    (hplain : List.Forall₂ (fun m t => Member.plainTerm? m = .ok t) (classified members) plain)
    (hplain' :
      List.Forall₂ (fun m t => Member.plainTerm? m = .ok t) (classified members') plain') :
    weight (plain.filterMap id) + (standing (classified members)).length ≤
        weight (plain'.filterMap id) + (standing (classified members')).length ∧
      (weight (plain'.filterMap id) + (standing (classified members')).length ≤
          weight (plain.filterMap id) + (standing (classified members)).length →
        List.Forall₂ (fun m m' => IsBound m.1 → IsBound m'.1) members members') := by
  induction h generalizing plain plain' with
  | nil =>
    cases hplain
    cases hplain'
    exact ⟨Nat.le_refl _, fun _ => .nil⟩
  | @cons m m' rest rest' hm hrest ih =>
    cases hm with | @intro key key' value hkey => ?_
    cases hplain with | @cons _ first _ plain hfirst hplain => ?_
    cases hplain' with | @cons _ first' _ plain' hfirst' hplain' => ?_
    obtain ⟨atMost, kept⟩ := ih hplain hplain'
    have hfirst : (classify key value).plainTerm? = .ok first := hfirst
    have hfirst' : (classify key' value).plainTerm? = .ok first' := hfirst'
    by_cases bound : IsBound key
    · obtain ⟨which, field, hbound⟩ := bound
      rw [classify_of_boundKey hbound] at hfirst
      obtain rfl := Except.ok.inj hfirst
      rw [standing_of_boundKey hbound, List.length_append,
        List.filterMap_cons_none (show id none = none from rfl)]
      by_cases stays : IsBound key'
      · have hbound' := (boundKey_paddedKey_iff hkey stays).mpr hbound
        rw [classify_of_boundKey hbound'] at hfirst'
        obtain rfl := Except.ok.inj hfirst'
        have own : (ownLimit field which value (classified rest)).toList.length ≤ _ :=
          ownLimit_padded hrest value
        rw [standing_of_boundKey hbound', List.length_append,
          List.filterMap_cons_none (show id none = none from rfl)]
        exact ⟨by omega, fun hle => .cons (fun _ => stays) (kept (by omega))⟩
      · rw [classify_of_not_isBound stays] at hfirst'
        obtain ⟨t, ht, rfl⟩ := map_eq_ok.mp hfirst'
        have own : (ownLimit field which value (classified rest)).toList.length < _ :=
          ownLimit_lt_weight ht _
        rw [standing_of_not_isBound stays,
          List.filterMap_cons_some (show id (some t) = some t from rfl), weight_cons]
        exact ⟨by omega, fun hle => by omega⟩
    · have bound' : ¬IsBound key' := fun h => bound (isBound_of_paddedKey hkey h)
      rw [classify_of_not_isBound bound] at hfirst
      rw [classify_of_not_isBound bound', Member.plainTerm?, plainTerm_padded hkey bound] at hfirst'
      obtain rfl := Except.ok.inj (hfirst.symm.trans hfirst')
      obtain ⟨t, -, rfl⟩ := map_eq_ok.mp hfirst
      rw [standing_of_not_isBound bound, standing_of_not_isBound bound',
        List.filterMap_cons_some (show id (some t) = some t from rfl),
        List.filterMap_cons_some (show id (some t) = some t from rfl),
        weight_cons t (plain.filterMap id), weight_cons t (plain'.filterMap id)]
      exact ⟨by omega, fun hle => .cons (fun h => absurd h bound) (kept (by omega))⟩

end

-- ---------------------------------------------------------------------------
-- All filters
-- ---------------------------------------------------------------------------

variable {filter padded : Json}

theorem size_padded (h : PaddedFilter filter padded) : size padded = size filter := by
  cases h with
  | array h => exact h.length_eq.symm
  | object h => exact h.length_eq.symm

theorem terms_padded (h : PaddedFilter filter padded) (kept : KeepsBounds filter padded) :
    terms padded = terms filter := by
  have read : uncounted padded = uncounted filter := by
    cases h with
    | array h => exact ofArray_padded h
    | object h => exact ofMembers_padded h kept
  rw [terms_eq_ite, terms_eq_ite, size_padded h, read]

theorem keepsBounds_of_terms (h : PaddedFilter filter padded) (hts : terms filter = .ok ts)
    (hts' : terms padded = .ok ts) : KeepsBounds filter padded := by
  cases h with
  | array => trivial
  | object h =>
    obtain ⟨plain, hplain, count⟩ := weight_of_ofMembers (uncounted_of_terms hts)
    obtain ⟨plain', hplain', count'⟩ := weight_of_ofMembers (uncounted_of_terms hts')
    exact (weight_padded h hplain hplain').2 (count'.symm.trans count).le

/-- White space around names of fields changes neither the terms nor the error, as long as none is
put behind the suffix of a key for an end of a range. There it changes the terms of every filter
that can be read. -/
theorem terms_padded_iff (h : PaddedFilter filter padded) :
    (KeepsBounds filter padded → terms padded = terms filter) ∧
    (∀ ts, terms filter = .ok ts → (terms padded = .ok ts ↔ KeepsBounds filter padded)) ∧
    ∀ key before after, IsBound key → Blank before → Blank after →
      (IsBound (String.ofList before ++ key ++ String.ofList after) ↔ after = []) := by
  refine ⟨terms_padded h, fun ts hts => ⟨keepsBounds_of_terms h hts, fun kept => ?_⟩,
    fun key before after => isBound_padded_iff⟩
  exact (terms_padded h kept).trans hts

def listAndRange (no start finish : String) : Json :=
  .object [(no, .array [.ofInt 1, .ofInt 2]), (start, .string "1-6-2024"),
    (finish, .string "6/30/2024")]

theorem terms_padded_iff_listAndRange : ∃ ts,
    terms (listAndRange "no" "d_startdate" "d_ENDDATE") = .ok ts ∧ ts.length = 3 ∧
    KeepsBounds (listAndRange "no" "d_startdate" "d_ENDDATE")
      (listAndRange "\tno " "\u3000d_startdate" "d _ENDDATE") ∧
    terms (listAndRange "\tno " "\u3000d_startdate" "d _ENDDATE") = .ok ts := by
  obtain ⟨ts, hts, count⟩ : ∃ ts, terms (listAndRange "no" "d_startdate" "d_ENDDATE") = .ok ts ∧
      ts.length = 3 := exists_ok_of_toOption (by decide +kernel)
  have no : Padded "no" "\tno " := ⟨['\t'], [' '], by decide, by decide, by decide⟩
  have start : Padded "d_startdate" "\u3000d_startdate" :=
    ⟨['\u3000'], [], by decide, by decide, by decide⟩
  have field : Padded "d" "d " := ⟨[], [' '], by decide, by decide, by decide⟩
  have finish : PaddedKey ("d" ++ "_ENDDATE") ("d " ++ "_ENDDATE") :=
    .field (show sameIgnoringAsciiCase "_ENDDATE" Bound.finish.suffix = true by decide) field
  have padded : PaddedFilter (listAndRange "no" "d_startdate" "d_ENDDATE")
      (listAndRange "\tno " "\u3000d_startdate" "d _ENDDATE") :=
    .object (.cons (.intro (.around no)) (.cons (.intro (.around start))
      (.cons (.intro finish) .nil)))
  have kept : KeepsBounds (listAndRange "no" "d_startdate" "d_ENDDATE")
      (listAndRange "\tno " "\u3000d_startdate" "d _ENDDATE") := by
    show List.Forall₂ _ _ _
    decide +kernel
  exact ⟨ts, hts, count, kept, ((terms_padded_iff padded).2.1 ts hts).mpr kept⟩

def startUnder (key : String) : Json := .object [(key, .string "2024-06-01")]

/-- A blank behind the suffix makes another filter of it. -/
theorem not_terms_padded_startUnder :
    PaddedFilter (startUnder "d_startdate") (startUnder "d_startdate ") ∧
    (∃ ts, terms (startUnder "d_startdate") = .ok ts ∧
      ts.map (fun t => (t.field.text, t.op)) = [("d", .greaterThanOrEqual)]) ∧
    (∃ ts, terms (startUnder "d_startdate ") = .ok ts ∧
      ts.map (fun t => (t.field.text, t.op)) = [("d_startdate", .equals)]) ∧
    terms (startUnder "d_startdate ") ≠ terms (startUnder "d_startdate") := by
  have given : ∃ ts, terms (startUnder "d_startdate") = .ok ts ∧
      ts.map (fun t => (t.field.text, t.op)) = [("d", .greaterThanOrEqual)] :=
    exists_ok_of_toOption (by decide +kernel)
  have other : ∃ ts, terms (startUnder "d_startdate ") = .ok ts ∧
      ts.map (fun t => (t.field.text, t.op)) = [("d_startdate", .equals)] :=
    exists_ok_of_toOption (by decide +kernel)
  have blank : Padded "d_startdate" "d_startdate " :=
    ⟨[], [' '], by decide, by decide, by decide⟩
  refine ⟨.object (.cons (.intro (.around blank)) .nil), given, other, fun same => ?_⟩
  obtain ⟨ts, hts, hgiven⟩ := given
  obtain ⟨us, hus, hother⟩ := other
  obtain rfl := Except.ok.inj (hts.symm.trans (same.symm.trans hus))
  rw [hgiven] at hother
  exact absurd hother (by decide)

end Filter

end FilterSql.Query
