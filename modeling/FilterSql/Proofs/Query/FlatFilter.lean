import FilterSql.Proofs.Query.Identifier
import FilterSql.Proofs.Outcome
import FilterSql.Query.Filter
import Mathlib.Data.List.Perm.Basic

/-!
# Flat filters

The members of a flat filter object by what their keys say. `BoundKey`: a key names one end of the
range of a field. `limits_ranges`: of the dates that are given for one end the last stands, and a
last value that is no date leaves the end open.
-/

namespace FilterSql.Query.Filter

-- ---------------------------------------------------------------------------
-- Keys
-- ---------------------------------------------------------------------------

def Bound.suffix : Bound → String
  | start => "_startdate"
  | finish => "_enddate"

/-- The key is `head` with a suffix, in any case of its ASCII letters. -/
def EndsIn (suffix key head : String) : Prop :=
  ∃ tail, key = head ++ tail ∧ Text.sameIgnoringAsciiCase tail suffix = true

def BoundKey (which : Bound) (field key : String) : Prop :=
  ∃ head, EndsIn which.suffix key head ∧ Text.trim head = field

def IsBound (key : String) : Prop := ∃ which field, BoundKey which field key

theorem not_isBound_iff : ¬IsBound key ↔ ∀ which field, ¬BoundKey which field key := by
  simp only [IsBound, not_exists]

theorem stripSuffix?_eq_some_iff {suffix : String}
    (lower : suffix.toList.map Char.toLower = suffix.toList) :
    stripSuffix? suffix key = some head ↔ EndsIn suffix key head := by
  unfold stripSuffix? EndsIn Text.sameIgnoringAsciiCase
  rw [lower]
  constructor
  · intro h
    dsimp only at h
    split at h
    · rename_i htail
      obtain rfl := Option.some.inj h
      refine ⟨String.ofList (key.toList.drop (key.toList.length - suffix.toList.length)), ?_, ?_⟩
      · rw [← String.ofList_append, List.take_append_drop, String.ofList_toList]
      · rw [String.toList_ofList]
        exact beq_iff_eq.mpr htail
    · cases h
  · rintro ⟨tail, rfl, htail⟩
    have htail := beq_iff_eq.mp htail
    have length : suffix.toList.length = tail.toList.length := by
      rw [← htail, List.length_map]
    simp [length, htail]

theorem Bound.suffix_lower (which : Bound) :
    which.suffix.toList.map Char.toLower = which.suffix.toList := by
  cases which <;> decide

theorem EndsIn.which_eq {which which' : Bound} (h : EndsIn which.suffix key head)
    (h' : EndsIn which'.suffix key head') : which = which' := by
  have suffixOf {which : Bound} {head : String} (h : EndsIn which.suffix key head) :
      which.suffix.toList <:+ key.toList.map Char.toLower := by
    obtain ⟨tail, rfl, htail⟩ := h
    refine ⟨head.toList.map Char.toLower, ?_⟩
    rw [String.toList_append, List.map_append, beq_iff_eq.mp htail, which.suffix_lower]
  have apart : ¬Bound.start.suffix.toList <:+ Bound.finish.suffix.toList ∧
      ¬Bound.finish.suffix.toList <:+ Bound.start.suffix.toList := by decide
  have either := List.suffix_or_suffix_of_suffix (suffixOf h) (suffixOf h')
  cases which <;> cases which'
  · rfl
  · exact absurd either (not_or.mpr apart)
  · exact absurd either (not_or.mpr apart.symm)
  · rfl

theorem classify_of_boundKey (h : BoundKey which field key) (value : Json) :
    classify key value = .bound field which value := by
  obtain ⟨head, hends, rfl⟩ := h
  unfold classify
  cases which with
  | start =>
    have hstart : stripSuffix? "_startdate" key = some head :=
      (stripSuffix?_eq_some_iff Bound.start.suffix_lower).mpr hends
    simp [hstart]
  | finish =>
    have hstart : stripSuffix? "_startdate" key = none := by
      refine Option.eq_none_iff_forall_ne_some.mpr fun other hother => ?_
      have hother : EndsIn Bound.start.suffix key other :=
        (stripSuffix?_eq_some_iff Bound.start.suffix_lower).mp hother
      cases hother.which_eq hends
    have hfinish : stripSuffix? "_enddate" key = some head :=
      (stripSuffix?_eq_some_iff Bound.finish.suffix_lower).mpr hends
    simp [hstart, hfinish]

theorem classify_cases (key : String) (value : Json) :
    (∃ which field, BoundKey which field key ∧ classify key value = .bound field which value) ∨
      (∀ which field, ¬BoundKey which field key) ∧ classify key value = .plain key value := by
  by_cases h : ∃ which field, BoundKey which field key
  · obtain ⟨which, field, h⟩ := h
    exact .inl ⟨which, field, h, classify_of_boundKey h value⟩
  · have plain : ∀ which field, ¬BoundKey which field key := fun which field hkey =>
      h ⟨which, field, hkey⟩
    have unended (which : Bound) : stripSuffix? which.suffix key = none := by
      refine Option.eq_none_iff_forall_ne_some.mpr fun head hhead => ?_
      exact plain which _ ⟨head, (stripSuffix?_eq_some_iff which.suffix_lower).mp hhead, rfl⟩
    have hstart : stripSuffix? "_startdate" key = none := unended .start
    have hfinish : stripSuffix? "_enddate" key = none := unended .finish
    have classified : classify key value = .plain key value := by
      unfold classify
      rw [hstart]
      dsimp only
      rw [hfinish]
    exact .inr ⟨plain, classified⟩

theorem BoundKey.unique (h : BoundKey which field key) (h' : BoundKey which' field' key) :
    which = which' ∧ field = field' := by
  have first := classify_of_boundKey h .null
  rw [classify_of_boundKey h' .null] at first
  exact ⟨(Member.bound.inj first).2.1.symm, (Member.bound.inj first).1.symm⟩

theorem BoundKey.trim_field (h : BoundKey which field key) : Text.trim field = field := by
  obtain ⟨head, -, rfl⟩ := h
  exact Text.trim_trim head

-- ---------------------------------------------------------------------------
-- Ranges
-- ---------------------------------------------------------------------------

/-- One end of the range of a field, with its date. -/
structure Limit where
  field : String
  which : Bound
  date : String
  deriving DecidableEq, Repr

def Limit.isAt (l : Limit) (field : String) (which : Bound) : Bool :=
  l.field = field && l.which = which

def Range.limits (r : Range) : List Limit :=
  (r.start.map (⟨r.field, .start, ·⟩)).toList ++ (r.finish.map (⟨r.field, .finish, ·⟩)).toList

theorem Range.field_set (r : Range) (which : Bound) (date : Option String) :
    (r.set which date).field = r.field := by
  cases which <;> rfl

theorem Range.limits_set (r : Range) (which : Bound) (date : Option String) :
    (r.set which date).limits.Perm (r.limits.filter (fun l => !l.isAt r.field which) ++
      (date.map (⟨r.field, which, ·⟩)).toList) := by
  obtain ⟨field, start, finish⟩ := r
  cases which with
  | start =>
    cases start <;> cases finish <;> cases date <;>
      simp [set, limits, Limit.isAt, List.Perm.swap]
  | finish => cases start <;> cases finish <;> cases date <;> simp [set, limits, Limit.isAt]

variable {field : String} {which : Bound} {date : Option String} {rs : List Range}

theorem nodup_setBound (distinct : (rs.map Range.field).Nodup) :
    ((setBound field which date rs).map Range.field).Nodup ∧
      ∀ f, f ∈ (setBound field which date rs).map Range.field ↔
        f = field ∨ f ∈ rs.map Range.field := by
  induction rs with
  | nil => simp [setBound, Range.field_set]
  | cons r rs ih =>
    obtain ⟨hnew, hrest⟩ := List.nodup_cons.mp distinct
    unfold setBound
    split
    · rename_i hfield
      rw [List.map_cons, Range.field_set]
      refine ⟨distinct, fun f => ?_⟩
      simp [← hfield]
    · rename_i hfield
      obtain ⟨nodup, mem⟩ := ih hrest
      rw [List.map_cons]
      refine ⟨List.nodup_cons.mpr ⟨fun h => ?_, nodup⟩, fun f => ?_⟩
      · exact ((mem r.field).mp h).elim hfield hnew
      · simp only [List.mem_cons, mem, List.map_cons]
        exact or_left_comm

theorem filter_limits_of_not_mem (h : field ∉ rs.map Range.field) (which : Bound) :
    (rs.flatMap Range.limits).filter (fun l => !l.isAt field which) = rs.flatMap Range.limits := by
  refine List.filter_eq_self.mpr fun l hl => ?_
  obtain ⟨r, hr, hl⟩ := List.mem_flatMap.mp hl
  have own : l.field = r.field := by
    simp only [Range.limits, List.mem_append, Option.mem_toList, Option.map_eq_some_iff] at hl
    rcases hl with ⟨_, -, rfl⟩ | ⟨_, -, rfl⟩ <;> rfl
  have hne : l.field ≠ field := fun heq => h (List.mem_map.mpr ⟨r, hr, own.symm.trans heq⟩)
  simp [Limit.isAt, hne]

/-- What was set for the same end is replaced, and nothing else. -/
theorem limits_setBound (field : String) (which : Bound) (date : Option String)
    (distinct : (rs.map Range.field).Nodup) :
    ((setBound field which date rs).flatMap Range.limits).Perm
      ((rs.flatMap Range.limits).filter (fun l => !l.isAt field which) ++
        (date.map (⟨field, which, ·⟩)).toList) := by
  induction rs with
  | nil =>
    have first := Range.limits_set { field } which date
    simpa [setBound, Range.limits] using first
  | cons r rs ih =>
    obtain ⟨hnew, hrest⟩ := List.nodup_cons.mp distinct
    unfold setBound
    split
    · rename_i hfield
      subst hfield
      rw [List.flatMap_cons, List.flatMap_cons, List.filter_append, filter_limits_of_not_mem hnew,
        List.append_assoc]
      refine ((r.limits_set which date).append_right _).trans ?_
      rw [List.append_assoc]
      exact List.perm_append_comm.append_left _
    · rename_i hfield
      have own : r.limits.filter (fun l => !l.isAt field which) = r.limits := by
        have apart : field ∉ [r].map Range.field := by simpa using Ne.symm hfield
        simpa using filter_limits_of_not_mem apart which
      rw [List.flatMap_cons, List.flatMap_cons, List.filter_append, own, List.append_assoc]
      exact (ih hrest).append_left _

-- ---------------------------------------------------------------------------
-- The limits that stand
-- ---------------------------------------------------------------------------

def Member.isAt (m : Member) (field : String) (which : Bound) : Bool :=
  match m with
  | .plain .. => false
  | .bound f w _ => f = field && w = which

theorem isAt_classify (value : Json) :
    (classify key value).isAt field which = true ↔ BoundKey which field key := by
  rcases classify_cases key value with ⟨which', field', hkey, hc⟩ | ⟨hplain, hc⟩
  · rw [hc]
    simp only [Member.isAt, Bool.and_eq_true, decide_eq_true_eq]
    constructor
    · rintro ⟨rfl, rfl⟩
      exact hkey
    · intro h
      obtain ⟨rfl, rfl⟩ := hkey.unique h
      exact ⟨rfl, rfl⟩
  · rw [hc]
    exact ⟨fun h => (nomatch h), fun h => absurd h (hplain _ _)⟩

def boundOf? (key : String) : Option (Bound × String) :=
  match classify key .null with
  | .bound field which _ => some (which, field)
  | .plain .. => none

theorem boundOf?_eq_some_iff : boundOf? key = some (which, field) ↔ BoundKey which field key := by
  rw [← isAt_classify .null]
  unfold boundOf?
  generalize classify key .null = member
  cases member with
  | plain => simp [Member.isAt]
  | bound => simp [Member.isAt, and_comm]

instance : DecidablePred IsBound := fun key =>
  decidable_of_iff ((boundOf? key).isSome = true) <| by
    simp only [IsBound, Option.isSome_iff_exists, Prod.exists, boundOf?_eq_some_iff]

/-- The dates that are given, without those for which there is a later member. -/
def standing : List Member → List Limit
  | [] => []
  | .plain .. :: rest => standing rest
  | .bound field which value :: rest =>
    (if rest.any (·.isAt field which) then none
      else (dateText? value).map (⟨field, which, ·⟩)).toList ++ standing rest

/-- The limit that a member stands for, if no later one is about the same end. -/
def ownLimit (field : String) (which : Bound) (value : Json) (later : List Member) : Option Limit :=
  if later.any (·.isAt field which) then none else (dateText? value).map (⟨field, which, ·⟩)

theorem standing_bound (field : String) (which : Bound) (value : Json) (later : List Member) :
    standing (.bound field which value :: later) =
      (ownLimit field which value later).toList ++ standing later := rfl

def setMember (rs : List Range) : Member → List Range
  | .plain .. => rs
  | .bound field which value => setBound field which (dateText? value) rs

theorem ranges_eq_foldl (members : List Member) : ranges members = members.foldl setMember [] :=
  rfl

theorem limits_foldl (members : List Member) (distinct : (rs.map Range.field).Nodup) :
    ((members.foldl setMember rs).flatMap Range.limits).Perm
      ((rs.flatMap Range.limits).filter (fun l => !members.any (·.isAt l.field l.which)) ++
        standing members) := by
  induction members generalizing rs with
  | nil => simp [standing]
  | cons m rest ih =>
    rw [List.foldl_cons]
    cases m with
    | plain key value => exact ih distinct
    | bound field which value =>
      -- The limit of this member stands unless a later one is about the same end.
      have own : ((dateText? value).map (⟨field, which, ·⟩)).toList.filter
          (fun l : Limit => !rest.any (·.isAt l.field l.which)) =
          (if rest.any (·.isAt field which) then none
            else (dateText? value).map (⟨field, which, ·⟩)).toList := by
        cases dateText? value with
        | none => simp
        | some date =>
          cases h : rest.any (·.isAt field which) <;> simp [h]
      have others (l : Limit) : (!rest.any (·.isAt l.field l.which) && !l.isAt field which) =
          !(Member.bound field which value :: rest).any (·.isAt l.field l.which) := by
        rw [List.any_cons, Bool.not_or, Bool.and_comm]
        simp [Member.isAt, Limit.isAt, eq_comm]
      have set := (limits_setBound field which (dateText? value) distinct).filter
        fun l => !rest.any (·.isAt l.field l.which)
      rw [List.filter_append, List.filter_filter, own] at set
      simp only [others] at set
      refine (ih (nodup_setBound distinct).1).trans ?_
      rw [standing, ← List.append_assoc]
      exact set.append_right _

theorem limits_ranges (members : List Member) :
    ((ranges members).flatMap Range.limits).Perm (standing members) := by
  have distinct : (([] : List Range).map Range.field).Nodup := List.nodup_nil
  simpa [ranges_eq_foldl] using limits_foldl members distinct

-- ---------------------------------------------------------------------------
-- Terms
-- ---------------------------------------------------------------------------

def Bound.op : Bound → Operator
  | start => .greaterThanOrEqual
  | finish => .lessThanOrEqual

def Limit.IsTerm (l : Limit) (t : Term) : Prop :=
  ∃ id : Identifier, id.text = Text.trim l.field ∧
    t = { field := id, op := l.which.op, value := some (.text l.date) }

theorem isTerm_of_range {r : Range} (h : r.terms = .ok ts) :
    List.Forall₂ Limit.IsTerm r.limits ts := by
  simp only [Range.terms, bind_eq_ok, pure_eq_ok] at h
  obtain ⟨id, hid, rfl⟩ := h
  have hid := Identifier.check_eq_ok.mp hid
  refine List.rel_append ?_ ?_
  · cases r.start with
    | none => exact .nil
    | some date => exact .cons ⟨id, hid, rfl⟩ .nil
  · cases r.finish with
    | none => exact .nil
    | some date => exact .cons ⟨id, hid, rfl⟩ .nil

theorem isTerm_of_ranges (h : rs.mapM Range.terms = .ok tss) :
    List.Forall₂ Limit.IsTerm (rs.flatMap Range.limits) tss.flatten := by
  replace h := mapM_eq_ok.mp h
  induction h with
  | nil => exact .nil
  | cons hr _ ih => exact List.rel_append (isTerm_of_range hr) ih

def classified (members : Json.Members) : List Member :=
  members.map fun m => classify m.1 m.2

/-- The terms of a flat filter are those of its plain members and those of the limits that stand. -/
theorem ofMembers_eq_ok (h : ofMembers members = .ok ts) :
    ∃ plain limits,
      List.Forall₂ (fun m t => Member.plainTerm? m = .ok t) (classified members) plain ∧
      List.Forall₂ Limit.IsTerm (standing (classified members)) limits ∧
      ts.Perm (plain.filterMap id ++ limits) := by
  simp only [ofMembers, bind_eq_ok, pure_eq_ok] at h
  obtain ⟨plain, hplain, tss, htss, rfl⟩ := h
  obtain ⟨limits, hlimits, perm⟩ :=
    List.perm_comp_forall₂ (limits_ranges (classified members)).symm (isTerm_of_ranges htss)
  exact ⟨plain, limits, mapM_eq_ok.mp hplain, hlimits, perm.symm.append_left _⟩

end FilterSql.Query.Filter
