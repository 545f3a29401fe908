import FilterSql.Proofs.Query.FilterMeaning
import FilterSql.Proofs.Query.FlatFilter

/-!
# What a flat filter asks for

Every member of a flat filter describes a term, unless it is an end of a range that is left open.
`nothingDropped_iff`: all of these terms are there if and only if each end of a range that is given
has a date and is given once. The members that break this are dropped without an error, so that the
query selects more rows than were asked for.
-/

namespace FilterSql.Query.Filter

open Sql

/-- Null and blank text. -/
def isBlank : Json → Bool
  | .null => true
  | .string s => (Text.trim s).isEmpty
  | _ => false

def SameEnd (key key' : String) : Prop :=
  ∃ which field, BoundKey which field key ∧ BoundKey which field key'

/-- What is asked for by a member of a flat filter. -/
inductive Describes (key : String) : Json → Term → Prop
  /-- A record with an operator is taken as it is given, which `Term.ofSpec_eq_ok_iff` spells out. -/
  | record (hop : Json.Members.has spec "operator" = true) (h : Term.ofSpec key spec = .ok t) :
      Describes key (.object spec) t
  | bound {id : Identifier} (hkey : BoundKey which field key) (hdate : dateText? value = some date)
      (hid : id.text = field) :
      Describes key value { field := id, op := which.op, value := some (.text date) }
  | listed {id : Identifier} (hkey : ¬IsBound key) (hid : id.text = Text.trim key)
      (hvs : List.Forall₂ (fun item v => Scalar.ofJson? item = some v) items vs) :
      Describes key (.array items) { field := id, op := .isIn, values := some vs }
  | equal {id : Identifier} (hkey : ¬IsBound key) (hid : id.text = Text.trim key)
      (hlist : ∀ items, value ≠ .array items)
      (hop : ∀ spec, value = .object spec → Json.Members.has spec "operator" = false) :
      Describes key value { field := id, op := .equals, value := Scalar.ofJson? value }

/-- The terms that the members ask for, in their order. A plain member asks for a term whatever its
value is, and an end of a range does if its value is not blank. -/
inductive Asked : Json.Members → List Term → Prop
  | nil : Asked [] []
  | blank (hkey : IsBound key) (hvalue : isBlank value = true) (h : Asked members asked) :
      Asked ((key, value) :: members) asked
  | term (h : Describes key value t) (hrest : Asked members asked) :
      Asked ((key, value) :: members) (t :: asked)

/-- Each term that is asked for is there, and two of them if two members ask for the same. -/
def NothingDropped (members : Json.Members) (ts : List Term) : Prop :=
  ∃ asked, Asked members asked ∧ asked.Subperm ts

/-- Each end of a range that is given has a date, and none is given again. -/
structure Settled (members : Json.Members) : Prop where
  dated : ∀ m ∈ members, IsBound m.1 → isBlank m.2 = false → (dateText? m.2).isSome = true
  last : members.Pairwise fun m later => isBlank m.2 = false → ¬SameEnd m.1 later.1

-- ---------------------------------------------------------------------------
-- Deciding whether members are settled
-- ---------------------------------------------------------------------------

instance (key key' : String) : Decidable (SameEnd key key') :=
  decidable_of_iff (∃ e ∈ boundOf? key, boundOf? key' = some e) <| by
    simp only [SameEnd, Option.mem_def, Prod.exists, boundOf?_eq_some_iff]

instance (members : Json.Members) : Decidable (Settled members) :=
  decidable_of_iff (_ ∧ _) ⟨fun h => ⟨h.1, h.2⟩, fun h => ⟨h.dated, h.last⟩⟩

-- ---------------------------------------------------------------------------
-- Values
-- ---------------------------------------------------------------------------

theorem dateText?_of_isBlank {value : Json} (h : isBlank value = true) :
    dateText? value = none := by
  cases value with
  | null => rfl
  | string s =>
    have blank : Text.trimmed? s = none := by
      have h : (Text.trim s).isEmpty = true := h
      simp [Text.trimmed?, h]
    simp [dateText?, normalizeDate?, blank]
  | _ => cases h

theorem isBlank_of_date {value : Json} (h : dateText? value = some date) :
    isBlank value = false := by
  cases hblank : isBlank value with
  | false => rfl
  | true => rw [dateText?_of_isBlank hblank] at h; cases h

theorem describes_of_plainTerm (hkey : ¬IsBound key) (h : plainTerm key value = .ok t) :
    Describes key value t := by
  cases value with
  | object spec =>
    unfold plainTerm at h
    dsimp only at h
    split at h
    · rename_i hop
      exact .record hop h
    · rename_i hop
      simp only [bind_eq_ok, pure_eq_ok] at h
      obtain ⟨id, hid, rfl⟩ := h
      refine .equal hkey (Identifier.check_eq_ok.mp hid) (fun _ => Json.noConfusion) ?_
      rintro _ ⟨⟩
      exact Bool.eq_false_iff.mpr hop
  | array items =>
    simp only [plainTerm, bind_eq_ok, pure_eq_ok] at h
    obtain ⟨id, hid, vs, hvs, rfl⟩ := h
    have hitems := mapM_eq_ok.mp hvs
    refine .listed hkey (Identifier.check_eq_ok.mp hid) (hitems.imp fun item v hv => ?_)
    cases hitem : Scalar.ofJson? item with
    | none => simp [hitem] at hv
    | some w =>
      simp only [hitem, Except.ok.injEq] at hv
      rw [hv]
  | null | bool | number | string =>
    simp only [plainTerm, bind_eq_ok, pure_eq_ok] at h
    obtain ⟨id, hid, rfl⟩ := h
    exact .equal hkey (Identifier.check_eq_ok.mp hid) (fun _ => Json.noConfusion)
      (fun _ => Json.noConfusion)

-- ---------------------------------------------------------------------------
-- Member by member
-- ---------------------------------------------------------------------------

theorem settled_cons : Settled ((key, value) :: members) ↔
    ((IsBound key → isBlank value = false → (dateText? value).isSome = true) ∧
      ∀ later ∈ members, isBlank value = false → ¬SameEnd key later.1) ∧ Settled members := by
  constructor
  · rintro ⟨dated, last⟩
    obtain ⟨hfirst, hrest⟩ := List.pairwise_cons.mp last
    exact ⟨⟨dated _ List.mem_cons_self, hfirst⟩,
      ⟨fun m hm => dated m (List.mem_cons_of_mem _ hm), hrest⟩⟩
  · rintro ⟨⟨hdate, hfirst⟩, ⟨dated, last⟩⟩
    refine ⟨fun m hm => ?_, List.pairwise_cons.mpr ⟨hfirst, last⟩⟩
    rcases List.mem_cons.mp hm with rfl | hm
    · exact hdate
    · exact dated m hm

theorem any_isAt_classified {members : Json.Members} :
    (classified members).any (·.isAt field which) = true ↔
      ∃ m ∈ members, BoundKey which field m.1 := by
  simp [classified, isAt_classify]

theorem any_isAt_eq_false {members : Json.Members} (hkey : BoundKey which field key) :
    (classified members).any (·.isAt field which) = false ↔
      ∀ later ∈ members, ¬SameEnd key later.1 := by
  rw [← Bool.not_eq_true, any_isAt_classified]
  constructor
  · rintro h later hlater ⟨which', field', hown, hsame⟩
    obtain ⟨rfl, rfl⟩ := hkey.unique hown
    exact h ⟨later, hlater, hsame⟩
  · rintro h ⟨later, hlater, hsame⟩
    exact h later hlater ⟨which, field, hkey, hsame⟩

/-- What the successful reading of a first member has come to. -/
inductive FirstMember (key : String) (value : Json) (members : Json.Members) :
    Option Term → List Limit → Prop
  | plain (hkey : ¬IsBound key) (h : Describes key value t) :
      FirstMember key value members (some t) []
  | unset (hkey : IsBound key) (hdate : dateText? value = none) :
      FirstMember key value members none []
  | replaced (hkey : IsBound key) (hdate : dateText? value = some date)
      (h : ¬∀ later ∈ members, ¬SameEnd key later.1) : FirstMember key value members none []
  | limit (hkey : BoundKey which field key) (hdate : dateText? value = some date)
      (h : ∀ later ∈ members, ¬SameEnd key later.1) :
      FirstMember key value members none [⟨field, which, date⟩]

theorem firstMember (h : (classify key value).plainTerm? = .ok t?) (members : Json.Members) :
    ∃ limits, FirstMember key value members t? limits ∧
      standing (classified ((key, value) :: members)) =
        limits ++ standing (classified members) := by
  have cons : classified ((key, value) :: members) = classify key value :: classified members := rfl
  rw [cons]
  rcases classify_cases key value with ⟨which, field, hkey, hc⟩ | ⟨hplain, hc⟩
  · rw [hc] at h ⊢
    obtain rfl := Except.ok.inj h
    cases hdate : dateText? value with
    | none => exact ⟨[], .unset ⟨_, _, hkey⟩ hdate, by simp [standing, hdate]⟩
    | some date =>
      cases later : (classified members).any (·.isAt field which) with
      | false =>
        exact ⟨_, .limit hkey hdate ((any_isAt_eq_false hkey).mp later), by
          simp [standing, hdate, later]⟩
      | true =>
        refine ⟨[], .replaced ⟨_, _, hkey⟩ hdate fun h => ?_, by simp [standing, later]⟩
        rw [(any_isAt_eq_false hkey).mpr h] at later
        cases later
  · rw [hc] at h ⊢
    obtain ⟨t, ht, rfl⟩ := map_eq_ok.mp h
    have hkey : ¬IsBound key := not_isBound_iff.mpr hplain
    exact ⟨[], .plain hkey (describes_of_plainTerm hkey ht), rfl⟩

variable {members : Json.Members} {asked : List Term} {plain : List (Option Term)}
  {limits : List Term}

theorem asked_of_settled (settled : Settled members)
    (hplain : List.Forall₂ (fun m t => Member.plainTerm? m = .ok t) (classified members) plain)
    (hlimits : List.Forall₂ Limit.IsTerm (standing (classified members)) limits) :
    ∃ asked, Asked members asked ∧ asked.Perm (plain.filterMap id ++ limits) := by
  induction members generalizing plain limits with
  | nil =>
    cases hplain
    cases hlimits
    exact ⟨[], .nil, .nil⟩
  | cons m rest ih =>
    obtain ⟨key, value⟩ := m
    obtain ⟨⟨hdated, hlast⟩, hrest⟩ := settled_cons.mp settled
    cases hplain with
    | cons hfirst hplain =>
      obtain ⟨first, hmember, hstanding⟩ := firstMember hfirst rest
      rw [hstanding] at hlimits
      cases hmember with
      | plain hkey h =>
        obtain ⟨asked, hasked, perm⟩ := ih hrest hplain hlimits
        exact ⟨_, .term h hasked, perm.cons _⟩
      | unset hkey hdate =>
        obtain ⟨asked, hasked, perm⟩ := ih hrest hplain hlimits
        cases hblank : isBlank value with
        | true => exact ⟨asked, .blank hkey hblank hasked, perm⟩
        | false => simpa [hdate] using hdated hkey hblank
      | replaced hkey hdate h =>
        exact absurd (fun later hlater => hlast later hlater (isBlank_of_date hdate)) h
      | limit hkey hdate h =>
        cases hlimits with
        | cons hterm hlimits =>
          obtain ⟨id, hid, rfl⟩ := hterm
          obtain ⟨asked, hasked, perm⟩ := ih hrest hplain hlimits
          exact ⟨_, .term (.bound hkey hdate (hid.trans hkey.trim_field)) hasked,
            (perm.cons _).trans List.perm_middle.symm⟩

/-- There are no more terms than are asked for, and fewer if the members are not settled. -/
theorem length_of_asked (h : Asked members asked)
    (hplain : List.Forall₂ (fun m t => Member.plainTerm? m = .ok t) (classified members) plain) :
    (plain.filterMap id).length + (standing (classified members)).length ≤ asked.length ∧
      (asked.length ≤ (plain.filterMap id).length + (standing (classified members)).length →
        Settled members) := by
  induction h generalizing plain with
  | nil => exact ⟨by cases hplain; simp [standing, classified], fun _ => ⟨by simp, .nil⟩⟩
  | @blank key value rest asked hkey hvalue _ ih =>
    have ungiven : isBlank value ≠ false := by simp [hvalue]
    cases hplain with
    | cons hfirst hplain =>
      obtain ⟨first, hmember, hstanding⟩ := firstMember hfirst rest
      obtain ⟨atMost, settled⟩ := ih hplain
      rw [hstanding]
      cases hmember with
      | plain hplainKey _ => exact absurd hkey hplainKey
      | unset _ _ =>
        refine ⟨atMost, fun hle => settled_cons.mpr ⟨⟨?_, ?_⟩, settled hle⟩⟩
        · exact fun _ given => absurd given ungiven
        · exact fun _ _ given => absurd given ungiven
      | replaced _ hdate _ => exact absurd (isBlank_of_date hdate) ungiven
      | limit _ hdate _ => exact absurd (isBlank_of_date hdate) ungiven
  | @term key value t rest asked h _ ih =>
    cases hplain with
    | cons hfirst hplain =>
      obtain ⟨first, hmember, hstanding⟩ := firstMember hfirst rest
      obtain ⟨atMost, settled⟩ := ih hplain
      rw [hstanding]
      cases hmember with
      | plain hkey _ =>
        rw [List.filterMap_cons_some (show id (some _) = some _ from rfl)]
        simp only [List.length_cons, List.nil_append]
        refine ⟨by omega, fun hle => settled_cons.mpr ⟨⟨?_, ?_⟩, settled (by omega)⟩⟩
        · exact fun hbound => absurd hbound hkey
        · rintro _ _ _ ⟨which, field, hown, -⟩
          exact hkey ⟨which, field, hown⟩
      -- The member is dropped, so that there are fewer terms than are asked for.
      | unset | replaced =>
        rw [List.filterMap_cons_none (show id none = none from rfl)]
        simp only [List.length_cons, List.nil_append]
        exact ⟨by omega, fun hle => by omega⟩
      | limit hkey hdate hlater =>
        rw [List.filterMap_cons_none (show id none = none from rfl)]
        simp only [List.length_cons, List.cons_append, List.nil_append]
        refine ⟨by omega, fun hle => settled_cons.mpr ⟨⟨?_, ?_⟩, settled (by omega)⟩⟩
        · exact fun _ _ => Option.isSome_of_eq_some hdate
        · exact fun later hl _ => hlater later hl

theorem countP_le_of_asked (h : Asked members asked) :
    members.countP (fun m => !isBlank m.2) ≤ asked.length := by
  induction h with
  | nil => exact Nat.le_refl 0
  | blank _ hvalue _ ih =>
    rw [List.countP_cons_of_neg (by simp [hvalue])]
    exact ih
  | term _ _ ih =>
    rw [List.countP_cons, List.length_cons]
    split <;> omega

-- ---------------------------------------------------------------------------
-- The whole filter
-- ---------------------------------------------------------------------------

theorem ofMembers_of_terms (h : terms (.object members) = .ok ts) : ofMembers members = .ok ts := by
  simp only [terms, bind_eq_ok, pure_eq_ok] at h
  obtain ⟨_, _, _, hmembers, _, _, rfl⟩ := h
  exact hmembers

/-- Nothing that is asked for is dropped if and only if the members are settled. There are then at
least as many terms as there are members with a value, and a query has just the rows that meet all
that is asked for. -/
theorem nothingDropped_iff (h : terms (.object members) = .ok ts) :
    (NothingDropped members ts ↔ Settled members) ∧
      (Settled members → members.countP (fun m => !isBlank m.2) ≤ ts.length ∧
        ∃ asked, Asked members asked ∧ asked.Perm ts ∧
          ∀ {catalog config r c}, catalog.Built → r.filter = .object members →
            compile catalog config r = .ok c →
            ∃ found q, Concerns catalog r found ts ∧ read? c.statement = some q ∧
              q.source = sourceOf found ∧
              ∀ (V : Type) (s : Store V) (tables : Tables V) (row : Row V),
                q.Admits s tables row ↔ FilterHolds s config found.entry tables row asked) := by
  obtain ⟨plain, limits, hplain, hlimits, perm⟩ := ofMembers_eq_ok (ofMembers_of_terms h)
  have ofSettled (settled : Settled members) : ∃ asked, Asked members asked ∧ asked.Perm ts := by
    obtain ⟨asked, hasked, hperm⟩ := asked_of_settled settled hplain hlimits
    exact ⟨asked, hasked, hperm.trans perm.symm⟩
  refine ⟨⟨?_, fun settled => ?_⟩, fun settled => ?_⟩
  · rintro ⟨asked, hasked, within⟩
    refine (length_of_asked hasked hplain).2 ?_
    have hle := within.length_le
    rwa [perm.length_eq, List.length_append, ← hlimits.length_eq] at hle
  · obtain ⟨asked, hasked, hperm⟩ := ofSettled settled
    exact ⟨asked, hasked, hperm.subperm⟩
  · obtain ⟨asked, hasked, hperm⟩ := ofSettled settled
    refine ⟨hperm.length_eq ▸ countP_le_of_asked hasked, asked, hasked, hperm, ?_⟩
    intro catalog config r c built hfilter hc
    obtain ⟨found, us, concerns, made, wellFormed, hwritten⟩ := compilation_of_compile built hc
    obtain rfl : ts = us := Except.ok.inj (h.symm.trans (hfilter ▸ concerns.terms))
    refine ⟨found, c.tree config.dialect, concerns, Compiled.read_statement wellFormed hwritten,
      made.source, fun V s tables row => (made.admits s).trans ⟨fun holds => ?_, fun holds => ?_⟩⟩
    · exact holds.of_perm s hperm.symm
    · exact holds.of_perm s hperm

/-- The first start is left open, so that the second is the only one. -/
def aQuarter : Json.Members :=
  [("d_StartDate", .null),
    ("name", .object [("operator", .string "contains"), ("value", .string "5%")]),
    ("d_startdate", .string "1-4-2024"), ("d_ENDDATE", .string "6/30/2024"),
    ("no", .array [.string "1", .string "2"])]

theorem nothingDropped_iff_aQuarter : ∃ ts, terms (.object aQuarter) = .ok ts ∧
    Settled aQuarter ∧ NothingDropped aQuarter ts ∧ 4 ≤ ts.length ∧ ∃ c q,
      compile orderLines {} { recordType := some "line", filter := .object aQuarter } = .ok c ∧
      read? c.statement = some q := by
  obtain ⟨ts, hts, -⟩ : ∃ ts, terms (.object aQuarter) = .ok ts ∧ ts.length = 4 :=
    exists_ok_of_toOption (by decide +kernel)
  obtain ⟨c, hc, -⟩ : ∃ c, compile orderLines {}
      { recordType := some "line", filter := .object aQuarter } = .ok c ∧ c.predicates.length = 5 :=
    exists_ok_of_toOption (by decide +kernel)
  have settled : Settled aQuarter := by decide +kernel
  obtain ⟨dropped, rows⟩ := nothingDropped_iff hts
  obtain ⟨count, asked, -, -, selects⟩ := rows settled
  obtain ⟨-, q, -, hread, -⟩ := selects built_orderLines rfl hc
  exact ⟨ts, hts, settled, dropped.mpr settled, count, c, q, hc, hread⟩

/-- A record with an operator, under a key that is that of the start of a range. -/
def aRecordForAStart : Json.Members :=
  [("trandate_startdate", .object [("operator", .string "="), ("value", .string "x")])]

/-- The record is read without an error, and asks for nothing. -/
theorem not_nothingDropped_aRecordForAStart : ∃ ts,
    terms (.object aRecordForAStart) = .ok ts ∧ ¬NothingDropped aRecordForAStart ts := by
  refine ⟨[], by decide +kernel, ?_⟩
  rintro ⟨asked, hasked, within⟩
  have given : 1 ≤ asked.length := countP_le_of_asked hasked
  exact absurd (given.trans within.length_le) (Nat.not_succ_le_zero 0)

end FilterSql.Query.Filter
