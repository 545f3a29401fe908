import FilterSql.Proofs.Query.DateSpelling
import FilterSql.Proofs.Query.FilterShapes
import FilterSql.Proofs.Query.SameField

/-!
# Ranges of days

A range of days can be asked for by two bounds in a flat object, by two comparisons, or by one term
with both dates. `range_queries_agree`: these are the same query, on every field and in both
dialects, and with both dates on one day it is that of equality with the day.
-/

namespace FilterSql.Query

open Sql

-- ---------------------------------------------------------------------------
-- Ways to write a filter
-- ---------------------------------------------------------------------------

namespace Filter

/-- A filter that lists the records, in any of the four shapes that can be told from the others. -/
inductive Lists (pairs : List (String × Json.Members)) : Json → Prop
  | field : Lists pairs (named "field" pairs)
  | fieldName : Lists pairs (named "field_name" pairs)
  | keyed (h : ∃ p ∈ pairs, p.1 ≠ "field") : Lists pairs (keyed pairs)
  | flat (distinct : (pairs.map Prod.fst).Nodup) (plain : ∀ p ∈ pairs, ¬IsBound p.1) :
    Lists pairs (flat pairs)

theorem Lists.terms {pairs : List (String × Json.Members)} (h : Lists pairs g)
    (unnamed : ∀ p ∈ pairs, Unnamed p.2) (short : pairs.length ≤ maxTerms) :
    Filter.terms g = described pairs := by
  rw [← shaped_eq_described short]
  cases h with
  | field => exact terms_array ofArray_named_field
  | fieldName => exact terms_array (ofArray_named_fieldName unnamed)
  | keyed h => exact terms_array (ofArray_keyed (.inr h))
  | flat distinct plain => exact terms_flat distinct unnamed plain

def comparing (token s : String) : Json.Members :=
  [("operator", .string token), ("value", .string s)]

def ranging (token s e : String) : Json.Members :=
  [("operator", .string token), ("startdate", .string s), ("enddate", .string e)]

/-- The filter asks for the days of a field from one date to another. -/
inductive AsksRange (field s e : String) : Json → Prop
  | startFirst : AsksRange field s e
    (.object [(field ++ "_startdate", .string s), (field ++ "_enddate", .string e)])
  | endFirst : AsksRange field s e
    (.object [(field ++ "_enddate", .string e), (field ++ "_startdate", .string s)])
  | comparisons (hlower : Operator.ofToken? lower = some .greaterThanOrEqual)
    (hupper : Operator.ofToken? upper = some .lessThanOrEqual)
    (h : Lists [(field, comparing lower s), (field, comparing upper e)] g) : AsksRange field s e g
  | range (htoken : Operator.ofToken? token = some .dateRange)
    (h : Lists [(field, ranging token s e)] g) : AsksRange field s e g

inductive AsksDay (field s : String) : Json → Prop
  | equal (htoken : Operator.ofToken? token = some .equals)
    (h : Lists [(field, comparing token s)] g) : AsksDay field s g
  | dateEqual (htoken : Operator.ofToken? token = some .dateEquals)
    (h : Lists [(field, comparing token s)] g) : AsksDay field s g
  | value (plain : ¬IsBound field) : AsksDay field s (.object [(field, .string s)])

end Filter

-- ---------------------------------------------------------------------------
-- Terms
-- ---------------------------------------------------------------------------

def Term.comparing (field : Identifier) (op : Operator) (s : String) : Term :=
  { field, op, value := some (.text s) }

def Term.bounds (field : Identifier) (s e : String) : List Term :=
  [.comparing field .greaterThanOrEqual s, .comparing field .lessThanOrEqual e]

def Term.ranging (field : Identifier) (s e : String) : Term :=
  { field, op := .dateRange, startDate := some s, endDate := some e }

/-- The phrases of the days from the start of the first window up to the end of the last. -/
def rangeOn (d : Dialect) (first last : DayWindow) (c : Column) : List (List Lexeme) :=
  Condition.rangePhrases d c first.start last.next

variable {config : Config} {field : Identifier} {first last : DayWindow}

theorem asks_comparisons (aware : config.dateAware = true) (hs : DayWindow.ofText? s = some first)
    (he : DayWindow.ofText? e = some last) :
    Asks config field (rangeOn config.dialect first last) (Term.bounds field s e) := by
  refine ⟨List.cons_ne_nil _ _, by simp [Term.bounds, Term.comparing], fun a => ?_⟩
  have lower := Term.condition_of_comparesDays (t := .comparing field .greaterThanOrEqual s) aware
    (.aware rfl) rfl hs a
  have upper := Term.condition_of_comparesDays (t := .comparing field .lessThanOrEqual e) aware
    (.aware rfl) rfl he a
  let c : Column := ⟨a, field.text⟩
  refine ⟨fun t => if t.op = .lessThanOrEqual then .bound c .lt last.next
    else .bound c .ge first.start, ?_, rfl⟩
  simp only [Term.bounds, List.forall_mem_cons, List.not_mem_nil, false_implies, implies_true,
    and_true]
  exact ⟨lower, upper⟩

theorem asks_range (hs : DayWindow.ofText? s = some first) (he : DayWindow.ofText? e = some last) :
    Asks config field (rangeOn config.dialect first last) [.ranging field s e] := by
  refine ⟨by simp, by simp [Term.ranging], fun a => ?_⟩
  refine ⟨fun _ => .within ⟨a, field.text⟩ first.start last.next, ?_, rfl⟩
  have hfirst := (Term.window?_text s).trans hs
  have hlast := (Term.window?_text e).trans he
  rintro _ (_ | ⟨_, ⟨⟩⟩)
  simp only [Term.condition_eq, Term.ranging, Operator.kind, Term.conditionOfKind, Term.dateRange,
    Term.requiredDay, hfirst, hlast]
  rfl

theorem asks_day (aware : config.dateAware = true) (hs : DayWindow.ofText? s = some w)
    (hop : op.ComparesDays .eq) :
    Asks config field (rangeOn config.dialect w w) [.comparing field op s] := by
  refine ⟨by simp, by simp [Term.comparing], fun a => ?_⟩
  refine ⟨fun _ => .within ⟨a, field.text⟩ w.start w.next, ?_, rfl⟩
  rintro _ (_ | ⟨_, ⟨⟩⟩)
  exact Term.condition_of_comparesDays (t := .comparing field op s) aware hop rfl hs a

-- ---------------------------------------------------------------------------
-- The terms of the filters
-- ---------------------------------------------------------------------------

theorem fieldIdentifier_text (field : Identifier) : fieldIdentifier field.text = .ok field := by
  refine Identifier.check_eq_ok.mpr ?_
  rw [trim_of_isSafeIdentifier field.safe]

namespace Filter

theorem ofSpec_comparing (htoken : Operator.ofToken? token = some op) (s : String) :
    Term.ofSpec field.text (comparing token s) = .ok (.comparing field op s) := by
  simp [Term.ofSpec, fieldIdentifier_text, Term.operatorOf, htoken, comparing, Json.Members.get?,
    Keyed.lookup_cons_eq_ite, Term.listOperand, Term.listInValue,
    Term.dateUnder, Term.comparing, Scalar.ofJson?, bind, Except.bind, pure, Except.pure]

theorem ofSpec_ranging (htoken : Operator.ofToken? token = some .dateRange)
    (hs : normalizeDate? s = some start) (he : normalizeDate? e = some finish) :
    Term.ofSpec field.text (ranging token s e) = .ok (.ranging field start finish) := by
  simp [Term.ofSpec, fieldIdentifier_text, Term.operatorOf, htoken, ranging, Json.Members.get?,
    Keyed.lookup_cons_eq_ite, Term.listOperand, Term.listInValue,
    Term.dateUnder, Term.ranging, dateText?, hs, he, bind, Except.bind, pure, Except.pure]

theorem boundKey_append (field : Identifier) (which : Bound) :
    BoundKey which field.text (field.text ++ which.suffix) := by
  refine ⟨field.text, ⟨which.suffix, rfl, ?_⟩, trim_of_isSafeIdentifier field.safe⟩
  cases which <;> decide

theorem range_terms (field : Identifier) (start finish : String) :
    Range.terms ⟨field.text, some start, some finish⟩ = .ok (Term.bounds field start finish) := by
  rw [Range.terms, fieldIdentifier_text]
  rfl

theorem ofMembers_bounds (field : Identifier) (hs : normalizeDate? s = some start)
    (he : normalizeDate? e = some finish) (members : Json.Members)
    (h : members =
        [(field.text ++ "_startdate", .string s), (field.text ++ "_enddate", .string e)] ∨
      members =
        [(field.text ++ "_enddate", .string e), (field.text ++ "_startdate", .string s)]) :
    ofMembers members = .ok (Term.bounds field start finish) := by
  have lower := classify_of_boundKey (boundKey_append field .start) (.string s)
  have upper := classify_of_boundKey (boundKey_append field .finish) (.string e)
  simp only [Bound.suffix] at lower upper
  have hrange : ranges (members.map fun m => classify m.1 m.2) =
      [⟨field.text, some start, some finish⟩] := by
    rcases h with rfl | rfl
    · simp [ranges, lower, upper, setBound, Range.set, dateText?, hs, he]
    · simp [ranges, lower, upper, setBound, Range.set, dateText?, hs, he]
  have hplain : (members.map fun m => classify m.1 m.2).mapM Member.plainTerm? =
      .ok [none, none] := by
    rcases h with rfl | rfl
    · simp only [List.map_cons, lower, upper]
      rfl
    · simp only [List.map_cons, lower, upper]
      rfl
  simp only [ofMembers, hrange, hplain, List.mapM_cons, range_terms]
  rfl

theorem ofMembers_value (plain : ¬IsBound field.text) (s : String) :
    ofMembers [(field.text, .string s)] = .ok [.comparing field .equals s] := by
  have hplain : classify field.text (.string s) = .plain field.text (.string s) := by
    rcases classify_cases field.text (.string s) with ⟨which, name, hkey, -⟩ | ⟨-, hc⟩
    · exact absurd ⟨which, name, hkey⟩ plain
    · exact hc
  simp only [ofMembers, List.map_cons, List.map_nil, hplain, List.mapM_cons, Member.plainTerm?,
    plainTerm, fieldIdentifier_text]
  rfl

theorem terms_object (h : ofMembers members = .ok ts) (hmembers : members.length ≤ 2)
    (hts : ts.length ≤ 2) : Filter.terms (.object members) = .ok ts := by
  have short {n : Nat} (h : n ≤ 2) : checkCount n = .ok () :=
    checkCount_ok (Nat.le_trans h (by decide))
  simp only [Filter.terms, short hmembers, h, bind, Except.bind, short hts]
  rfl

theorem unnamed_comparing (token s : String) : Unnamed (comparing token s) := ⟨rfl, rfl, rfl⟩

theorem unnamed_ranging (token s e : String) : Unnamed (ranging token s e) := ⟨rfl, rfl, rfl⟩

theorem AsksRange.terms (aware : config.dateAware = true) (hs : DayWindow.ofText? s = some first)
    (he : DayWindow.ofText? e = some last) (h : AsksRange field.text s e g) :
    ∃ ts, Filter.terms g = .ok ts ∧ Asks config field (rangeOn config.dialect first last) ts := by
  obtain ⟨hstart, hs'⟩ := DayWindow.ofText?_start hs
  obtain ⟨hfinish, he'⟩ := DayWindow.ofText?_start he
  cases h with
  | startFirst =>
    have read := ofMembers_bounds field hstart hfinish _ (.inl rfl)
    exact ⟨_, terms_object read (Nat.le_refl 2) (Nat.le_refl 2), asks_comparisons aware hs' he'⟩
  | endFirst =>
    have read := ofMembers_bounds field hstart hfinish _ (.inr rfl)
    exact ⟨_, terms_object read (Nat.le_refl 2) (Nat.le_refl 2), asks_comparisons aware hs' he'⟩
  | @comparisons lower upper _ hlower hupper h =>
    have listed := h.terms (by simp [unnamed_comparing]) (by simp [maxTerms])
    refine ⟨_, listed.trans ?_, asks_comparisons aware hs he⟩
    simp only [described, List.mapM_cons, ofSpec_comparing hlower, ofSpec_comparing hupper]
    rfl
  | range htoken h =>
    have listed := h.terms (by simp [unnamed_ranging]) (by simp [maxTerms])
    refine ⟨_, listed.trans ?_, asks_range hs' he'⟩
    simp only [described, List.mapM_cons, ofSpec_ranging htoken hstart hfinish]
    rfl

theorem AsksDay.terms (aware : config.dateAware = true) (hs : DayWindow.ofText? s = some w)
    (h : AsksDay field.text s g) :
    ∃ ts, Filter.terms g = .ok ts ∧ Asks config field (rangeOn config.dialect w w) ts := by
  have listed {token : String} {op : Operator} {g : Json}
      (htoken : Operator.ofToken? token = some op)
      (h : Lists [(field.text, comparing token s)] g) :
      Filter.terms g = .ok [.comparing field op s] := by
    rw [h.terms (by simp [unnamed_comparing]) (by simp [maxTerms]), described, List.mapM_cons,
      ofSpec_comparing htoken]
    rfl
  cases h with
  | equal htoken h => exact ⟨_, listed htoken h, asks_day aware hs (.aware rfl)⟩
  | dateEqual htoken h => exact ⟨_, listed htoken h, asks_day aware hs (.always rfl)⟩
  | value plain =>
    exact ⟨_, terms_object (ofMembers_value plain s) (Nat.le_succ 1) (Nat.le_succ 1),
      asks_day aware hs (.aware rfl)⟩

end Filter

-- ---------------------------------------------------------------------------
-- All queries
-- ---------------------------------------------------------------------------

/-- However a range of days is asked for, it is the same query, and no reason to refuse one. If both
dates are the same day, in whatever spellings, it is the query for that day. -/
theorem range_queries_agree (built : catalog.Built) (aware : config.dateAware = true)
    (field : Identifier) (hs : DayWindow.ofText? s = some first)
    (he : DayWindow.ofText? e = some last) (r : Request) :
    (∀ f g, Filter.AsksRange field.text s e f → Filter.AsksRange field.text s e g →
      queryWith catalog config r f = queryWith catalog config r g) ∧
    (∀ f q, Filter.AsksRange field.text s e f → queryWith catalog config r .null = .ok q →
      ∃ q', queryWith catalog config r f = .ok q') ∧
    ∀ d, DenotesDate s d → DenotesDate e d → ∀ f g, Filter.AsksRange field.text s e f →
      Filter.AsksDay field.text s g →
      queryWith catalog config r f = queryWith catalog config r g := by
  refine ⟨fun f g hf hg => ?_, fun f q hf hq => ?_, fun d hsd hed f g hf hg => ?_⟩
  · obtain ⟨ts, hts, asks⟩ := hf.terms aware hs he
    obtain ⟨us, hus, asks'⟩ := hg.terms aware hs he
    exact queryWith_eq built hts hus asks asks' r
  · obtain ⟨ts, hts, asks⟩ := hf.terms aware hs he
    exact queryWith_ok built hts asks r hq
  · have window {s : String} {w : DayWindow} (h : DenotesDate s d)
        (hw : DayWindow.ofText? s = some w) : w = ⟨d.text, d.next.text⟩ :=
      Option.some.inj (hw.symm.trans (DayWindow.ofText?_eq_some_iff.mpr ⟨d, h, rfl⟩))
    obtain rfl : first = last := (window hsd hs).trans (window hed he).symm
    obtain ⟨ts, hts, asks⟩ := hf.terms aware hs he
    obtain ⟨us, hus, asks'⟩ := hg.terms aware hs
    exact queryWith_eq built hts hus asks asks' r

/-- The second of January 2024 in a column of the header, in two spellings. -/
theorem range_queries_agree_onHeader : orderLines.Built ∧
    DayWindow.ofText? " 1/2/2024" = some ⟨"2024-01-02", "2024-01-03"⟩ ∧
    DayWindow.ofText? "2-1-2024" = some ⟨"2024-01-02", "2024-01-03"⟩ ∧
    ∃ q, q.sql = "SELECT l.* FROM line l WHERE l.fk IN (SELECT h.id FROM head h WHERE " ++
        "h.name >= TO_DATE(?, 'YYYY-MM-DD') AND h.name < TO_DATE(?, 'YYYY-MM-DD')) " ++
        "AND l.kind = ? ORDER BY (SELECT h.name FROM head h WHERE h.id = l.fk) ASC" ∧
      queryWith orderLines ⟨.suiteql, true⟩ linesOfADay
        (.object [("name_enddate", .string "2-1-2024"), ("name_startdate", .string " 1/2/2024")]) =
          .ok q ∧
      queryWith orderLines ⟨.suiteql, true⟩ linesOfADay
        (Filter.named "field" [("name", Filter.comparing ">=" " 1/2/2024"),
          ("name", Filter.comparing "<=" "2-1-2024")]) = .ok q ∧
      queryWith orderLines ⟨.suiteql, true⟩ linesOfADay
        (Filter.flat [("name", Filter.comparing "Date_Equals" " 1/2/2024")]) = .ok q := by
  have january : ∃ d : Calendar.Date, DenotesDate " 1/2/2024" d ∧ DenotesDate "2-1-2024" d := by
    have inRange : Calendar.Date.InRange ⟨2024, 1, 2⟩ :=
      ⟨by decide +kernel, by decide, by decide⟩
    exact ⟨⟨2024, 1, 2⟩, denotesDate_iff.mpr ⟨inRange, by decide +kernel⟩,
      denotesDate_iff.mpr ⟨inRange, by decide +kernel⟩⟩
  obtain ⟨d, hsd, hed⟩ := january
  have hs : DayWindow.ofText? " 1/2/2024" = some ⟨"2024-01-02", "2024-01-03"⟩ := by decide +kernel
  have he : DayWindow.ofText? "2-1-2024" = some ⟨"2024-01-02", "2024-01-03"⟩ := by decide +kernel
  have aware : Config.dateAware ⟨.suiteql, true⟩ = true := rfl
  obtain ⟨same, -, sameDay⟩ := range_queries_agree built_orderLines aware ⟨"name", by decide⟩ hs he
    linesOfADay
  obtain ⟨q, hq, hsql⟩ := exists_ok_of_toOption (f := Fragment.sql)
    (x := queryWith orderLines ⟨.suiteql, true⟩ linesOfADay
      (.object [("name_enddate", .string "2-1-2024"), ("name_startdate", .string " 1/2/2024")]))
    (b := "SELECT l.* FROM line l WHERE l.fk IN (SELECT h.id FROM head h WHERE " ++
      "h.name >= TO_DATE(?, 'YYYY-MM-DD') AND h.name < TO_DATE(?, 'YYYY-MM-DD')) " ++
      "AND l.kind = ? ORDER BY (SELECT h.name FROM head h WHERE h.id = l.fk) ASC")
    (by decide +kernel)
  refine ⟨built_orderLines, hs, he, q, hsql, hq, ?_, ?_⟩
  · rw [← same _ _ .endFirst (.comparisons (by decide +kernel) (by decide +kernel) .field), ← hq]
    rfl
  · rw [← sameDay d hsd hed _ _ .endFirst (.dateEqual (by decide +kernel)
      (.flat (by decide) (by decide +kernel))), ← hq]
    rfl

end FilterSql.Query
