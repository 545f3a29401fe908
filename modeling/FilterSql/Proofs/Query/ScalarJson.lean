import FilterSql.Program
import FilterSql.Proofs.Json.Document
import FilterSql.Service.Answer

/-!
# Scalars in JSON

`readings_agree`: the two readings of scalars agree on all JSON values, and a scalar is read from the
value that it is written to. From the text of this value all scalars are read again but floats, which
the number reader computes from their digits and does not always get right
(`not_reread?_tenElevenths`). This holds as well of the parameters of a query, wherever they are
written (`ShowsParameters`).
-/

namespace FilterSql.Query

open Json

namespace Scalar

-- ---------------------------------------------------------------------------
-- Readings
-- ---------------------------------------------------------------------------

theorem ofJson?_eq_decode? (j : Json) : ofJson? j = decode? j := by
  cases j with
  | null | bool | string | array | object => rfl
  | number n =>
    rw [ofJson?, ofNumber]
    cases h : n.int64? <;> simp [decode?, ofKind?, h]

inductive NoScalar : Json → Prop
  | null : NoScalar .null
  | array (items : List Json) : NoScalar (.array items)
  | object (members : Members) : NoScalar (.object members)

theorem ofJson?_eq_none_iff {j : Json} : ofJson? j = none ↔ NoScalar j := by
  constructor
  · intro h
    cases j with
    | null => exact .null
    | array items => exact .array items
    | object members => exact .object members
    | bool | number | string => cases h
  · rintro (_ | _ | _) <;> rfl

theorem ofJson?_eq_int_iff {j : Json} {i : Int64} :
    ofJson? j = some (.int i) ↔ j = .number (.integer i.toInt) := by
  cases j with
  | number n =>
    rw [ofJson?, Option.some_inj, Json.number.injEq, ← Number.int64?_eq_some_iff, ofNumber]
    cases n.int64? <;> simp
  | _ => simp [ofJson?]

theorem ofJson?_eq_float_iff {j : Json} {x : Float} : ofJson? j = some (.float x) ↔
    j = .number (.float x) ∨
      ∃ n, fitsInt64 n = false ∧ j = .number (.integer n) ∧ x = Float.ofInt n := by
  cases j with
  | number n =>
    rw [ofJson?, Option.some_inj, ofNumber]
    cases h : n.int64? with
    | some i =>
      obtain rfl := Number.int64?_eq_some_iff.mp h
      refine iff_of_false nofun ?_
      rintro (other | ⟨k, wide, other, -⟩)
      · cases other
      · cases other
        rw [Number.fitsInt64_toInt] at wide
        cases wide
    | none =>
      obtain ⟨y, rfl⟩ | ⟨k, wide, rfl⟩ := Number.int64?_eq_none_iff.mp h
      · simp [Number.toFloat]
      · constructor
        · rintro ⟨⟩
          exact .inr ⟨k, wide, rfl, rfl⟩
        · rintro (other | ⟨n, -, same, rfl⟩)
          · cases other
          · cases same
            rfl
  | _ => simp [ofJson?]

-- ---------------------------------------------------------------------------
-- Values and their texts
-- ---------------------------------------------------------------------------

def IsFinite : Scalar → Prop
  | .float x => x.isFinite = true
  | .bool _ | .int _ | .text _ => True

theorem toJson_float {x : Float} (finite : x.isFinite = true) :
    (Scalar.float x).toJson = .number (.float x) := by
  rw [toJson, if_pos finite]

theorem ofJson?_toJson_iff (x : Scalar) : ofJson? x.toJson = some x ↔ x.IsFinite := by
  cases x with
  | bool | text => exact iff_of_true rfl trivial
  | int i => exact iff_of_true (ofJson?_eq_int_iff.mpr rfl) trivial
  | float x =>
    rw [IsFinite]
    by_cases finite : x.isFinite = true
    · rw [toJson_float finite]
      exact iff_of_true rfl finite
    · rw [toJson, if_neg finite]
      exact iff_of_false nofun finite

theorem exists_spells_int (i : Int64) : ∃ t : NumberText,
    Token.Spells (Scalar.int i).toJson.render.toList (.number t) ∧
      t.value? = some (.integer i.toInt) := by
  obtain ⟨t, wf, chars, value⟩ := Number.exists_parts_integer i.toInt
  have spells := Token.spells_number wf
  rw [chars] at spells
  exact ⟨t, spells, value (Number.fitsInt64_toInt i)⟩

/-- The number that the text of a float is. -/
structure Parts (x : Float) (t : NumberText) : Prop where
  wellFormed : t.WellFormed
  fractional : t.Fractional
  chars : t.chars = (Scalar.float x).toJson.render.toList

theorem exists_parts {x : Float} (finite : x.isFinite = true) : ∃ t, Parts x t := by
  obtain ⟨t, wf, fractional, chars⟩ := Number.exists_parts_float finite
  refine ⟨t, wf, fractional, ?_⟩
  rw [toJson_float finite, render, chars]

theorem Parts.spells {x : Float} {t : NumberText} (h : Parts x t) :
    Token.Spells (Scalar.float x).toJson.render.toList (.number t) := by
  rw [← h.chars]
  exact Token.spells_number h.wellFormed

theorem parse?_render_toJson {x : Scalar} (other : ∀ y, x ≠ .float y) :
    parse? x.toJson.render = some x.toJson := by
  cases x with
  | bool b => exact parse?_of_spells (Json.spells_bool b)
  | int i =>
    obtain ⟨t, spells, value⟩ := exists_spells_int i
    rw [parse?_of_spells spells, Token.value?, value]
    rfl
  | float x => exact absurd rfl (other x)
  | text s => exact parse?_of_spells (Token.spells_quote s)

theorem Parts.parse? {x : Float} {t : NumberText} (h : Parts x t) :
    Json.parse? (Scalar.float x).toJson.render = t.signed?.map fun y => .number (.float y) := by
  rw [parse?_of_spells h.spells, Token.value?, NumberText.value?_of_fractional h.fractional,
    Option.map_map]
  rfl

-- ---------------------------------------------------------------------------
-- Parameters
-- ---------------------------------------------------------------------------

/-- What a scalar becomes by being written as a text and read again. -/
def reread? (x : Scalar) : Option Scalar := (parse? x.toJson.render).bind ofJson?

def listOfJson? : Json → Option (List Scalar)
  | .array items => items.mapM ofJson?
  | _ => none

theorem reread?_of_ne_float {x : Scalar} (other : ∀ y, x ≠ .float y) : reread? x = some x := by
  have finite : x.IsFinite := by
    cases x with
    | float y => exact absurd rfl (other y)
    | _ => trivial
  rw [reread?, parse?_render_toJson other, Option.bind_some, (ofJson?_toJson_iff x).mpr finite]

theorem Parts.reread? {x : Float} {t : NumberText} (h : Parts x t) :
    Scalar.reread? (.float x) = t.signed?.map .float := by
  rw [Scalar.reread?, h.parse?]
  cases t.signed? <;> rfl

theorem mapM_bind_mapM {α β γ : Type} (f : α → Option β) (g : β → Option γ) (xs : List α) :
    (xs.mapM f).bind (·.mapM g) = xs.mapM fun x => (f x).bind g := by
  induction xs with
  | nil => rfl
  | cons x xs ih =>
    rw [List.mapM_cons, List.mapM_cons, ← ih]
    cases f x with
    | none => rfl
    | some y =>
      cases xs.mapM f with
      | none => simp
      | some ys => simp [List.mapM_cons]

theorem rewritten?_toJson (depth : Nat) (x : Scalar) :
    rewritten? depth x.toJson = parse? x.toJson.render := by
  rw [parse?_render]
  cases x with
  | bool | int | text => rfl
  | float x =>
    rw [toJson]
    split <;> rfl

theorem rewrittenItems?_toJson (depth : Nat) (xs : List Scalar) :
    rewrittenItems? depth (xs.map toJson) = xs.mapM fun x => parse? x.toJson.render := by
  induction xs with
  | nil => rfl
  | cons x xs ih =>
    rw [List.map_cons, rewrittenItems?, rewritten?_toJson, ih, List.mapM_cons]
    simp only [Option.map_eq_bind]
    rfl

theorem bind_listOfJson? (depth : Nat) (xs : List Scalar) :
    ((rewrittenItems? depth (xs.map toJson)).map Json.array).bind listOfJson? =
      xs.mapM reread? := by
  rw [rewrittenItems?_toJson, Option.bind_map]
  exact mapM_bind_mapM ..

theorem bind_listOfJson?_parse? (xs : List Scalar) :
    (parse? (Json.array (xs.map toJson)).render).bind listOfJson? = xs.mapM reread? := by
  rw [parse?_render]
  exact bind_listOfJson? ..

-- ---------------------------------------------------------------------------
-- Answers
-- ---------------------------------------------------------------------------

def debugged? (answer : Json) : Option (List Scalar) :=
  ((answer.get? "debug").bind (·.get? "params")).bind listOfJson?

/-- The parameters of a query are written where it is debugged and where it is compiled. In the text
of an answer they come back one by one, if the rest of it can be read as well. -/
structure ShowsParameters (c : Compiled) : Prop where
  debugged : ∀ (clock : Service.Clock) (body : Service.QueryBody) (e : Execution),
    body.wantsDebug = true →
    (parse? (Service.success clock body c e).content.text).bind debugged? =
      (parse? (Json.object e.envelope).render).bind fun _ =>
        (parse? (Json.object (e.stats clock.elapsedMs)).render).bind fun _ =>
          c.statement.params.mapM reread?
  reported : ∃ head line, Program.report c = head ++ "-- params: " ++ line ++ "\n" ∧
    (parse? line).bind listOfJson? = c.statement.params.mapM reread?

theorem rewrittenMembers?_stats (depth depth' : Nat) (e : Execution) (elapsedMs : Nat) :
    rewrittenMembers? depth (e.stats elapsedMs) = rewrittenMembers? depth' (e.stats elapsedMs) := by
  simp only [Execution.stats, Json.ofNat, ofInt, rewrittenMembers?, rewritten?]

theorem rewritten?_debugInfo (depth : Nat) (clock : Service.Clock) (c : Compiled) (e : Execution) :
    (rewritten? (depth + 2) (Service.debugInfo clock c e)).bind (·.get? "params") =
      (rewrittenMembers? depth (e.stats clock.elapsedMs)).bind fun _ =>
        (rewrittenItems? depth (c.statement.params.map toJson)).map .array := by
  have found (params stats : Json) : (Json.object (Members.ofWritten
      [("sql", .string c.statement.sql), ("params", params), ("baseTable", .string c.table),
        ("alias", .string c.aliasName), ("executionInfo", stats)])).get? "params" =
      some params := rfl
  simp only [Service.debugInfo, rewritten?, rewrittenMembers?, Nat.add_one_sub_one,
    Option.bind_some, Option.map_some]
  cases rewrittenMembers? depth (e.stats clock.elapsedMs) with
  | none => simp
  | some stats =>
    cases rewrittenItems? depth (c.statement.params.map toJson) with
    | none => rfl
    | some params => simp [found]

theorem rewritten?_optionalString (depth : Nat) (s : Option String) :
    rewritten? depth (Service.optionalString s) = some (Service.optionalString s) := by
  cases s <;> rfl

theorem get?_debug_success {body : Service.QueryBody} (wanted : body.wantsDebug = true)
    (clock : Service.Clock) (c : Compiled) (e : Execution) :
    (parse? (Service.success clock body c e).content.text).bind (·.get? "debug") =
      (rewrittenMembers? (maxDepth - 1) e.envelope).bind fun _ =>
        rewritten? (maxDepth - 1) (Service.debugInfo clock c e) := by
  have text : (Service.success clock body c e).content.text = (Json.object (e.envelope ++
      [("recordType", Service.optionalString body.recordType), ("timestamp", .string clock.now),
        ("version", .string Service.version)] ++
      [("debug", Service.debugInfo clock c e)])).render := by
    rw [Service.success, wanted, if_pos rfl]
    rfl
  have found (before : Members) (j : Json) :
      (Json.object (Members.ofWritten (before ++ [("debug", j)]))).get? "debug" = some j :=
    Members.get?_ofWritten_append before "debug" j
  rw [text, parse?_render, rewritten?, if_neg (by decide), rewrittenMembers?_append,
    rewrittenMembers?_append]
  cases rewrittenMembers? (maxDepth - 1) e.envelope with
  | none => rfl
  | some envelope =>
    simp only [rewrittenMembers?, rewritten?_optionalString, rewritten?, Option.bind_some,
      Option.map_some]
    cases rewritten? (maxDepth - 1) (Service.debugInfo clock c e) with
    | none => rfl
    | some j => exact found (envelope ++ [_, _, _]) j

theorem bind_debugged? (read : Option Json) : read.bind debugged? =
    ((read.bind (·.get? "debug")).bind (·.get? "params")).bind listOfJson? := by
  cases read <;> rfl

theorem parse?_object_bind {α : Type} (ms : Members) (x : Option α) :
    ((parse? (Json.object ms).render).bind fun _ => x) =
      (rewrittenMembers? (maxDepth - 1) ms).bind fun _ => x := by
  rw [parse?_render, rewritten?, if_neg (by decide), Option.bind_map]
  rfl

theorem showsParameters (c : Compiled) : ShowsParameters c where
  debugged clock body e wanted := by
    have explained : (rewritten? (maxDepth - 1) (Service.debugInfo clock c e)).bind
        (·.get? "params") = (rewrittenMembers? (maxDepth - 3) (e.stats clock.elapsedMs)).bind
          fun _ => (rewrittenItems? (maxDepth - 3) (c.statement.params.map toJson)).map .array :=
      rewritten?_debugInfo (maxDepth - 3) clock c e
    rw [bind_debugged?, get?_debug_success wanted, Option.bind_assoc, parse?_object_bind,
      parse?_object_bind, rewrittenMembers?_stats _ (maxDepth - 3), Option.bind_assoc]
    refine Option.bind_congr fun _ _ => ?_
    rw [← Option.bind_assoc, explained, Option.bind_assoc]
    exact Option.bind_congr fun _ _ => bind_listOfJson? ..
  reported := ⟨_, _, rfl, bind_listOfJson?_parse? _⟩

/-- How scalars are read, and what is read where they are written: as values, as texts, and as the
parameters of a query. -/
theorem readings_agree :
    (∀ j, ofJson? j = decode? j) ∧
    (∀ j, decode? j = none ↔ NoScalar j) ∧
    (∀ j i, ofJson? j = some (.int i) ↔ j = .number (.integer i.toInt)) ∧
    (∀ j x, ofJson? j = some (.float x) ↔ j = .number (.float x) ∨
      ∃ n, fitsInt64 n = false ∧ j = .number (.integer n) ∧ x = Float.ofInt n) ∧
    (∀ x, ofJson? x.toJson = some x ↔ x.IsFinite) ∧
    (∀ x, (∀ y, x ≠ .float y) → reread? x = some x) ∧
    (∀ x, x.isFinite = true → ∃ t, Parts x t ∧ reread? (.float x) = t.signed?.map .float) ∧
    ∀ c : Compiled, ShowsParameters c := by
  refine ⟨ofJson?_eq_decode?, fun j => ?_, fun _ _ => ofJson?_eq_int_iff,
    fun _ _ => ofJson?_eq_float_iff, ofJson?_toJson_iff, fun _ => reread?_of_ne_float,
    fun x finite => ?_, showsParameters⟩
  · rw [← ofJson?_eq_decode?, ofJson?_eq_none_iff]
  · obtain ⟨t, parts⟩ := exists_parts finite
    exact ⟨t, parts, parts.reread?⟩

/-- The sixteen digits of this float are no float by themselves. They are rounded before they are
scaled, which leads to the next one. -/
theorem not_reread?_tenElevenths :
    IsFinite (.float 0.9090909090909091) ∧
      reread? (.float 0.9090909090909091) = some (.float 0.9090909090909092) ∧
      reread? (.float 0.9090909090909091) ≠ some (.float 0.9090909090909091) := by
  have finite : (0.9090909090909091 : Float).isFinite = true := by decide +kernel
  refine ⟨finite, ?_, ?_⟩ <;> decide +kernel

def sharesOfBranch : Request where
  recordType := some "customer"
  filter := .object
    [("branch", .number (.integer 2)), ("share", .number (.float 0.9090909090909091))]

def noRows : Execution := ⟨[], 100, none, 0⟩

/-- Both who debugs and who compiles a query is shown the integer that is bound, and of the float the
digits, which are read as the next one. -/
theorem readings_agree_sharesOfBranch : ∃ c head line,
    compile .builtin {} sharesOfBranch = .ok c ∧
    c.statement.params = [.int 2, .float 0.9090909090909091] ∧
    (parse? (Service.success ⟨"", 0⟩ { debug := some true } c noRows).content.text).bind debugged? =
      some [.int 2, .float 0.9090909090909092] ∧
    Program.report c = head ++ "-- params: " ++ line ++ "\n" ∧
    (parse? line).bind listOfJson? = some [.int 2, .float 0.9090909090909092] := by
  obtain ⟨c, compiles, params⟩ := exists_ok_of_toOption
    (show (compile .builtin {} sharesOfBranch).toOption.map (·.statement.params) =
      some [.int 2, .float 0.9090909090909091] by decide +kernel)
  have back : c.statement.params.mapM reread? = some [.int 2, .float 0.9090909090909092] := by
    rw [params]
    decide +kernel
  obtain ⟨-, -, -, -, -, -, -, shows⟩ := readings_agree
  obtain ⟨debugged, head, line, report, reported⟩ := shows c
  have answer := debugged ⟨"", 0⟩ { debug := some true } noRows rfl
  have envelope : (parse? (Json.object noRows.envelope).render).isSome = true := by decide +kernel
  have stats : (parse? (Json.object (noRows.stats 0)).render).isSome = true := by decide +kernel
  obtain ⟨_, envelope⟩ := Option.isSome_iff_exists.mp envelope
  obtain ⟨_, stats⟩ := Option.isSome_iff_exists.mp stats
  rw [envelope, stats, Option.bind_some, Option.bind_some, back] at answer
  exact ⟨c, head, line, compiles, params, answer, report, reported.trans back⟩

end Scalar

end FilterSql.Query
