import FilterSql.Proofs.Json.NumberLayout
import FilterSql.Proofs.Json.StringText
import FilterSql.Proofs.Text.Joined

/-!
# Values as they are written

`parse?_render`: a value that is written and read again comes back with its numbers as the number
reader reads them, each from its own text, and with repeated members merged. It does not come back if
it is nested too deeply, or if one of its numbers has no number in its text.
-/

namespace FilterSql.Json

-- ---------------------------------------------------------------------------
-- What comes back
-- ---------------------------------------------------------------------------

mutual

/-- What is read from the text of a value that has at most `depth` levels of nesting. -/
def rewritten? (depth : Nat) : Json → Option Json
  | .null => some .null
  | .bool b => some (.bool b)
  | .number n => parse? n.text
  | .string s => some (.string s)
  | .array items =>
    if depth = 0 then none else (rewrittenItems? (depth - 1) items).map .array
  | .object members =>
    if depth = 0 then none
    else (rewrittenMembers? (depth - 1) members).map fun ms => .object (Members.ofWritten ms)

def rewrittenItems? (depth : Nat) : List Json → Option (List Json)
  | [] => some []
  | j :: js => (rewritten? depth j).bind fun v => (rewrittenItems? depth js).map (v :: ·)

def rewrittenMembers? (depth : Nat) : List (String × Json) → Option (List (String × Json))
  | [] => some []
  | (key, j) :: ms =>
    (rewritten? depth j).bind fun v => (rewrittenMembers? depth ms).map ((key, v) :: ·)

end

theorem rewrittenMembers?_append (depth : Nat) (ms ms' : List (String × Json)) :
    rewrittenMembers? depth (ms ++ ms') = (rewrittenMembers? depth ms).bind fun written =>
      (rewrittenMembers? depth ms').map (written ++ ·) := by
  induction ms with
  | nil => simp [rewrittenMembers?]
  | cons m ms ih =>
    obtain ⟨key, j⟩ := m
    rw [List.cons_append, rewrittenMembers?, rewrittenMembers?, ih]
    simp [Option.map_bind, Option.bind_assoc, Option.bind_map, Function.comp_def]

namespace Members

theorem get?_insert_self (key : String) (value : Json) (ms : Members) :
    (insert key value ms).get? key = some value := by
  induction ms with
  | nil => simp [insert, get?]
  | cons m ms ih =>
    obtain ⟨k, v⟩ := m
    unfold insert
    split
    · simp [get?]
    · have other : key ≠ k := Ne.symm ‹_›
      rw [get?] at ih ⊢
      rw [List.lookup_cons, beq_eq_false_iff_ne.mpr other]
      exact ih

theorem get?_ofWritten_append (ms : Members) (key : String) (value : Json) :
    (ofWritten (ms ++ [(key, value)])).get? key = some value := by
  rw [ofWritten, List.foldl_append]
  exact get?_insert_self ..

end Members

-- ---------------------------------------------------------------------------
-- The texts of numbers
-- ---------------------------------------------------------------------------

namespace Number

/-- The text of a float that is infinite or no number starts no token. -/
theorem lexChars_text_of_not_isFinite {x : Float} (h : ¬ x.isFinite = true) (rest : List Char) :
    Token.lexChars ((Number.float x).text.toList ++ rest) = [.malformed] := by
  rw [← Decimal.Reading.isFinite_ofFloat] at h
  rw [text]
  cases reading : Decimal.Reading.ofFloat x with
  | nan => exact Token.lexChars_of_next?_eq_none rfl rfl
  | infinite negative =>
    cases negative with
    | false => exact Token.lexChars_of_next?_eq_none rfl rfl
    | true => exact Token.lexChars_of_next?_eq_none rfl rfl
  | finite negative m => exact absurd (by rw [reading]; rfl) h

theorem exists_parts_or_isFinite (n : Number) :
    (∃ t : NumberText, Token.Spells n.text.toList (.number t)) ∨
      ∃ x : Float, ¬ x.isFinite = true ∧ n = .float x := by
  cases n with
  | integer n =>
    obtain ⟨t, wf, chars, -⟩ := exists_parts_integer n
    exact .inl ⟨t, chars ▸ Token.spells_number wf⟩
  | float x =>
    by_cases finite : x.isFinite = true
    · obtain ⟨t, wf, -, chars⟩ := exists_parts_float finite
      exact .inl ⟨t, chars ▸ Token.spells_number wf⟩
    · exact .inr ⟨x, finite, rfl⟩

end Number

-- ---------------------------------------------------------------------------
-- Reading from the middle of a text
-- ---------------------------------------------------------------------------

namespace Machine

open Token

variable {depth : Nat} {m : Machine Json} {cs rest : List Char} {t : Token}

def readFrom (depth : Nat) (m : Machine Json) (cs : List Char) : Option (Json × List Token) :=
  m.run Builder.json (some depth) (lexChars cs)

def resume (depth : Nat) (rest : List Char) : Step Json → Option (Json × List Token)
  | .finished value => some (value, lexChars rest)
  | .running m => readFrom depth m rest

theorem readFrom_of_lexChars (h : lexChars cs = t :: lexChars rest) :
    readFrom depth m cs = (m.step Builder.json (some depth) t).bind (resume depth rest) := by
  rw [readFrom, h, run]
  cases m.step Builder.json (some depth) t with
  | none => rfl
  | some s => cases s <;> rfl

theorem step_malformed : m.step Builder.json (some depth) .malformed = none := by
  obtain ⟨stack, await⟩ := m
  cases await <;> cases stack with
  | nil => rfl
  | cons f _ => cases f <;> rfl

theorem readFrom_of_malformed (h : lexChars cs = [.malformed]) : readFrom depth m cs = none := by
  rw [readFrom, h, run, step_malformed]

theorem readFrom_cons {c : Char} (visible : isBlank c = false)
    (h : next? (c :: cs) = some (t, cs)) :
    readFrom depth m (c :: cs) = (m.step Builder.json (some depth) t).bind (resume depth cs) :=
  readFrom_of_lexChars (lexChars_of_next? visible h)

end Machine

-- ---------------------------------------------------------------------------
-- Values in a text
-- ---------------------------------------------------------------------------

section

open Machine Token

variable {depth d : Nat} {stack : List (Frame Json)} {rest : List Char}

/-- Where a value is due, the machine makes of its text what `rewritten?` makes of the value,
whatever is open around it. -/
def Reads (j : Json) : Prop :=
  ∀ ⦃depth d : Nat⦄ ⦃stack : List (Frame Json)⦄ ⦃await : Await⦄ ⦃rest : List Char⦄,
    await = .value ∨ await = .firstItem → stack.length + d = depth → EndsValue rest →
    readFrom depth ⟨stack, await⟩ (j.render.toList ++ rest) =
      (rewritten? d j).bind fun v => resume depth rest (give v stack)

theorem reads_of_spells {j : Json} {t : Token} (spells : t.Spells j.render.toList)
    (value : ∀ d, rewritten? d j = t.value?) : Reads j := by
  intro depth d stack await rest ready _ ends
  rw [readFrom_of_lexChars (spells.lexChars ends), step_atom ready spells.atom, value,
    Option.bind_map]
  rfl

theorem spells_null : Spells Json.null.render.toList .null :=
  ⟨rfl, by rintro _ ⟨⟩; rfl, fun _ _ => rfl⟩

theorem spells_bool (b : Bool) : Spells (Json.bool b).render.toList (.bool b) := by
  cases b with
  | true => exact ⟨rfl, by rintro _ ⟨⟩; rfl, fun _ _ => rfl⟩
  | false => exact ⟨rfl, by rintro _ ⟨⟩; rfl, fun _ _ => rfl⟩

theorem reads_number (n : Number) : Reads (.number n) := by
  have text : (Json.number n).render = n.text := rfl
  rcases n.exists_parts_or_isFinite with ⟨t, spells⟩ | ⟨x, infinite, rfl⟩
  · exact reads_of_spells spells fun d => by rw [rewritten?, parse?_of_spells spells]
  · have refused : parse? (Number.float x).text = none := by
      have alone := Number.lexChars_text_of_not_isFinite infinite []
      rw [List.append_nil] at alone
      rw [parse?, Token.lex, alone]
      rfl
    intro depth d stack await rest _ _ _
    rw [text, readFrom_of_malformed (Number.lexChars_text_of_not_isFinite infinite rest),
      rewritten?, refused, Option.bind_none]

-- ---------------------------------------------------------------------------
-- Arrays
-- ---------------------------------------------------------------------------

/-- The items after the first one. -/
def moreItems (items : List Json) : List Char := items.flatMap fun j => ',' :: j.render.toList

theorem renderItems_eq_map (js : List Json) : renderItems js = js.map render := by
  induction js with
  | nil => rfl
  | cons j js ih => rw [renderItems, ih, List.map_cons]

theorem toList_render_array (j : Json) (js : List Json) :
    (Json.array (j :: js)).render.toList = '[' :: (j.render.toList ++ (moreItems js ++ [']'])) := by
  rw [render, renderItems_eq_map]
  simp [String.toList_append, String.toList_intercalate, Text.intercalate_cons, moreItems,
    List.flatMap_map]

theorem endsValue_moreItems (items : List Json) (rest : List Char) :
    EndsValue (moreItems items ++ ']' :: rest) := by
  cases items <;> simp [EndsValue, moreItems]

theorem readFrom_moreItems {items : List Json} (reads : ∀ j ∈ items, Reads j)
    (room : stack.length + 1 + d = depth) (done : List Json) (rest : List Char) :
    readFrom depth ⟨.array done :: stack, .separator⟩ (moreItems items ++ ']' :: rest) =
      (rewrittenItems? d items).bind fun values =>
        resume depth rest (give (.array (done.reverse ++ values)) stack) := by
  induction items generalizing done with
  | nil =>
    have closed : step Builder.json (some depth) ⟨.array done :: stack, .separator⟩ .closeBracket =
        some (give (.array done.reverse) stack) := rfl
    rw [moreItems, List.flatMap_nil, List.nil_append, readFrom_cons rfl rfl, closed]
    simp [rewrittenItems?]
  | cons j js ih =>
    have next : step Builder.json (some depth) ⟨.array done :: stack, .separator⟩ .comma =
        some (.running ⟨.array done :: stack, .value⟩) := rfl
    have first : readFrom depth ⟨.array done :: stack, .value⟩
        (j.render.toList ++ (moreItems js ++ ']' :: rest)) =
          (rewritten? d j).bind fun v => resume depth (moreItems js ++ ']' :: rest)
            (give v (.array done :: stack)) :=
      reads j List.mem_cons_self (.inl rfl) room (endsValue_moreItems js rest)
    have others := ih fun i hi => reads i (List.mem_cons_of_mem _ hi)
    rw [moreItems, List.flatMap_cons, List.cons_append, List.cons_append, ← moreItems,
      readFrom_cons rfl rfl, next, Option.bind_some, resume, List.append_assoc, first,
      rewrittenItems?, Option.bind_assoc]
    refine Option.bind_congr fun v _ => ?_
    rw [give, resume, others, Option.bind_map]
    simp

theorem step_open {t : Token} {frame : Frame Json} {inside await : Await}
    (opens : ∀ stack, step Builder.json (some depth) ⟨stack, await⟩ t =
      if stack.length < depth then some (.running ⟨frame :: stack, inside⟩) else none)
    (room : stack.length + d = depth) : step Builder.json (some depth) ⟨stack, await⟩ t =
      if d = 0 then none else some (.running ⟨frame :: stack, inside⟩) := by
  rw [opens]
  by_cases full : d = 0
  · rw [if_pos full, if_neg (by omega)]
  · rw [if_neg full, if_pos (by omega)]

theorem reads_array {items : List Json} (reads : ∀ j ∈ items, Reads j) :
    Reads (.array items) := by
  intro depth d stack await rest ready room ends
  have opened : step Builder.json (some depth) ⟨stack, await⟩ .openBracket =
      if d = 0 then none else some (.running ⟨.array [] :: stack, .firstItem⟩) := by
    refine step_open (fun stack => ?_) room
    obtain rfl | rfl := ready <;> simp [step, begin]
  rw [rewritten?]
  cases items with
  | nil =>
    have text : (Json.array []).render.toList ++ rest = '[' :: ']' :: rest := rfl
    rw [text, readFrom_cons rfl rfl, opened]
    split
    · rfl
    · rw [Option.bind_some, resume, readFrom_cons rfl rfl]
      rfl
  | cons j js =>
    rw [toList_render_array, List.cons_append, readFrom_cons rfl rfl, opened]
    split
    · rfl
    · have inside : stack.length + 1 + (d - 1) = depth := by omega
      have first : readFrom depth ⟨.array [] :: stack, .firstItem⟩
          (j.render.toList ++ (moreItems js ++ ']' :: rest)) =
            (rewritten? (d - 1) j).bind fun v => resume depth (moreItems js ++ ']' :: rest)
              (give v (.array [] :: stack)) :=
        reads j List.mem_cons_self (.inr rfl) inside (endsValue_moreItems js rest)
      have others := readFrom_moreItems
        (fun i hi => reads i (List.mem_cons_of_mem _ hi)) inside
      rw [Option.bind_some, resume, List.append_assoc, List.append_assoc, List.singleton_append,
        first, rewrittenItems?, Option.map_bind, Option.bind_assoc]
      refine Option.bind_congr fun v _ => ?_
      rw [give, resume, others, Function.comp_apply, Option.map_map, Option.bind_map]
      simp [Function.comp_def]

-- ---------------------------------------------------------------------------
-- Objects
-- ---------------------------------------------------------------------------

def memberChars (key : String) (j : Json) : List Char :=
  (quote key).toList ++ ':' :: j.render.toList

def moreMembers (members : List (String × Json)) : List Char :=
  members.flatMap fun m => ',' :: memberChars m.1 m.2

theorem renderMembers_eq_map (ms : List (String × Json)) :
    renderMembers ms = ms.map fun m => quote m.1 ++ ":" ++ m.2.render := by
  induction ms with
  | nil => rfl
  | cons m ms ih => rw [renderMembers, ih, List.map_cons]

theorem toList_render_object (key : String) (j : Json) (ms : List (String × Json)) :
    (Json.object ((key, j) :: ms)).render.toList =
      '{' :: (memberChars key j ++ (moreMembers ms ++ ['}'])) := by
  rw [render, renderMembers_eq_map]
  simp [String.toList_append, String.toList_intercalate, Text.intercalate_cons, moreMembers,
    memberChars, List.flatMap_map]

theorem endsValue_moreMembers (members : List (String × Json)) (rest : List Char) :
    EndsValue (moreMembers members ++ '}' :: rest) := by
  cases members <;> simp [EndsValue, moreMembers]

theorem readFrom_member {j : Json} (reads : Reads j) {await : Await}
    (ready : await = .key ∨ await = .firstKey) (room : stack.length + 1 + d = depth)
    (ends : EndsValue rest) (done : List (String × Json)) (key before : String) :
    readFrom depth ⟨.object done before :: stack, await⟩ (memberChars key j ++ rest) =
      (rewritten? d j).bind fun v =>
        readFrom depth ⟨.object ((key, v) :: done) key :: stack, .separator⟩ rest := by
  have named : step Builder.json (some depth) ⟨.object done before :: stack, await⟩
      (.string (some key)) = some (.running ⟨.object done key :: stack, .colon⟩) := by
    obtain rfl | rfl := ready <;> rfl
  have colon : step Builder.json (some depth) ⟨.object done key :: stack, .colon⟩ .colon =
      some (.running ⟨.object done key :: stack, .value⟩) := rfl
  rw [memberChars, List.append_assoc, List.cons_append,
    readFrom_of_lexChars (lexChars_quote key _), named, Option.bind_some, resume,
    readFrom_cons rfl rfl, colon, Option.bind_some, resume]
  exact reads (.inl rfl) room ends

theorem readFrom_moreMembers {members : List (String × Json)} (reads : ∀ m ∈ members, Reads m.2)
    (room : stack.length + 1 + d = depth) (done : List (String × Json)) (before : String)
    (rest : List Char) :
    readFrom depth ⟨.object done before :: stack, .separator⟩ (moreMembers members ++ '}' :: rest) =
      (rewrittenMembers? d members).bind fun written =>
        resume depth rest (give (.object (Members.ofWritten (done.reverse ++ written))) stack) := by
  induction members generalizing done before with
  | nil =>
    have closed : step Builder.json (some depth) ⟨.object done before :: stack, .separator⟩
        .closeBrace = some (give (.object (Members.ofWritten done.reverse)) stack) := rfl
    rw [moreMembers, List.flatMap_nil, List.nil_append, readFrom_cons rfl rfl, closed]
    simp [rewrittenMembers?]
  | cons m ms ih =>
    obtain ⟨key, j⟩ := m
    have next : step Builder.json (some depth) ⟨.object done before :: stack, .separator⟩ .comma =
        some (.running ⟨.object done before :: stack, .key⟩) := rfl
    have first := readFrom_member (reads _ List.mem_cons_self) (.inl rfl) room
      (endsValue_moreMembers ms rest) done key before
    have others := ih fun m hm => reads m (List.mem_cons_of_mem _ hm)
    rw [moreMembers, List.flatMap_cons, List.cons_append, List.cons_append, ← moreMembers,
      readFrom_cons rfl rfl, next, Option.bind_some, resume, List.append_assoc, first,
      rewrittenMembers?, Option.bind_assoc]
    refine Option.bind_congr fun v _ => ?_
    rw [others, Option.bind_map]
    simp

theorem reads_object {members : List (String × Json)} (reads : ∀ m ∈ members, Reads m.2) :
    Reads (.object members) := by
  intro depth d stack await rest ready room ends
  have opened : step Builder.json (some depth) ⟨stack, await⟩ .openBrace =
      if d = 0 then none else some (.running ⟨.object [] "" :: stack, .firstKey⟩) := by
    refine step_open (fun stack => ?_) room
    obtain rfl | rfl := ready <;> simp [step, begin]
  rw [rewritten?]
  cases members with
  | nil =>
    have text : (Json.object []).render.toList ++ rest = '{' :: '}' :: rest := rfl
    rw [text, readFrom_cons rfl rfl, opened]
    split
    · rfl
    · rw [Option.bind_some, resume, readFrom_cons rfl rfl]
      rfl
  | cons m ms =>
    obtain ⟨key, j⟩ := m
    rw [toList_render_object, List.cons_append, readFrom_cons rfl rfl, opened]
    split
    · rfl
    · have inside : stack.length + 1 + (d - 1) = depth := by omega
      have first := readFrom_member (reads _ List.mem_cons_self) (.inr rfl) inside
        (endsValue_moreMembers ms rest) [] key ""
      have others := readFrom_moreMembers
        (fun m hm => reads m (List.mem_cons_of_mem _ hm)) inside
      rw [Option.bind_some, resume, List.append_assoc, List.append_assoc, List.singleton_append,
        first, rewrittenMembers?, Option.map_bind, Option.bind_assoc]
      refine Option.bind_congr fun v _ => ?_
      rw [others, Function.comp_apply, Option.map_map, Option.bind_map]
      simp [Function.comp_def]

theorem reads : (j : Json) → Reads j
  | .null => reads_of_spells spells_null fun _ => rfl
  | .bool b => reads_of_spells (spells_bool b) fun _ => rfl
  | .number n => reads_number n
  | .string s => reads_of_spells (spells_quote s) fun _ => rfl
  | .array items => reads_array fun j _ => reads j
  | .object members => reads_object fun m _ => reads m.2
termination_by j => sizeOf j
decreasing_by
  · have item := List.sizeOf_lt_of_mem ‹j ∈ items›
    simp only [Json.array.sizeOf_spec]
    omega
  · have member := List.sizeOf_lt_of_mem ‹m ∈ members›
    simp only [Json.object.sizeOf_spec]
    cases m
    simp only [Prod.mk.sizeOf_spec] at member ⊢
    omega

theorem parse?_render (j : Json) : parse? j.render = rewritten? maxDepth j := by
  have whole : readFrom maxDepth ⟨[], .value⟩ (j.render.toList ++ []) =
      (rewritten? maxDepth j).bind fun v => resume maxDepth [] (give v []) :=
    reads j (.inl rfl) (Nat.zero_add _) endsValue_nil
  rw [List.append_nil] at whole
  rw [parse?, valueOf?, Token.lex, ← readFrom, whole]
  cases rewritten? maxDepth j <;> rfl

end

end FilterSql.Json
