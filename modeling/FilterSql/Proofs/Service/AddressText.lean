import FilterSql.Proofs.Text.Digits
import FilterSql.Proofs.Text.Joined
import FilterSql.Service.Address
import Mathlib.Data.List.MinMax

/-!
# Addresses as texts

`Address.text` is how browsers write an address: as octets in decimal digits, or as groups in
hexadecimal ones without the longest run of zeros. `ofText?_text`: what is written like this is read
as the address. Octets have no other spelling, `eq_text_of_ofText?`, but groups do.
-/

namespace FilterSql.Service.Address

open Text

/-- As many octets or groups as an address has, none of them too large. -/
def Valid : Address → Prop
  | v4 octets => octets.length = 4 ∧ ∀ n ∈ octets, n < 256
  | v6 groups => groups.length = 8 ∧ ∀ n ∈ groups, n < 65536

variable {a : Address} {cs piece : List Char} {octets groups : List Nat}

-- ---------------------------------------------------------------------------
-- Octets
-- ---------------------------------------------------------------------------

theorem octet?_eq_some_iff : octet? cs = some n ↔ cs = Nat.toDigits 10 n ∧ n < 256 := by
  unfold octet?
  constructor
  · intro h
    split at h
    · rename_i fits
      obtain ⟨nonempty, digits, -, short, small⟩ := fits
      obtain rfl := Option.some.inj h
      have numeral : Numeral (digitsValue cs) cs := by
        refine ⟨List.all_eq_true.mp digits, rfl, nonempty, fun zero => ?_⟩
        obtain ⟨rest, rfl⟩ := List.head?_eq_some_iff.mp zero
        have alone := short.resolve_left (not_not.mpr zero)
        rw [List.length_cons] at alone
        rw [List.eq_nil_of_length_eq_zero (Nat.succ.inj alone)]
      exact ⟨numeral.unique (numeral_toDigits _), by omega⟩
    · cases h
  · rintro ⟨rfl, small⟩
    have numeral := numeral_toDigits n
    have few : (Nat.toDigits 10 n).length ≤ 3 :=
      (Nat.length_toDigits_le_iff (by decide) (by decide)).mpr (by omega)
    rw [if_pos, numeral.value]
    refine ⟨numeral.nonempty, List.all_eq_true.mpr numeral.digits, few, ?_, ?_⟩
    · by_cases zero : (Nat.toDigits 10 n).head? = some '0'
      · exact .inr (by rw [numeral.short zero]; rfl)
      · exact .inl zero
    · rw [numeral.value]
      omega

theorem octets?_eq_some_iff :
    octets? cs = some octets ↔ cs = octetChars octets ∧ Valid (v4 octets) := by
  constructor
  · intro h
    unfold octets? at h
    split at h
    · rename_i a b c d hsplit
      simp only [List.mapM_cons, List.mapM_nil, Option.bind_eq_bind, Option.bind_eq_some_iff,
        Option.pure_def, Option.some.injEq, octet?_eq_some_iff] at h
      obtain ⟨w, ⟨rfl, hw⟩, _, ⟨x, ⟨rfl, hx⟩, _, ⟨y, ⟨rfl, hy⟩, _, ⟨z, ⟨rfl, hz⟩, _, rfl, rfl⟩,
        rfl⟩, rfl⟩, rfl⟩ := h
      have joined : ['.'].intercalate (cs.splitOn '.') = cs := List.intercalate_splitOn '.'
      refine ⟨?_, rfl, by simp [hw, hx, hy, hz]⟩
      rw [← joined, hsplit]
      rfl
    · cases h
  · rintro ⟨rfl, length, small⟩
    obtain ⟨w, x, y, z, rfl⟩ := List.length_eq_four.mp length
    have hsplit : (octetChars [w, x, y, z]).splitOn '.' = [w, x, y, z].map (Nat.toDigits 10) := by
      refine List.splitOn_intercalate '.' (fun piece hpiece point => ?_) (by simp)
      obtain ⟨n, -, rfl⟩ := List.mem_map.mp hpiece
      exact absurd (allDigits_toDigits n '.' point) (by decide)
    have read : ∀ n ∈ [w, x, y, z], octet? (Nat.toDigits 10 n) = some n :=
      fun n hn => octet?_eq_some_iff.mpr ⟨rfl, small n hn⟩
    rw [octets?, hsplit]
    simp [read]

-- ---------------------------------------------------------------------------
-- Groups
-- ---------------------------------------------------------------------------

def groupChars (groups : List Nat) : List Char := [':'].intercalate (groups.map (Nat.toDigits 16))

theorem hexValue?_digitChar : ∀ d < 16, hexValue? d.digitChar = some d := by decide

theorem hexValue?_lt (h : hexValue? c = some d) : d < 16 := by
  unfold hexValue? at h
  dsimp only at h
  split_ifs at h <;> cases h <;> omega

/-- Hexadecimal digits behind a number that has been read. -/
def hexDigits? (n : Nat) (cs : List Char) : Option Nat :=
  cs.foldlM (fun n c => (hexValue? c).map (16 * n + ·)) n

theorem hexDigits?_append (n : Nat) (cs ds : List Char) :
    hexDigits? n (cs ++ ds) = (hexDigits? n cs).bind (hexDigits? · ds) := List.foldlM_append

theorem hexDigits?_cons_eq_some_iff : hexDigits? n (c :: cs) = some m ↔
    ∃ d, hexValue? c = some d ∧ hexDigits? (16 * n + d) cs = some m := by
  simp [hexDigits?, Option.bind_eq_some_iff]

theorem group?_eq_some_iff : group? cs = some n ↔
    cs ≠ [] ∧ cs.length ≤ 4 ∧ hexDigits? 0 cs = some n := by
  unfold group?
  split
  · rename_i few
    exact ⟨fun h => ⟨few.1, few.2, h⟩, fun h => h.2.2⟩
  · rename_i many
    exact ⟨nofun, fun h => absurd ⟨h.1, h.2.1⟩ many⟩

theorem hexDigits?_toDigits (n : Nat) : hexDigits? 0 (Nat.toDigits 16 n) = some n := by
  induction n using Nat.strongRecOn with
  | ind n ih =>
    rcases Nat.lt_or_ge n 16 with small | large
    · rw [Nat.toDigits_of_lt_base small, hexDigits?_cons_eq_some_iff]
      exact ⟨n, hexValue?_digitChar n small, by simp [hexDigits?]⟩
    · rw [Nat.toDigits_of_base_le (by decide) large, hexDigits?_append, ih (n / 16) (by omega),
        Option.bind_some, hexDigits?_cons_eq_some_iff]
      have last : 16 * (n / 16) + n % 16 = n := by omega
      exact ⟨n % 16, hexValue?_digitChar _ (Nat.mod_lt n (by decide)), by simp [hexDigits?, last]⟩

theorem group?_toDigits (h : n < 65536) : group? (Nat.toDigits 16 n) = some n := by
  refine group?_eq_some_iff.mpr ⟨Nat.toDigits_ne_nil, ?_, hexDigits?_toDigits n⟩
  exact (Nat.length_toDigits_le_iff (by decide) (by decide)).mpr h

theorem hexDigits?_lt (h : hexDigits? n cs = some m) : m < (n + 1) * 16 ^ cs.length := by
  induction cs generalizing n with
  | nil =>
    obtain rfl := Option.some.inj h
    simp
  | cons c cs ih =>
    obtain ⟨d, hd, rest⟩ := hexDigits?_cons_eq_some_iff.mp h
    have digit := hexValue?_lt hd
    calc m < (16 * n + d + 1) * 16 ^ cs.length := ih rest
      _ ≤ (n + 1) * 16 * 16 ^ cs.length := Nat.mul_le_mul_right _ (by omega)
      _ = (n + 1) * 16 ^ (c :: cs).length := by
        rw [List.length_cons, Nat.pow_succ, Nat.mul_assoc, Nat.mul_comm 16]

theorem group?_lt (h : group? cs = some n) : n < 65536 := by
  obtain ⟨-, few, read⟩ := group?_eq_some_iff.mp h
  have most : 16 ^ cs.length ≤ 16 ^ 4 := Nat.pow_le_pow_right (by decide) few
  have bound := hexDigits?_lt read
  omega

theorem hexValue?_of_mem_hexDigits? (h : hexDigits? n cs = some m) (hc : c ∈ cs) :
    hexValue? c ≠ none := by
  induction cs generalizing n with
  | nil => cases hc
  | cons d cs ih =>
    obtain ⟨value, hd, rest⟩ := hexDigits?_cons_eq_some_iff.mp h
    rcases List.mem_cons.mp hc with rfl | hc
    · rw [hd]
      exact Option.some_ne_none value
    · exact ih rest hc

theorem not_mem_toDigits_hex (hc : hexValue? c = none) (n : Nat) : c ∉ Nat.toDigits 16 n :=
  fun mem => hexValue?_of_mem_hexDigits? (hexDigits?_toDigits n) mem hc

theorem octets?_of_not_mem (h : '.' ∉ cs) : octets? cs = none := by
  rw [octets?, List.splitOn_eq_singleton h]

theorem pieces?_toDigits (endsInOctets : Bool) (small : ∀ n ∈ groups, n < 65536) :
    pieces? endsInOctets (groups.map (Nat.toDigits 16)) = some groups := by
  induction groups with
  | nil => rfl
  | cons n rest ih =>
    have first := group?_toDigits (small n List.mem_cons_self)
    cases rest with
    | nil =>
      have points : octets? (Nat.toDigits 16 n) = none :=
        octets?_of_not_mem (not_mem_toDigits_hex (by decide) n)
      simp [pieces?, points, first]
    | cons next rest =>
      have others := ih fun m hm => small m (List.mem_cons_of_mem _ hm)
      rw [List.map_cons] at others
      simp [pieces?, first, others]

theorem groups?_groupChars (endsInOctets : Bool) (small : ∀ n ∈ groups, n < 65536) :
    groups? endsInOctets (groupChars groups) = some groups := by
  cases groups with
  | nil => rfl
  | cons n rest =>
    have hsplit : (groupChars (n :: rest)).splitOn ':' = (n :: rest).map (Nat.toDigits 16) := by
      refine List.splitOn_intercalate ':' (fun piece hpiece => ?_) (by simp)
      obtain ⟨m, -, rfl⟩ := List.mem_map.mp hpiece
      exact not_mem_toDigits_hex (by decide) m
    have nonempty : groupChars (n :: rest) ≠ [] := by
      intro empty
      rw [empty, List.splitOn_nil] at hsplit
      exact Nat.toDigits_ne_nil (List.cons.inj hsplit).1.symm
    rw [groups?, if_neg nonempty, hsplit, pieces?_toDigits endsInOctets small]

-- ---------------------------------------------------------------------------
-- The gap
-- ---------------------------------------------------------------------------

theorem cutAtGap_cons (h : c ≠ ':' ∨ cs.head? ≠ some ':') :
    cutAtGap (c :: cs) = (cutAtGap cs).map fun cut => (c :: cut.1, cut.2) := by
  rw [cutAtGap]
  rintro rest rfl rfl
  simp at h

theorem cutAtGap_append_of_not_mem (h : ':' ∉ piece) (tail : List Char) :
    cutAtGap (piece ++ tail) = (cutAtGap tail).map fun cut => (piece ++ cut.1, cut.2) := by
  induction piece with
  | nil => simp
  | cons c piece ih =>
    rw [List.mem_cons, not_or] at h
    rw [List.cons_append, cutAtGap_cons (.inl (Ne.symm h.1)), ih h.2, Option.map_map]
    rfl

theorem groupChars_cons_cons (n next : Nat) (rest : List Nat) : groupChars (n :: next :: rest) =
    Nat.toDigits 16 n ++ ':' :: groupChars (next :: rest) := by
  simp [groupChars, List.intercalate_cons_cons]

theorem head?_groupChars_append (n : Nat) (rest : List Nat) (tail : List Char) :
    (groupChars (n :: rest) ++ tail).head? = (Nat.toDigits 16 n).head? := by
  have digits : Nat.toDigits 16 n ≠ [] := Nat.toDigits_ne_nil
  cases rest with
  | nil => simp [groupChars, List.head?_append_of_ne_nil _ digits]
  | cons next rest =>
    rw [groupChars_cons_cons, List.append_assoc, List.head?_append_of_ne_nil _ digits]

theorem cutAtGap_groupChars_append (groups : List Nat) (tail : List Char) :
    cutAtGap (groupChars groups ++ tail) =
      (cutAtGap tail).map fun cut => (groupChars groups ++ cut.1, cut.2) := by
  induction groups with
  | nil => simp [groupChars]
  | cons n rest ih =>
    have digits : ':' ∉ Nat.toDigits 16 n := not_mem_toDigits_hex (by decide) n
    cases rest with
    | nil => simpa [groupChars] using cutAtGap_append_of_not_mem digits tail
    | cons next rest =>
      have behind : (groupChars (next :: rest) ++ tail).head? ≠ some ':' := by
        rw [head?_groupChars_append]
        exact fun colon => not_mem_toDigits_hex (by decide) next (List.mem_of_head? colon)
      rw [groupChars_cons_cons, List.append_assoc, cutAtGap_append_of_not_mem digits,
        List.cons_append, cutAtGap_cons (.inr behind), ih, Option.map_map, Option.map_map]
      simp [Function.comp_def]

def leadingZeros (groups : List Nat) : Nat := (groups.takeWhile (· == 0)).length

/-- Where the longest run of zeros begins, or the first one of them. -/
def longestRun (groups : List Nat) : Nat :=
  ((List.range groups.length).argmax fun i => leadingZeros (groups.drop i)).getD 0

/-- Groups without the longest run of zeros, unless this is a single one. -/
def gappedChars (groups : List Nat) : List Char :=
  let start := longestRun groups
  let zeros := leadingZeros (groups.drop start)
  if zeros < 2 then groupChars groups
  else groupChars (groups.take start) ++ ':' :: ':' :: groupChars (groups.drop (start + zeros))

theorem leadingZeros_le (groups : List Nat) : leadingZeros groups ≤ groups.length :=
  (List.takeWhile_prefix _).length_le

theorem replicate_leadingZeros_append (groups : List Nat) :
    List.replicate (leadingZeros groups) 0 ++ groups.drop (leadingZeros groups) = groups := by
  induction groups with
  | nil => rfl
  | cons n rest ih =>
    by_cases zero : n = 0
    · subst zero
      have more : leadingZeros (0 :: rest) = leadingZeros rest + 1 := by simp [leadingZeros]
      rw [more, List.replicate_succ, List.cons_append, List.drop_succ_cons, ih]
    · have none : leadingZeros (n :: rest) = 0 := by simp [leadingZeros, zero]
      simp [none]

theorem v6Groups?_gappedChars (length : groups.length = 8) (small : ∀ n ∈ groups, n < 65536) :
    v6Groups? (gappedChars groups) = some groups := by
  unfold gappedChars
  dsimp only
  -- Reading does not depend on which run of zeros is left out.
  generalize longestRun groups = start
  split
  · have whole := cutAtGap_groupChars_append groups []
    rw [List.append_nil] at whole
    rw [v6Groups?, whole]
    simp [cutAtGap, groups?_groupChars true small, length]
  · rename_i many
    have inside := leadingZeros_le (groups.drop start)
    have gap := replicate_leadingZeros_append (groups.drop start)
    rw [List.drop_drop] at gap
    rw [List.length_drop] at inside
    generalize leadingZeros (groups.drop start) = zeros at many inside gap
    have before : groups? false (groupChars (groups.take start)) = some (groups.take start) :=
      groups?_groupChars false fun n hn => small n (List.mem_of_mem_take hn)
    have behind : groups? true (groupChars (groups.drop (start + zeros))) =
        some (groups.drop (start + zeros)) :=
      groups?_groupChars true fun n hn => small n (List.mem_of_mem_drop hn)
    have missing :
        8 - (groups.take start).length - (groups.drop (start + zeros)).length = zeros := by
      rw [List.length_take, List.length_drop]
      omega
    have few : (groups.take start).length + (groups.drop (start + zeros)).length ≤ 7 := by
      rw [List.length_take, List.length_drop]
      omega
    rw [v6Groups?, cutAtGap_groupChars_append]
    simp only [cutAtGap, Option.map_some, List.append_nil, before, behind, Option.bind_eq_bind,
      Option.bind_some, if_pos few, missing]
    rw [List.append_assoc, gap, List.take_append_drop]

-- ---------------------------------------------------------------------------
-- Groups that are read
-- ---------------------------------------------------------------------------

theorem not_mem_octetChars {c : Char} (point : c ≠ '.') (digit : isAsciiDigit c = false) :
    c ∉ octetChars octets := by
  intro mem
  rcases mem_intercalate mem with separator | ⟨piece, hpiece, hc⟩
  · exact point (List.mem_singleton.mp separator)
  · obtain ⟨n, -, rfl⟩ := List.mem_map.mp hpiece
    exact absurd (allDigits_toDigits n c hc) (by simp [digit])

theorem groupsOfOctets_lt (h : octets? cs = some octets) :
    ∀ n ∈ groupsOfOctets octets, n < 65536 := by
  obtain ⟨-, length, small⟩ := octets?_eq_some_iff.mp h
  obtain ⟨w, x, y, z, rfl⟩ := List.length_eq_four.mp length
  simp only [List.forall_mem_cons] at small
  simp only [groupsOfOctets, List.forall_mem_cons]
  refine ⟨by omega, by omega, nofun⟩

theorem not_mem_of_group? (h : group? cs = some n) (hc : hexValue? c = none) : c ∉ cs :=
  fun mem => hexValue?_of_mem_hexDigits? (group?_eq_some_iff.mp h).2.2 mem hc

/-- What is read has no brackets in it, and gives groups of 16 bits. -/
theorem of_pieces? {pieces : List (List Char)} (h : pieces? endsInOctets pieces = some groups) :
    (∀ n ∈ groups, n < 65536) ∧ ∀ piece ∈ pieces, '[' ∉ piece := by
  induction pieces generalizing groups with
  | nil =>
    obtain rfl := Option.some.inj h
    exact ⟨nofun, nofun⟩
  | cons piece rest ih =>
    cases rest with
    | nil =>
      rw [pieces?] at h
      split at h
      · rename_i octets hoctets
        split at h
        · obtain rfl := Option.some.inj h
          obtain ⟨rfl, -⟩ := octets?_eq_some_iff.mp hoctets
          refine ⟨groupsOfOctets_lt hoctets, fun p hp => ?_⟩
          obtain rfl := List.mem_singleton.mp hp
          exact not_mem_octetChars (by decide) (by decide)
        · cases h
      · obtain ⟨n, hn, rfl⟩ := Option.map_eq_some_iff.mp h
        refine ⟨fun m hm => ?_, fun p hp => ?_⟩
        · obtain rfl := List.mem_singleton.mp hm
          exact group?_lt hn
        · obtain rfl := List.mem_singleton.mp hp
          exact not_mem_of_group? hn (by decide)
    | cons next rest =>
      simp only [pieces?, Option.bind_eq_bind, Option.bind_eq_some_iff, Option.pure_def,
        Option.some.injEq] at h
      obtain ⟨n, hn, others, hothers, rfl⟩ := h
      obtain ⟨small, plain⟩ := ih hothers
      have first : '[' ∉ piece := not_mem_of_group? hn (by decide)
      exact ⟨List.forall_mem_cons.mpr ⟨group?_lt hn, small⟩,
        List.forall_mem_cons.mpr ⟨first, plain⟩⟩

theorem of_groups? (h : groups? endsInOctets cs = some groups) :
    (∀ n ∈ groups, n < 65536) ∧ '[' ∉ cs := by
  unfold groups? at h
  split at h
  · obtain rfl := Option.some.inj h
    exact ⟨nofun, by simp [*]⟩
  · obtain ⟨small, plain⟩ := of_pieces? h
    have joined : [':'].intercalate (cs.splitOn ':') = cs := List.intercalate_splitOn ':'
    refine ⟨small, fun mem => ?_⟩
    rcases mem_intercalate (joined ▸ mem) with colon | ⟨piece, hpiece, hc⟩
    · exact absurd colon (by decide)
    · exact plain piece hpiece hc

theorem eq_of_cutAtGap (h : cutAtGap cs = some (before, behind)) :
    cs = before ++ ':' :: ':' :: behind := by
  induction cs generalizing before with
  | nil => cases h
  | cons c cs ih =>
    unfold cutAtGap at h
    split at h
    · rename_i rest hcs
      obtain ⟨rfl, rfl⟩ := Prod.mk.inj (Option.some.inj h)
      exact hcs
    · rename_i rest _ hcs
      obtain ⟨rfl, rfl⟩ := List.cons.inj hcs
      obtain ⟨⟨front, back⟩, hcut, cut⟩ := Option.map_eq_some_iff.mp h
      obtain ⟨rfl, rfl⟩ := Prod.mk.inj cut
      rw [ih hcut]
      rfl
    · cases h

theorem of_v6Groups? (h : v6Groups? cs = some groups) :
    groups.length = 8 ∧ (∀ n ∈ groups, n < 65536) ∧ '[' ∉ cs := by
  unfold v6Groups? at h
  split at h
  · simp only [Option.bind_eq_bind, Option.bind_eq_some_iff] at h
    obtain ⟨found, hfound, h⟩ := h
    split at h
    · obtain rfl := Option.some.inj h
      exact ⟨‹_›, of_groups? hfound⟩
    · cases h
  · rename_i before behind hcut
    simp only [Option.bind_eq_bind, Option.bind_eq_some_iff] at h
    obtain ⟨first, hfirst, last, hlast, h⟩ := h
    split at h
    · obtain rfl := Option.some.inj h
      obtain ⟨smallFirst, plainBefore⟩ := of_groups? hfirst
      obtain ⟨smallLast, plainBehind⟩ := of_groups? hlast
      refine ⟨?_, fun n hn => ?_, ?_⟩
      · simp only [List.length_append, List.length_replicate]
        omega
      · simp only [List.mem_append, List.mem_replicate] at hn
        rcases hn with (hn | ⟨-, rfl⟩) | hn
        · exact smallFirst n hn
        · decide
        · exact smallLast n hn
      · rw [eq_of_cutAtGap hcut]
        simp [plainBefore, plainBehind]
    · cases h

-- ---------------------------------------------------------------------------
-- Addresses
-- ---------------------------------------------------------------------------

def text : Address → String
  | v4 octets => String.ofList (octetChars octets)
  | v6 groups => String.ofList (gappedChars groups)

theorem valid_of_ofText? (h : ofText? s = some a) : a.Valid := by
  unfold ofText? at h
  split at h
  · rename_i octets hoctets
    obtain rfl := Option.some.inj h
    exact (octets?_eq_some_iff.mp hoctets).2
  · obtain ⟨groups, hgroups, rfl⟩ := Option.map_eq_some_iff.mp h
    obtain ⟨length, small, -⟩ := of_v6Groups? hgroups
    exact ⟨length, small⟩

theorem eq_text_of_ofText? (h : ofText? s = some (v4 octets)) : s = text (v4 octets) := by
  unfold ofText? at h
  split at h
  · rename_i found hfound
    obtain rfl := v4.inj (Option.some.inj h)
    rw [text, ← (octets?_eq_some_iff.mp hfound).1, String.ofList_toList]
  · obtain ⟨groups, -, other⟩ := Option.map_eq_some_iff.mp h
    cases other

theorem bracket_not_mem_of_ofText? (h : ofText? s = some a) : '[' ∉ s.toList := by
  unfold ofText? at h
  split at h
  · rename_i octets hoctets
    rw [(octets?_eq_some_iff.mp hoctets).1]
    exact not_mem_octetChars (by decide) (by decide)
  · obtain ⟨groups, hgroups, rfl⟩ := Option.map_eq_some_iff.mp h
    exact (of_v6Groups? hgroups).2.2

theorem not_mem_groupChars {c : Char} (colon : c ≠ ':') (digit : hexValue? c = none) :
    c ∉ groupChars groups := by
  intro mem
  rcases mem_intercalate mem with separator | ⟨piece, hpiece, hc⟩
  · exact colon (List.mem_singleton.mp separator)
  · obtain ⟨n, -, rfl⟩ := List.mem_map.mp hpiece
    exact not_mem_toDigits_hex digit n hc

theorem not_mem_gappedChars {c : Char} (colon : c ≠ ':') (digit : hexValue? c = none) :
    c ∉ gappedChars groups := by
  unfold gappedChars
  dsimp only
  split
  · exact not_mem_groupChars colon digit
  · simp [not_mem_groupChars colon digit, colon]

theorem ofText?_text (valid : a.Valid) : ofText? a.text = some a := by
  cases a with
  | v4 octets =>
    rw [text, ofText?, String.toList_ofList, octets?_eq_some_iff.mpr ⟨rfl, valid⟩]
  | v6 groups =>
    have noPoints : '.' ∉ gappedChars groups := not_mem_gappedChars (by decide) (by decide)
    rw [text, ofText?, String.toList_ofList, octets?_of_not_mem noPoints,
      v6Groups?_gappedChars valid.1 valid.2]
    rfl

example : text (v6 [0x2001, 0xdb8, 0, 0, 1, 0, 0, 1]) = "2001:db8::1:0:0:1" := by decide +kernel

theorem text_inj {b : Address} (ha : a.Valid) (hb : b.Valid) : a.text = b.text ↔ a = b := by
  refine ⟨fun h => ?_, congrArg text⟩
  exact Option.some.inj ((ofText?_text ha).symm.trans (h ▸ ofText?_text hb))

end FilterSql.Service.Address
