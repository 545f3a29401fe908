import FilterSql.Proofs.Service.AddressText

/-!
# Origins of a server

Browsers send an origin as a text, `Origin.text`, from which its scheme, host and port can be told,
`Origin.text_injective`. `originLaw_iff`: a server at a single host allows the origin of its own
pages and none of others, unless its host is an address with colons. Browsers put such an address in
brackets, and the origins that are allowed do not.
-/

namespace FilterSql.Service

open Text

-- ---------------------------------------------------------------------------
-- Origins as texts
-- ---------------------------------------------------------------------------

/-- The name of a host, which has none of the characters that separate the parts of an origin. -/
structure Domain where
  text : String
  plain : ∀ c ∈ [':', '/', '[', ']'], c ∉ text.toList
  unnumbered : Address.ofText? text = none

inductive Host where
  | address (a : Address) (valid : a.Valid)
  | domain (d : Domain)

namespace Host

/-- Whether a host is put in brackets, since there are colons in it. -/
def bracketed : Host → Bool
  | address (.v6 _) _ => true
  | _ => false

def text : Host → String
  | address (.v6 groups) _ => "[" ++ Address.text (.v6 groups) ++ "]"
  | address (.v4 octets) _ => Address.text (.v4 octets)
  | domain d => d.text

end Host

structure Origin where
  scheme : String
  host : Host
  port : Option Nat
  plain : ':' ∉ scheme.toList

namespace Origin

def portText : Option Nat → String
  | some port => ":" ++ toString port
  | none => ""

def text (o : Origin) : String := o.scheme ++ "://" ++ o.host.text ++ portText o.port

def http (host : Host) (port : Option Nat) : Origin := ⟨"http", host, port, by decide⟩

end Origin

theorem append_cons_inj {c : Char} {xs ys : List Char} (hx : c ∉ xs) (hy : c ∉ ys)
    (h : xs ++ c :: as = ys ++ c :: bs) : xs = ys ∧ as = bs := by
  induction xs generalizing ys with
  | nil =>
    cases ys with
    | nil => exact ⟨rfl, (List.cons.inj h).2⟩
    | cons y ys => exact absurd (List.cons.inj h).1 (List.ne_of_not_mem_cons hy)
  | cons x xs ih =>
    cases ys with
    | nil => exact absurd (List.cons.inj h).1.symm (List.ne_of_not_mem_cons hx)
    | cons y ys =>
      obtain ⟨rfl, rest⟩ := List.cons.inj h
      obtain ⟨rfl, behind⟩ := ih (List.not_mem_of_not_mem_cons hx)
        (List.not_mem_of_not_mem_cons hy) rest
      exact ⟨rfl, behind⟩

namespace Host

variable {host other : Host}

theorem not_mem_text (h : host.bracketed = false) {c : Char} (hc : c ∈ [':', '[']) :
    c ∉ host.text.toList := by
  cases host with
  | address a valid =>
    cases a with
    | v4 octets =>
      rw [text, Address.text, String.toList_ofList]
      simp only [List.mem_cons, List.not_mem_nil, or_false] at hc
      rcases hc with rfl | rfl <;> exact Address.not_mem_octetChars (by decide) (by decide)
    | v6 groups => cases h
  | domain d =>
    simp only [List.mem_cons, List.not_mem_nil, or_false] at hc
    exact d.plain c (by rcases hc with rfl | rfl <;> decide)

def address? : Host → Option Address
  | address a _ => some a
  | domain _ => none

theorem ofText?_text (h : host.bracketed = false) : Address.ofText? host.text = host.address? := by
  cases host with
  | address a valid =>
    cases a with
    | v4 octets => exact Address.ofText?_text valid
    | v6 groups => cases h
  | domain d => exact d.unnumbered

theorem eq_of_text_eq (h : host.bracketed = false) (h' : other.bracketed = false)
    (same : host.text = other.text) : host = other := by
  have read : host.address? = other.address? := by
    rw [← ofText?_text h, same, ofText?_text h']
  cases host with
  | address a valid =>
    cases other with
    | address b valid' =>
      obtain rfl := Option.some.inj read
      rfl
    | domain d => cases read
  | domain d =>
    cases other with
    | address b valid' => cases read
    | domain d' =>
      obtain ⟨text, plain, unnumbered⟩ := d
      obtain rfl : text = d'.text := same
      rfl

/-- In brackets there is the text of an address, which ends with the first bracket behind it. -/
theorem exists_groups (h : host.bracketed = true) : ∃ groups valid,
    host = address (.v6 groups) valid ∧
      host.text.toList = '[' :: ((Address.text (.v6 groups)).toList ++ [']']) ∧
      ']' ∉ (Address.text (.v6 groups)).toList := by
  cases host with
  | address a valid =>
    cases a with
    | v4 octets => cases h
    | v6 groups =>
      refine ⟨groups, valid, rfl, by simp [text], ?_⟩
      rw [Address.text, String.toList_ofList]
      exact Address.not_mem_gappedChars (by decide) (by decide)
  | domain d => cases h

end Host

namespace Origin

open Host

variable {host other : Host}

theorem portText_inj : portText p = portText q ↔ p = q := by
  refine ⟨fun same => ?_, congrArg portText⟩
  cases p with
  | none =>
    cases q with
    | none => rfl
    | some n => simp [portText, ← String.toList_inj] at same
  | some m =>
    cases q with
    | none => simp [portText, ← String.toList_inj] at same
    | some n =>
      have digits : Nat.toDigits 10 m = Nat.toDigits 10 n := by
        simpa [portText, ← String.toList_inj, Nat.toList_repr] using same
      rw [← (numeral_toDigits m).value, digits, (numeral_toDigits n).value]

theorem exists_portText_append_colon (p : Option Nat) :
    ∃ cs, (portText p).toList ++ [':'] = ':' :: cs := by
  cases p with
  | none => exact ⟨[], rfl⟩
  | some port => exact ⟨(toString port).toList ++ [':'], by simp [portText]⟩

theorem bracket_not_mem_portText (p : Option Nat) : '[' ∉ (portText p).toList := by
  cases p with
  | none => exact List.not_mem_nil
  | some port =>
    have digits : '[' ∉ Nat.toDigits 10 port := fun mem =>
      absurd (allDigits_toDigits port '[' mem) (by decide)
    simp [portText, Nat.toList_repr, digits]

theorem ne_bracket_cons (h : host.bracketed = false) (p : Option Nat) (cs : List Char) :
    host.text.toList ++ (portText p).toList ≠ '[' :: cs := by
  intro same
  have mem : '[' ∈ host.text.toList ++ (portText p).toList := same ▸ List.mem_cons_self
  rcases List.mem_append.mp mem with mem | mem
  · exact not_mem_text h (by decide) mem
  · exact bracket_not_mem_portText p mem

theorem host_port_inj (same : host.text.toList ++ (portText p).toList =
    other.text.toList ++ (portText q).toList) : host = other ∧ p = q := by
  cases hb : host.bracketed with
  | false =>
    cases ob : other.bracketed with
    | false =>
      -- With one more colon at the end, there is one behind the host even if there is no port.
      obtain ⟨cs, hcs⟩ := exists_portText_append_colon p
      obtain ⟨ds, hds⟩ := exists_portText_append_colon q
      have whole := congrArg (· ++ [':']) same
      simp only [List.append_assoc, hcs, hds] at whole
      obtain ⟨texts, -⟩ := append_cons_inj (not_mem_text hb (by decide))
        (not_mem_text ob (by decide)) whole
      rw [texts, List.append_cancel_left_eq, String.toList_inj] at same
      exact ⟨eq_of_text_eq hb ob (String.toList_inj.mp texts), portText_inj.mp same⟩
    | true =>
      obtain ⟨_, _, rfl, bracket, -⟩ := exists_groups ob
      rw [bracket] at same
      exact absurd same (ne_bracket_cons hb p _)
  | true =>
    obtain ⟨groups, valid, rfl, bracket, inside⟩ := exists_groups hb
    cases ob : other.bracketed with
    | false =>
      rw [bracket] at same
      exact absurd same.symm (ne_bracket_cons ob q _)
    | true =>
      obtain ⟨groups', valid', rfl, bracket', inside'⟩ := exists_groups ob
      rw [bracket, bracket', List.cons_append, List.cons_append, List.append_assoc,
        List.append_assoc] at same
      obtain ⟨texts, ports⟩ := append_cons_inj inside inside' (List.cons.inj same).2
      obtain rfl := Address.v6.inj ((Address.text_inj valid valid').mp (String.toList_inj.mp texts))
      exact ⟨rfl, portText_inj.mp (String.toList_inj.mp ports)⟩

theorem text_injective : Function.Injective text := by
  rintro ⟨scheme, host, port, plain⟩ ⟨scheme', host', port', plain'⟩ same
  have chars := congrArg String.toList same
  simp only [text, String.toList_append, List.append_assoc] at chars
  have separator : "://".toList = [':', '/', '/'] := rfl
  rw [separator] at chars
  obtain ⟨schemes, rest⟩ := append_cons_inj plain plain' chars
  obtain rfl := String.toList_inj.mp schemes
  obtain ⟨rfl, rfl⟩ := host_port_inj (List.append_cancel_left rest)
  rfl

end Origin

-- ---------------------------------------------------------------------------
-- The origins that a server allows
-- ---------------------------------------------------------------------------

namespace Host

def localhost : Host := .domain ⟨"localhost", by simp, by decide +kernel⟩

def loopback : Host := .address (.v4 [127, 0, 0, 1]) ⟨rfl, by decide⟩

/-- The hosts that stand for a host: itself, and both names of the local host for each other. -/
inductive StandsFor (served : Host) : Host → Prop
  | self : StandsFor served served
  | localhost (h : served ∈ [localhost, loopback]) : StandsFor served localhost
  | loopback (h : served ∈ [localhost, loopback]) : StandsFor served loopback

/-- The texts in the settings that mean a host: any spelling of an address, or the local name. -/
inductive SpelledAs : Host → String → Prop
  | address (h : Address.ofText? s = some a) :
      SpelledAs (.address a (Address.valid_of_ofText? h)) s
  | localName : SpelledAs localhost "localhost"

end Host

namespace Origin

/-- An origin of the pages that a server at a host has, with the port or without it. -/
structure IsOf (served : Host) (port : Nat) (o : Origin) : Prop where
  scheme : o.scheme = "http"
  host : served.StandsFor o.host
  port : o.port ∈ [some port, none]

end Origin

/-- The origins that are allowed are those of the server's own pages. -/
structure OriginLaw (served : Host) (port : Nat) (allowed : List String) : Prop where
  own : ∀ p ∈ [some port, none], (Origin.http served p).text ∈ allowed
  named : ∀ text ∈ allowed, ∃ o : Origin, o.text = text ∧ o.IsOf served port
  foreign : ∀ o : Origin, o.text ∈ allowed → o.IsOf served port

variable {served h : Host} {host name : String} {port : Nat} {interfaces : List Address}

namespace Host

theorem text_localhost : localhost.text = "localhost" := rfl

theorem text_loopback : loopback.text = "127.0.0.1" := by decide +kernel

theorem standsFor_of_local (near : served ∈ [localhost, loopback]) :
    served.StandsFor h ↔ h ∈ [localhost, loopback] := by
  constructor
  · rintro (_ | _ | _)
    · exact near
    · exact List.mem_cons_self
    · exact List.mem_cons_of_mem _ List.mem_cons_self
  · intro mem
    rcases List.mem_cons.mp mem with rfl | mem
    · exact .localhost near
    · obtain rfl := List.mem_singleton.mp mem
      exact .loopback near

theorem standsFor_of_not_local (far : served ∉ [localhost, loopback]) :
    served.StandsFor h ↔ h = served := by
  constructor
  · rintro (_ | near | near)
    · rfl
    · exact absurd near far
    · exact absurd near far
  · rintro rfl
    exact .self

theorem SpelledAs.text_eq (spelled : served.SpelledAs host) (plain : served.bracketed = false) :
    served.text = host := by
  cases spelled with
  | localName => rfl
  | @address s a read =>
    cases a with
    | v4 octets => exact (Address.eq_text_of_ofText? read).symm
    | v6 groups => cases plain

theorem SpelledAs.mem_local_iff (spelled : served.SpelledAs host) :
    host ∈ ["127.0.0.1", "localhost"] ↔ served ∈ [localhost, loopback] := by
  have loopbackText : Address.ofText? "127.0.0.1" = some (.v4 [127, 0, 0, 1]) := by
    decide +kernel
  have localName : Address.ofText? "localhost" = none := by decide +kernel
  cases spelled with
  | localName => exact iff_of_true (by decide) List.mem_cons_self
  | @address _ a read =>
    simp only [List.mem_cons, List.not_mem_nil, or_false]
    constructor
    · rintro (rfl | rfl)
      · obtain rfl := Option.some.inj (read.symm.trans loopbackText)
        exact .inr rfl
      · cases localName.symm.trans read
    · rintro (same | same)
      · cases same
      · obtain rfl := (Host.address.inj same)
        exact .inl ((Address.eq_text_of_ofText? read).trans text_loopback)

end Host

theorem mem_originHosts_iff (spelled : served.SpelledAs host)
    (single : isEveryInterface host = false) (plain : served.bracketed = false) :
    name ∈ originHosts host ↔ ∃ h, served.StandsFor h ∧ h.text = name := by
  by_cases near : served ∈ [Host.localhost, Host.loopback]
  · have names : originHosts host = [Host.localhost, Host.loopback].map Host.text := by
      rw [originHosts, List.contains_iff_mem.mpr (spelled.mem_local_iff.mpr near), Bool.or_true,
        if_pos rfl, List.map_cons, List.map_singleton, Host.text_localhost, Host.text_loopback]
    simp only [names, List.mem_map, Host.standsFor_of_local near]
  · have far := mt spelled.mem_local_iff.mp near
    have names : originHosts host = [host] := by
      rw [originHosts, single, Bool.false_or, if_neg (mt List.contains_iff_mem.mp far)]
    simp only [names, List.mem_singleton, Host.standsFor_of_not_local near, exists_eq_left,
      spelled.text_eq plain]
    exact eq_comm

/-- At a single host the addresses of the machine do not count. -/
theorem mem_allowedOrigins_iff (single : isEveryInterface host = false) :
    text ∈ allowedOrigins host port interfaces ↔
      ∃ name ∈ originHosts host, ∃ p ∈ [some port, none],
        "http://" ++ name ++ Origin.portText p = text := by
  simp [allowedOrigins, httpUrl, single, Origin.portText, String.append_assoc, eq_comm]

/-- Without brackets, the origins that are allowed are those of the server's own pages. -/
theorem mem_allowedOrigins_iff_isOf (spelled : served.SpelledAs host)
    (single : isEveryInterface host = false) (plain : served.bracketed = false) :
    text ∈ allowedOrigins host port interfaces ↔
      ∃ o : Origin, o.text = text ∧ o.IsOf served port := by
  rw [mem_allowedOrigins_iff single]
  constructor
  · rintro ⟨name, hname, p, hp, rfl⟩
    obtain ⟨h, stands, rfl⟩ := (mem_originHosts_iff spelled single plain).mp hname
    exact ⟨.http h p, rfl, rfl, stands, hp⟩
  · rintro ⟨⟨scheme, h, p, _⟩, rfl, rfl, stands, hp⟩
    exact ⟨h.text, (mem_originHosts_iff spelled single plain).mpr ⟨h, stands, rfl⟩, p, hp, rfl⟩

theorem Host.SpelledAs.bracket_not_mem (spelled : served.SpelledAs host) : '[' ∉ host.toList := by
  cases spelled with
  | localName => decide
  | address read => exact Address.bracket_not_mem_of_ofText? read

theorem bracket_not_mem_allowedOrigins (spelled : served.SpelledAs host)
    (single : isEveryInterface host = false)
    (allowed : text ∈ allowedOrigins host port interfaces) : '[' ∉ text.toList := by
  obtain ⟨name, hname, p, -, rfl⟩ := (mem_allowedOrigins_iff single).mp allowed
  have plain : '[' ∉ name.toList := by
    unfold originHosts at hname
    split at hname
    · have locals : ∀ n ∈ ["localhost", "127.0.0.1"], '[' ∉ n.toList := by decide
      exact locals name hname
    · obtain rfl := List.mem_singleton.mp hname
      exact spelled.bracket_not_mem
  simp [plain, Origin.bracket_not_mem_portText]

/-- A server at a single host allows the origins of its own pages and no others, with the port or
without it, if and only if its host is written without brackets. -/
theorem originLaw_iff (spelled : served.SpelledAs host) (single : isEveryInterface host = false)
    (port : Nat) (interfaces : List Address) :
    OriginLaw served port (allowedOrigins host port interfaces) ↔ served.bracketed = false := by
  constructor
  · intro law
    by_contra brackets
    obtain ⟨groups, valid, rfl, bracket, -⟩ := Host.exists_groups (eq_true_of_ne_false brackets)
    have own := law.own none (by simp)
    refine bracket_not_mem_allowedOrigins spelled single own ?_
    rw [Origin.text, String.toList_append, String.toList_append, Origin.http, bracket]
    simp
  · intro plain
    refine ⟨fun p hp => ?_, fun text allowed => ?_, fun o allowed => ?_⟩
    · exact (mem_allowedOrigins_iff_isOf spelled single plain).mpr
        ⟨.http served p, rfl, rfl, .self, hp⟩
    · exact (mem_allowedOrigins_iff_isOf spelled single plain).mp allowed
    · obtain ⟨o', same, isOf⟩ := (mem_allowedOrigins_iff_isOf spelled single plain).mp allowed
      exact Origin.text_injective same ▸ isOf

def office : Host := .address (.v4 [10, 0, 0, 5]) ⟨rfl, by decide⟩

/-- Where the server is not at a local host, neither the local names are allowed nor what else the
machine is called. -/
theorem originLaw_iff_office : office.SpelledAs "10.0.0.5" ∧ isEveryInterface "10.0.0.5" = false ∧
    allowedOrigins "10.0.0.5" 8080 [.v4 [192, 168, 0, 7]] =
      ["http://10.0.0.5:8080", "http://10.0.0.5"] ∧
    OriginLaw office 8080 (allowedOrigins "10.0.0.5" 8080 [.v4 [192, 168, 0, 7]]) := by
  have spelled : office.SpelledAs "10.0.0.5" :=
    .address (a := .v4 [10, 0, 0, 5]) (by decide +kernel)
  have single : isEveryInterface "10.0.0.5" = false := by decide
  exact ⟨spelled, single, by decide +kernel, (originLaw_iff spelled single 8080 _).mpr rfl⟩

def loopbackGroups : Host := .address (.v6 [0, 0, 0, 0, 0, 0, 0, 1]) ⟨rfl, by decide⟩

/-- The address of the local host that has colons is allowed without its brackets only. -/
theorem not_originLaw_loopbackGroups : loopbackGroups.SpelledAs "::1" ∧
    isEveryInterface "::1" = false ∧
    (Origin.http loopbackGroups (some 5390)).text = "http://[::1]:5390" ∧
    allowedOrigins "::1" 5390 [] = ["http://::1:5390", "http://::1"] ∧
    ¬ OriginLaw loopbackGroups 5390 (allowedOrigins "::1" 5390 []) := by
  have spelled : loopbackGroups.SpelledAs "::1" :=
    .address (a := .v6 [0, 0, 0, 0, 0, 0, 0, 1]) (by decide +kernel)
  have own : (Origin.http loopbackGroups (some 5390)).text = "http://[::1]:5390" := by
    decide +kernel
  have allowed : allowedOrigins "::1" 5390 [] = ["http://::1:5390", "http://::1"] := by
    decide +kernel
  refine ⟨spelled, by decide, own, allowed, fun law => ?_⟩
  have member := law.own (some 5390) List.mem_cons_self
  rw [own, allowed] at member
  exact absurd member (by decide)

end FilterSql.Service
