/-
Endpoints come back from their text.

Reading the text of an endpoint takes the brackets off the ends of its host, those
that the text put there and those that were there before (`parse_text_tcp`), and
the blanks off the end of its path (`parse_text_unix`). So an endpoint comes back
from its text if and only if there is nothing to take off and something is left
(`Canonical`). What is read has been through this already (`canonical_of_parse`),
whichever way it was written.
-/
import Screencast.Endpoint
import Screencast.Proofs.Text.Ends
import Screencast.Proofs.Text.Numeral
import Screencast.Proofs.Text.Utf8

namespace Screencast

namespace Endpoint

/-- An endpoint with nothing at its ends that reading takes off. -/
def Canonical : Endpoint → Prop
  | tcp host _ => host ≠ "" ∧ host.toList.head? ≠ some '[' ∧ host.toList.getLast? ≠ some ']'
  | unix path => path ≠ "" ∧ ∀ c ∈ path.toList.getLast?, Blank.isBlank c = false

/-! ## Hosts -/

/-- A host as it is shown. -/
def bracket (host : List Char) : List Char :=
  if ':' ∈ host then '[' :: (host ++ [']']) else host

/-- The brackets that were put around a host go with those that it had. -/
theorem unbracket_bracket (host : List Char) : unbracket (bracket host) = unbracket host := by
  unfold bracket
  split
  · -- The bracket behind stays when brackets are dropped in front, even if nothing else does.
    rw [unbracket, Affix.dropStart_cons, Affix.dropStart_concat (by decide), Affix.dropEnd_concat,
      unbracket]
  · rfl

theorem head?_unbracket (host : List Char) : (unbracket host).head? ≠ some '[' := by
  intro h
  have hne : unbracket host ≠ [] := by
    intro hnil
    rw [hnil] at h
    cases h
  rw [unbracket, Affix.head?_dropEnd hne] at h
  exact Affix.head?_dropStart '[' host h

theorem getLast?_unbracket (host : List Char) : (unbracket host).getLast? ≠ some ']' :=
  Affix.getLast?_dropEnd ']' _

theorem unbracket_eq_self_iff {host : List Char} :
    unbracket host = host ↔ host.head? ≠ some '[' ∧ host.getLast? ≠ some ']' := by
  constructor
  · intro h
    rw [← h]
    exact ⟨head?_unbracket host, getLast?_unbracket host⟩
  · rintro ⟨hfirst, hlast⟩
    rw [unbracket, Affix.dropStart_of_head? hfirst, Affix.dropEnd_of_getLast? hlast]

/-! ## Ports -/

theorem port?_toDigits (port : UInt16) : port? (Nat.toDigits 10 port.toNat) = some port := by
  have hle : port.toNat ≤ Numeral.max16 := Nat.le_of_lt_succ port.toNat_lt
  rw [port?, Numeral.parse?_toDigits hle, Option.map_some, UInt16.ofNat_toNat]

/-- What holds a colon is no port. -/
theorem port?_eq_none {text : List Char} (h : ':' ∈ text) : port? text = none := by
  rw [port?, Option.map_eq_none_iff, Option.eq_none_iff_forall_ne_some]
  intro n hn
  exact (Numeral.parse?_eq_some_iff.mp hn).1.not_mem (by decide) (by decide) h

/-! ## What is read -/

theorem unlessEmpty_eq_ok_iff {text : List Char} {reason : String} {found endpoint : Endpoint} :
    (if text.isEmpty then Except.error reason else .ok found) = .ok endpoint ↔
      text ≠ [] ∧ found = endpoint := by
  cases text with
  | nil => exact ⟨nofun, fun h => absurd rfl h.1⟩
  | cons c rest => simp

theorem parse_eq_ok_iff {input : String} {endpoint : Endpoint} :
    parse input = .ok endpoint ↔ parseTrimmed (Blank.trim input.toList) = .ok endpoint := by
  unfold parse
  cases parseTrimmed (Blank.trim input.toList) with
  | error reason => simp [Except.mapError]
  | ok found => simp [Except.mapError]

/-- An address names an endpoint whose host is what is left without the brackets, or the usual
one. -/
theorem canonical_of_parseAddress {address : List Char} {endpoint : Endpoint}
    (h : parseAddress address = .ok endpoint) : endpoint.Canonical := by
  unfold parseAddress at h
  split at h
  · -- A bare port is one of this machine.
    cases h
    show loopback ≠ "" ∧ loopback.toList.head? ≠ some '[' ∧ loopback.toList.getLast? ≠ some ']'
    decide
  · split at h
    · cases h
    · next host digits hsplit =>
      split at h
      · cases h
      · next port hport =>
        obtain ⟨hne, rfl⟩ := unlessEmpty_eq_ok_iff.mp h
        refine ⟨?_, ?_, ?_⟩
        · rwa [Ne, ← String.toList_eq_nil_iff, String.toList_ofList]
        · rw [String.toList_ofList]
          exact head?_unbracket host
        · rw [String.toList_ofList]
          exact getLast?_unbracket host

/-- **Whatever is read is canonical.** -/
theorem canonical_of_parse {input : String} {endpoint : Endpoint}
    (h : parse input = .ok endpoint) : endpoint.Canonical := by
  have hbare := Blank.bare_trim input.toList
  rw [parse_eq_ok_iff] at h
  generalize Blank.trim input.toList = trimmed at h hbare
  unfold parseTrimmed at h
  split at h
  · cases h
  · split at h
    · cases h
    · next path hne hafter =>
      cases h
      -- A path ends as the text does that it was read from.
      obtain rfl := Affix.after?_eq_some_iff.mp hafter
      have hpath : path ≠ [] := by
        rintro rfl
        exact hne rfl
      refine ⟨?_, ?_⟩
      · rwa [Ne, ← String.toList_eq_nil_iff, String.toList_ofList]
      · intro c hc
        rw [String.toList_ofList] at hc
        apply hbare.last c
        rwa [List.getLast?_append_of_ne_nil _ hpath]
    · exact canonical_of_parseAddress h

/-! ## Reading what is shown -/

theorem parseTrimmed_tcp (address : List Char) :
    parseTrimmed ("tcp:".toList ++ address) = parseAddress address := by
  have hafter : Affix.after? "tcp:".toList ("tcp:".toList ++ address) = some address :=
    Affix.after?_eq_some_iff.mpr rfl
  rw [parseTrimmed, hafter]
  rfl

theorem parseTrimmed_unix (path : List Char) :
    parseTrimmed ("unix:".toList ++ path) =
      if path.isEmpty then .error "missing socket path" else .ok (.unix (String.ofList path)) := by
  have hafter : Affix.after? "unix:".toList ("unix:".toList ++ path) = some path :=
    Affix.after?_eq_some_iff.mpr rfl
  rw [parseTrimmed, hafter]
  cases path with
  | nil => rfl
  | cons c rest => rfl

theorem toList_text_tcp (host : String) (port : UInt16) :
    (tcp host port).text.toList =
      "tcp:".toList ++ (bracket host.toList ++ ':' :: Nat.toDigits 10 port.toNat) := by
  have hport : (toString port).toList = Nat.toDigits 10 port.toNat := Nat.toList_repr
  rw [text, bracket, ← hport, String.contains_char_eq]
  by_cases hcolon : ':' ∈ host.toList
  · rw [if_pos hcolon, if_pos (decide_eq_true hcolon)]
    simp [toString]
  · rw [if_neg hcolon, if_neg (by simpa using hcolon)]
    simp [toString]

theorem toList_text_unix (path : String) :
    (unix path).text.toList = "unix:".toList ++ path.toList := by
  rw [text]
  exact String.toList_append

/-- Of a host and a port, everything is read but the brackets. -/
theorem parseAddress_append (host : List Char) (port : UInt16) :
    parseAddress (host ++ ':' :: Nat.toDigits 10 port.toNat) =
      if (unbracket host).isEmpty then .error "missing host"
      else .ok (.tcp (String.ofList (unbracket host)) port) := by
  have hnone : port? (host ++ ':' :: Nat.toDigits 10 port.toNat) = none := port?_eq_none (by simp)
  -- There may be colons in the host, but none in the port.
  have hcolon : ':' ∉ Nat.toDigits 10 port.toNat :=
    (Numeral.Written.toDigits _).not_mem (by decide) (by decide)
  have hsplit : Affix.splitLast? ':' (host ++ ':' :: Nat.toDigits 10 port.toNat) =
      some (host, Nat.toDigits 10 port.toNat) :=
    Affix.splitLast?_eq_some_iff.mpr ⟨rfl, hcolon⟩
  rw [parseAddress, hnone, hsplit]
  dsimp only
  rw [port?_toDigits]

/-- There is no blank at the end of a port. -/
theorem trimEnd_port (host : List Char) (port : UInt16) :
    Blank.trimEnd (host ++ ':' :: Nat.toDigits 10 port.toNat) =
      host ++ ':' :: Nat.toDigits 10 port.toNat := by
  rw [Blank.trimEnd_eq_self_iff]
  intro c hc
  rw [List.getLast?_append_of_ne_nil _ (List.cons_ne_nil _ _)] at hc
  rcases List.mem_cons.mp (List.mem_of_mem_getLast? hc) with rfl | hdigit
  · decide
  · exact (Numeral.Written.toDigits _).isBlank_eq_false c hdigit

theorem parse_text_tcp {host : String} {port : UInt16} {endpoint : Endpoint} :
    parse (tcp host port).text = .ok endpoint ↔
      unbracket host.toList ≠ [] ∧ tcp (String.ofList (unbracket host.toList)) port = endpoint := by
  have hopening : Blank.Bare "tcp:".toList := .of_forall (by simp [Blank.isBlank])
  rw [parse_eq_ok_iff, toList_text_tcp, Blank.trim_append (by simp) hopening, trimEnd_port,
    parseTrimmed_tcp, parseAddress_append, unbracket_bracket, unlessEmpty_eq_ok_iff]

theorem parse_text_unix {path : String} {endpoint : Endpoint} :
    parse (unix path).text = .ok endpoint ↔
      Blank.trimEnd path.toList ≠ [] ∧
        unix (String.ofList (Blank.trimEnd path.toList)) = endpoint := by
  have hopening : Blank.Bare "unix:".toList := .of_forall (by simp [Blank.isBlank])
  rw [parse_eq_ok_iff, toList_text_unix, Blank.trim_append (by simp) hopening,
    parseTrimmed_unix, unlessEmpty_eq_ok_iff]

/-- What is left is the whole if and only if the whole loses nothing. -/
theorem left_eq_iff {whole : String} {left : List Char} :
    left ≠ [] ∧ String.ofList left = whole ↔ whole ≠ "" ∧ left = whole.toList := by
  constructor
  · rintro ⟨hne, rfl⟩
    refine ⟨?_, String.toList_ofList.symm⟩
    rwa [Ne, ← String.toList_eq_nil_iff, String.toList_ofList]
  · rintro ⟨hne, rfl⟩
    refine ⟨?_, String.ofList_toList⟩
    rwa [Ne, String.toList_eq_nil_iff]

/-- **An endpoint comes back from its text if and only if it is canonical.** -/
theorem parse_text_iff {endpoint : Endpoint} :
    parse endpoint.text = .ok endpoint ↔ endpoint.Canonical := by
  cases endpoint with
  | tcp host port =>
    rw [parse_text_tcp, tcp.injEq, eq_self, and_true, left_eq_iff, unbracket_eq_self_iff, Canonical]
  | unix path =>
    rw [parse_text_unix, unix.injEq, left_eq_iff, Blank.trimEnd_eq_self_iff, Canonical]

/-! ## Places -/

/-- Where a device can be reached. The path of a socket is bytes, which may be no text. -/
inductive Place
  | tcp (host : String) (port : UInt16)
  | unix (path : List UInt8)
  deriving DecidableEq, Repr

/-- The place of an endpoint. -/
def place : Endpoint → Place
  | tcp host port => .tcp host port
  | unix path => .unix (Utf8.encode path.toList)

/-- A place as it is shown, with replacement characters in a path that is no text. -/
def Place.text : Place → String
  | tcp host port => (Endpoint.tcp host port).text
  | unix path => (Endpoint.unix (String.ofList (Utf8.decodeLossy path))).text

theorem text_place (endpoint : Endpoint) : endpoint.place.text = endpoint.text := by
  cases endpoint with
  | tcp host port => rfl
  | unix path => rw [place, Place.text, Utf8.decodeLossy_encode, String.ofList_toList]

/-- **Endpoints are read back from their text.** What is read from a text, however it was written,
is canonical. An endpoint comes back from its own text if and only if it is canonical, so every one
that was read does. And a place comes back if and only if it is that of a canonical endpoint: one
with a path that is no text never does. -/
theorem text_reads_back :
    (∀ input endpoint, parse input = .ok endpoint → endpoint.Canonical) ∧
    (∀ endpoint, parse endpoint.text = .ok endpoint ↔ endpoint.Canonical) ∧
    (∀ input endpoint, parse input = .ok endpoint → parse endpoint.text = .ok endpoint) ∧
    ∀ place : Place, (∃ endpoint, parse place.text = .ok endpoint ∧ endpoint.place = place) ↔
      ∃ endpoint : Endpoint, endpoint.place = place ∧ endpoint.Canonical := by
  refine ⟨?_, ?_, ?_, ?_⟩
  · intro input endpoint h
    exact canonical_of_parse h
  · intro endpoint
    exact parse_text_iff
  · intro input endpoint h
    exact parse_text_iff.mpr (canonical_of_parse h)
  · intro place
    constructor
    · rintro ⟨endpoint, hparse, hplace⟩
      exact ⟨endpoint, hplace, canonical_of_parse hparse⟩
    · rintro ⟨endpoint, rfl, hcanonical⟩
      refine ⟨endpoint, ?_, rfl⟩
      rw [text_place]
      exact parse_text_iff.mpr hcanonical

/-- A host with brackets inside and colons, between brackets and blanks; a host that is named as the
kind of its endpoint; a bare port; and three endpoints that do not come back. -/
theorem text_reads_back_brackets :
    let inner : Endpoint := .tcp "a]:[b" 80
    let named : Endpoint := .tcp "tcp" 80
    (parse " tcp:[[a]:[b]]:+080\n" = .ok inner ∧ inner.text = "tcp:[a]:[b]:80" ∧
      inner.Canonical ∧ parse inner.text = .ok inner) ∧
    (parse "tcp:tcp:80" = .ok named ∧ parse named.text = .ok named) ∧
    (parse "tcp:80" = .ok (.onLoopback 80) ∧
      parse (onLoopback 80).text = .ok (.onLoopback 80)) ∧
    parse (tcp "[::1]" 80).text ≠ .ok (.tcp "[::1]" 80) ∧
    parse (unix "/tmp/socket ").text ≠ .ok (.unix "/tmp/socket ") ∧
    ¬ ∃ endpoint, parse (Place.unix [0xFF]).text = .ok endpoint ∧ endpoint.place = .unix [0xFF] := by
  intro inner named
  obtain ⟨hcanonical, hiff, hback, hplaces⟩ := text_reads_back
  have hinner : parse " tcp:[[a]:[b]]:+080\n" = .ok inner := by decide
  have hnamed : parse "tcp:tcp:80" = .ok named := by decide
  have hport : parse "tcp:80" = .ok (.onLoopback 80) := by decide
  have htext : inner.text = "tcp:[a]:[b]:80" := by
    rw [← String.toList_inj, toList_text_tcp]
    decide
  refine ⟨⟨hinner, htext, hcanonical _ _ hinner, hback _ _ hinner⟩,
    ⟨hnamed, hback _ _ hnamed⟩, ⟨hport, hback _ _ hport⟩, ?_, ?_, ?_⟩
  · rw [Ne, hiff]
    rintro ⟨-, hfirst, -⟩
    exact hfirst rfl
  · rw [Ne, hiff]
    rintro ⟨-, hlast⟩
    exact absurd (hlast ' ' rfl) (by decide)
  · rw [hplaces]
    rintro ⟨_ | path, hplace, -⟩
    · cases hplace
    · -- A byte that is no text is not what any text is written as.
      injection hplace with hbytes
      have hback : Utf8.encode (Utf8.decodeLossy [0xFF]) = [0xFF] := by
        rw [← hbytes, Utf8.decodeLossy_encode]
      exact absurd hback (by decide)

end Endpoint

end Screencast
