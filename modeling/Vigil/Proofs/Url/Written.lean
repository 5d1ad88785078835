import Vigil.Proofs.Net.Address
import Vigil.Proofs.Url.Authority
import Vigil.Url.Target

/-!
Addresses that are written out of their parts, and read again.
-/

namespace Vigil.Url

open Vigil.Text

/-! ### Nothing to clean -/

/-- Nothing is cut off a text of visible characters. -/
theorem cleaned_of_visible {s : List Char} (h : ∀ c ∈ s, 0x20 < c.toNat) : cleaned s = s := by
  have edge : ∀ c ∈ s, decide (c.toNat ≤ 0x20) = false :=
    fun c hc => decide_eq_false (Nat.not_le_of_lt (h c hc))
  have inner : s.filter (fun c => !(['\t', '\n', '\r'].contains c)) = s := by
    rw [List.filter_eq_self]
    intro c hc
    have blank : ['\t', '\n', '\r'].all (fun d => d.toNat ≤ 0x20) = true := by decide
    have visible := h c hc
    simp only [Bool.not_eq_true', List.contains_eq_mem, decide_eq_false_iff_not]
    intro mem
    have := List.all_eq_true.mp blank c mem
    simp only [decide_eq_true_eq] at this
    omega
  simp only [cleaned, dropWhile_of_none edge, dropEndWhile_of_none edge, inner]

theorem visible_of_plain {c : Char} (outside : isOutside c = false) (blank : c ≠ ' ') :
    0x20 < c.toNat := by
  simp only [isOutside, Bool.or_eq_false_iff, decide_eq_false_iff_not] at outside
  have : c.toNat ≠ 0x20 := fun same => blank (Char.toNat_inj.mp same)
  omega

/-- Path and query are written with visible characters only. -/
theorem Settled.visible {path : List (List Char)} {query : Option (List Char)}
    (h : Settled path query) :
    ∀ c ∈ (resourceText path query).toList, 0x20 < c.toNat := by
  intro c hc
  rw [toList_resourceText] at hc
  obtain hc | hc := List.mem_append.mp hc
  · obtain ⟨s, hs, hc⟩ := List.mem_flatMap.mp hc
    obtain rfl | hc := List.mem_cons.mp hc
    · decide
    · have plain := (h.path_plain s hs c hc).1
      simp only [encodedInPath, Bool.or_eq_false_iff] at plain
      exact visible_of_plain plain.1 (by rintro rfl; cases plain.2)
  · cases query with
    | none => cases hc
    | some q =>
        obtain rfl | hc := List.mem_cons.mp hc
        · decide
        · have plain := h.query_plain q rfl c hc
          simp only [encodedInQuery, Bool.or_eq_false_iff] at plain
          exact visible_of_plain plain.1 (by rintro rfl; cases plain.2)

/-! ### Ports -/

theorem readPort_toDigits (port : UInt16) :
    readPort (some (Nat.toDigits 10 port.toNat)) = .ok (some port) := by
  obtain ⟨c, rest, digits⟩ :=
    List.exists_cons_of_ne_nil (Nat.toDigits_ne_nil (b := 10) (n := port.toNat))
  have number : readNat? 10 (Nat.toDigits 10 port.toNat) = some port.toNat :=
    readNat?_toDigits (by decide) (by decide)
  have small := port.toNat_lt
  rw [digits] at number ⊢
  simp only [readPort, number]
  rw [if_pos (by omega)]
  simp

/-! ### Hosts -/

/-- A text that may stand in an authority as its host, in front of a port. -/
structure IsHostText (host : List Char) : Prop where
  ne_nil : host ≠ []
  plain : ∀ c ∈ host, 0x20 < c.toNat ∧ endsAuthority c = false ∧ c ≠ '@'
  splits : ∀ port, splitPort false (host ++ ':' :: port) = (host, some port)

theorem splitPort_of_bare {host : List Char} (h : ∀ c ∈ host, c ≠ ':' ∧ c ≠ '[')
    (port : List Char) :
    splitPort false (host ++ ':' :: port) = (host, some port) := by
  induction host with
  | nil => rfl
  | cons c host ih =>
      have bare := h c List.mem_cons_self
      have outside : (c == '[') = false := beq_eq_false_iff_ne.mpr bare.2
      have rest := ih fun d hd => h d (List.mem_cons_of_mem _ hd)
      simp [splitPort, bare.1, outside, rest]

/-- Colons in brackets do not end the host. -/
theorem splitPort_of_bracketed {inner : List Char} (h : ∀ c ∈ inner, c ≠ ']') (port : List Char) :
    splitPort false ('[' :: inner ++ ']' :: ':' :: port) = ('[' :: inner ++ [']'], some port) := by
  have inside : splitPort true (inner ++ ']' :: ':' :: port) = (inner ++ [']'], some port) := by
    induction inner with
    | nil => rfl
    | cons c inner ih =>
        have within : (c == '[' || c != ']') = true := by simp [h c List.mem_cons_self]
        have rest := ih fun d hd => h d (List.mem_cons_of_mem _ hd)
        simp [splitPort, within, rest]
  simp [splitPort, inside]

/-- A name without forbidden characters stands in an authority as it is. -/
theorem isHostText_of_bare {host : List Char} (ne_nil : host ≠ [])
    (plain : ∀ c ∈ host, Idna.isForbidden c = false) : IsHostText host := by
  have apart : ∀ c ∈ host, ∀ d, Idna.isForbidden d = true → c ≠ d := by
    rintro c hc d forbidden rfl
    exact Bool.false_ne_true ((plain c hc).symm.trans forbidden)
  refine ⟨ne_nil, fun c hc => ⟨?_, ?_, apart c hc '@' rfl⟩, ?_⟩
  · have := plain c hc
    simp only [Idna.isForbidden, Bool.or_eq_false_iff, decide_eq_false_iff_not] at this
    omega
  · have others := apart c hc
    simp [endsAuthority, others '/' rfl, others '?' rfl, others '#' rfl, others '\\' rfl]
  · exact splitPort_of_bare fun c hc => ⟨apart c hc ':' rfl, apart c hc '[' rfl⟩

/-- So does an address in brackets. -/
theorem isHostText_bracketed {inner : List Char} (h : ∀ c ∈ inner, c ∈ Net.addressChars) :
    IsHostText ('[' :: inner ++ [']']) := by
  have fit : ('[' :: ']' :: Net.addressChars).all (fun c => 0x20 < c.toNat && !endsAuthority c &&
    c != '@') = true := by
    decide
  refine ⟨by simp, fun c hc => ?_, fun port => ?_⟩
  · have mem : c ∈ '[' :: ']' :: Net.addressChars := by
      simp only [List.cons_append, List.mem_cons, List.mem_append, List.not_mem_nil, or_false]
        at hc ⊢
      obtain rfl | hc | rfl := hc
      · exact .inl rfl
      · exact .inr (.inr (h c hc))
      · exact .inr (.inl rfl)
    simpa [and_assoc] using List.all_eq_true.mp fit c mem
  · rw [List.append_assoc]
    refine splitPort_of_bracketed (fun c hc => ?_) port
    rintro rfl
    exact absurd (h _ hc) (by decide)

theorem isHostText_address (a : Net.Address) : IsHostText (Host.ofAddress a).text.toList := by
  cases a with
  | v4 a =>
      have digits : (Text.numerals 10).all (fun c => !Idna.isForbidden c) = true := by decide
      refine isHostText_of_bare a.toList_text_ne_nil fun c hc => ?_
      obtain hc | rfl := Net.Ipv4.mem_text hc
      · simpa using List.all_eq_true.mp digits c hc
      · decide
  | v6 a =>
      have text : (Host.ofAddress (.v6 a)).text.toList = '[' :: a.text.toList ++ [']'] := by
        simp [Host.ofAddress, Host.text]
      rw [text]
      exact isHostText_bracketed fun c hc => Net.Ipv6.mem_addressChars hc

/-! ### Addresses -/

theorem splitUser_of_no_user {authority : List Char} (h : ∀ c ∈ authority, c ≠ '@') :
    splitUser authority = (none, authority) := by
  have user : dropEndWhile (· != '@') authority = [] := by
    simpa [dropEndWhile, List.dropWhile_eq_nil_iff] using h
  simp [splitUser, user]

/-- Host and port are found again where they have been put together. -/
theorem place_append {host port : List Char} (h : IsHostText host) (digits : ∀ c ∈ port, c ≠ '@') :
    place (host ++ ':' :: port) = (host, some port) := by
  have plain : ∀ c ∈ host ++ ':' :: port, c ≠ '@' := by
    intro c hc
    obtain hc | hc := List.mem_append.mp hc
    · exact (h.plain c hc).2.2
    · obtain rfl | hc := List.mem_cons.mp hc
      · decide
      · exact digits c hc
  rw [place, splitUser_of_no_user plain, h.splits]

theorem visible_of_mem_numerals {c : Char} (h : c ∈ numerals 10) :
    0x20 < c.toNat ∧ endsAuthority c = false ∧ c ≠ '@' := by
  have fit : (numerals 10).all (fun c => 0x20 < c.toNat && !endsAuthority c && c != '@') =
    true := by decide
  simpa [and_assoc] using List.all_eq_true.mp fit c h

theorem visible_of_mem_port {port : UInt16} {c : Char} (h : c ∈ Nat.toDigits 10 port.toNat) :
    0x20 < c.toNat ∧ endsAuthority c = false ∧ c ≠ '@' :=
  visible_of_mem_numerals (mem_numerals_of_mem_toDigits (by decide) h)

theorem dropWhile_slashes {host : List Char} (h : IsHostText host) (rest : List Char) :
    ('/' :: '/' :: (host ++ rest)).dropWhile isSlash = host ++ rest := by
  refine Text.dropWhile_append_stop (l := ['/', '/']) (by simp [isSlash]) ?_
  obtain ⟨c, tail, rfl⟩ := List.exists_cons_of_ne_nil h.ne_nil
  rintro d ⟨⟩
  exact isSlash_of_endsAuthority (h.plain c List.mem_cons_self).2.1

/-- A host, a port, a path and a query that may stand where they do are read back. -/
theorem readLocation_written {host : List Char} {path : List (List Char)}
    {query : Option (List Char)}
    (h : IsHostText host) (settled : Settled path query) (port : UInt16) (l : Location) :
    readLocation (host ++ ':' :: Nat.toDigits 10 port.toNat ++ settled.reference.text) = .ok l ↔
      Host.read host = .ok l.host ∧ l.port = some port ∧ l.path = path ∧ l.query = query := by
  have inside : ∀ c ∈ host ++ ':' :: Nat.toDigits 10 port.toNat, endsAuthority c = false := by
    intro c hc
    obtain hc | hc := List.mem_append.mp hc
    · exact (h.plain c hc).2.1
    · obtain rfl | hc := List.mem_cons.mp hc
      · decide
      · exact (visible_of_mem_port hc).2.1
  have stop : ∀ c ∈ settled.reference.path.head?, isSlash c = true := by
    rw [settled.head?_reference]
    rintro c ⟨⟩
    rfl
  rw [readLocation_append inside stop, place_append h fun c hc => (visible_of_mem_port hc).2.2,
    readPort_toDigits,
    settled.segments_reference, settled.encodedQuery_reference]
  simp [h.ne_nil, eq_comm]

theorem isScheme_text (scheme : Scheme) : IsScheme scheme.text.toList := by
  cases scheme <;> exact ⟨by decide, List.all_eq_true.mp (by decide)⟩

/-- An absolute web address is read for its scheme and for what stands behind the slashes. -/
theorem readAbsolute_web {scheme : Scheme} {name rest : List Char} (h : IsScheme name)
    (named : String.ofList (name.map Char.toLower) = scheme.text) :
    readAbsolute (name ++ ':' :: rest) =
      (readLocation (rest.dropWhile isSlash)).map fun l => .web (ofLocation scheme l) := by
  simp only [readAbsolute, splitScheme?_of_isScheme h, named]
  cases scheme <;> rfl

/-- The text of an address with its port, whatever the scheme implies. -/
def fullText (scheme : Scheme) (host : String) (port : UInt16) (path : List (List Char))
    (query : Option (List Char)) : String :=
  scheme.text ++ "://" ++ host ++ ":" ++ decimal port.toNat ++ resourceText path query

section Full

variable {scheme : Scheme} {host : String} {port : UInt16} {path : List (List Char)}
  {query : Option (List Char)}

theorem visible_fullText (h : IsHostText host.toList) (settled : Settled path query) :
    ∀ c ∈ (fullText scheme host port path query).toList, 0x20 < c.toNat := by
  intro c hc
  simp only [fullText, String.toList_append, List.mem_append] at hc
  obtain ((((hc | hc) | hc) | hc) | hc) | hc := hc
  · have all : scheme.text.toList.all (fun c => 0x20 < c.toNat) = true := by cases scheme <;> decide
    simpa using List.all_eq_true.mp all c hc
  · have all : "://".toList.all (fun c => 0x20 < c.toNat) = true := by decide
    simpa using List.all_eq_true.mp all c hc
  · exact (h.plain c hc).1
  · have all : ":".toList.all (fun c => 0x20 < c.toNat) = true := by decide
    simpa using List.all_eq_true.mp all c hc
  · exact (visible_of_mem_port (toList_decimal _ ▸ hc)).1
  · exact settled.visible c hc

/-- An address that is put together of parts that may stand where they do is read back part by
part. -/
theorem read_fullText (h : IsHostText host.toList) (settled : Settled path query) (url : Url) :
    Url.read (fullText scheme host port path query) = .ok url ↔
      ∃ named, Host.read host.toList = .ok named ∧
        url = ofLocation scheme ⟨named, some port, path, query⟩ := by
  have whole : (fullText scheme host port path query).toList =
      scheme.text.toList ++ ':' :: '/' :: '/' ::
        (host.toList ++ (':' :: Nat.toDigits 10 port.toNat ++ settled.reference.text)) := by
    simp [fullText, toList_decimal, settled.text_reference]
  have named : String.ofList (scheme.text.toList.map Char.toLower) = scheme.text := by
    cases scheme <;> decide
  have located := readLocation_written h settled port
  rw [Url.read, cleaned_of_visible (visible_fullText h settled), whole,
    readAbsolute_web (isScheme_text scheme) named, dropWhile_slashes h, ← List.append_assoc]
  constructor
  · intro done
    cases reading : readLocation (host.toList ++ ':' :: Nat.toDigits 10 port.toNat ++
      settled.reference.text) with
    | error e =>
        rw [reading] at done
        cases done
    | ok l =>
        rw [reading] at done
        cases done
        obtain ⟨hostRead, portRead, rfl, rfl⟩ := (located l).mp reading
        exact ⟨l.host, hostRead, by rw [← portRead]⟩
  · rintro ⟨read, hostRead, rfl⟩
    rw [(located ⟨read, some port, path, query⟩).mpr ⟨hostRead, rfl, rfl, rfl⟩]
    rfl

end Full

end Vigil.Url
