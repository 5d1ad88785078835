import Vigil.Proofs.Url.Host
import Vigil.Proofs.Url.Relative
import Vigil.Proofs.Url.Written

/-!
What targets keep of the text they are read from.
-/

namespace Vigil

namespace Url

theorem isHostText_of_read {s name : List Char} (h : Host.read s = .ok (.name name)) :
    IsHostText name := by
  obtain ⟨⟨domain, ascii⟩, ne_nil, -⟩ := Host.read_eq_name h
  exact isHostText_of_bare ne_nil fun c hc =>
    Idna.isForbidden_of_isPlain (Idna.isPlain_of_mem_toAscii? ascii c hc)

/-- What a text says as a web address: a scheme in letters of either case, and behind slashes a
place on it. -/
def Says (text : List Char) (scheme : Scheme) (l : Location) : Prop :=
  ∃ name rest, IsScheme name ∧ String.ofList (name.map Char.toLower) = scheme.text ∧
    text = name ++ ':' :: rest ∧ readLocation (rest.dropWhile isSlash) = .ok l

theorem Says.readAbsolute {text : List Char} {scheme : Scheme} {l : Location}
    (h : Says text scheme l) :
    readAbsolute text = .ok (.web (ofLocation scheme l)) := by
  obtain ⟨name, rest, isScheme, named, rfl, located⟩ := h
  rw [readAbsolute_web isScheme named, located]
  rfl

/-- Under a scheme other than those of the web, whatever can be read is foreign. -/
theorem exists_foreign {name rest : List Char} (h : IsScheme name)
    (http : String.ofList (name.map Char.toLower) ≠ Scheme.http.text)
    (https : String.ofList (name.map Char.toLower) ≠ Scheme.https.text) {r : Reading}
    (read : readAbsolute (name ++ ':' :: rest) = .ok r) : ∃ scheme, r = .foreign scheme := by
  simp only [Url.readAbsolute, splitScheme?_of_isScheme h, beq_iff_eq, http, https, if_false]
    at read
  split at read
  · obtain ⟨l, -, rfl⟩ := map_eq_ok.mp read
    exact ⟨_, rfl⟩
  · split at read
    · obtain ⟨l, -, rfl⟩ := map_eq_ok.mp read
      exact ⟨_, rfl⟩
    · split at read
      · obtain ⟨l, -, rfl⟩ := map_eq_ok.mp read
        exact ⟨_, rfl⟩
      · cases read
        exact ⟨_, rfl⟩

/-- A text without a scheme is relative; one with a scheme is a web address or that of another
scheme. -/
theorem readAbsolute_cases {text : List Char} {r : Reading} (read : readAbsolute text = .ok r) :
    (¬ NamesScheme text ∧ r = .relative) ∨
      (∃ scheme l, Says text scheme l ∧ r = .web (ofLocation scheme l)) ∨ ∃ scheme,
      r = .foreign scheme := by
  by_cases named : NamesScheme text
  · obtain ⟨name, rest, isScheme, rfl⟩ := named
    have web : ∀ scheme : Scheme, String.ofList (name.map Char.toLower) = scheme.text →
        ∃ scheme l, Says (name ++ ':' :: rest) scheme l ∧ r = .web (ofLocation scheme l) := by
      intro scheme named
      rw [readAbsolute_web isScheme named] at read
      obtain ⟨l, located, rfl⟩ := map_eq_ok.mp read
      exact ⟨scheme, l, ⟨name, rest, isScheme, named, rfl, located⟩, rfl⟩
    by_cases http : String.ofList (name.map Char.toLower) = Scheme.http.text
    · exact .inr (.inl (web .http http))
    by_cases https : String.ofList (name.map Char.toLower) = Scheme.https.text
    · exact .inr (.inl (web .https https))
    exact .inr (.inr (exists_foreign isScheme http https read))
  · rw [readAbsolute, splitScheme?_eq_none.mpr named] at read
    cases read
    exact .inl ⟨named, rfl⟩

theorem settled_of_readLocation {s : List Char} {l : Location} (h : readLocation s = .ok l) :
    Settled l.path l.query := by
  obtain ⟨-, -, -, resource⟩ := readLocation_eq_ok.mp h
  obtain ⟨r, whole⟩ := exists_reference (splitAuthority true s).2
  rw [← whole, r.readResource_text] at resource
  obtain ⟨path, query⟩ := Prod.mk.inj resource
  exact path ▸ query ▸ r.settled

/-- What has been read once is encoded and free of dots, so that it reads as itself. -/
theorem settled_of_readRelative {s : List Char} {path : List (List Char)}
    {query : Option (List Char)} (h : readRelative s = .ok (path, query)) : Settled path query := by
  obtain ⟨r, rfl⟩ := exists_reference s
  by_cases slashes : startsWithSlashes r.text = true
  · rw [startsWithSlashes_text] at slashes
    obtain ⟨_, location, parts, -, -, reading⟩ := exists_slashes slashes
    rw [reading] at h
    obtain ⟨l, located, same⟩ := map_eq_ok.mp h
    obtain ⟨path, query⟩ := Prod.mk.inj same
    exact path ▸ query ▸ settled_of_readLocation located
  · rw [readRelative_of_path (eq_false_of_ne_true slashes), r.readResource_text] at h
    obtain ⟨path, query⟩ := Prod.mk.inj (Except.ok.inj h)
    exact path ▸ query ▸ r.settled

end Url

namespace Target

open Url

/-- A text without blanks and controls is read as it stands. -/
theorem spelled_of_visible {s : List Char} (h : ∀ c ∈ s, 0x20 < c.toNat ∧ Text.isBlank c = false)
    (ne_nil : s ≠ []) :
    spelled (String.ofList s) = s := by
  have trimmed : Text.trimmed (String.ofList s) = String.ofList s := by
    rw [Text.trimmed, String.toList_ofList, Text.trim_of_no_blank fun c hc => (h c hc).2]
  have filled : (String.ofList s).isEmpty = false := by
    simpa [String.isEmpty_eq_false_iff] using ne_nil
  have effective : effectiveText (String.ofList s) = String.ofList s := by
    simp only [effectiveText, trimmed, filled, Bool.false_eq_true, if_false]
  rw [spelled, effective, String.toList_ofList, cleaned_of_visible fun c hc => (h c hc).1]

/-- A target is that of a web address, or is read of a text without a scheme. -/
theorem read_eq_ok {s : String} {t : Target} : read s = .ok t ↔
    (∃ scheme l, Says (spelled s) scheme l ∧
        t = ⟨some l.host, l.port.filter (· != scheme.defaultPort), l.path, l.query⟩) ∨
      (¬ NamesScheme (spelled s) ∧ t.host = none ∧ t.port = none ∧
        readRelative (spelled s) = .ok (t.path, t.query)) := by
  constructor
  · intro h
    cases reading : readAbsolute (spelled s) with
    | error e =>
        rw [read, ← spelled, reading] at h
        cases h
    | ok r =>
        obtain ⟨unnamed, rfl⟩ | ⟨scheme, l, told, rfl⟩ | ⟨scheme, rfl⟩ := readAbsolute_cases reading
        · exact .inr ⟨unnamed, (read_eq_ok_of_no_scheme unnamed t).mp h⟩
        · rw [read, ← spelled, reading] at h
          cases h
          exact .inl ⟨scheme, l, told, rfl⟩
        · rw [read, ← spelled, reading] at h
          cases h
  · rintro (⟨scheme, l, told, rfl⟩ | ⟨unnamed, parts⟩)
    · rw [read, ← spelled, told.readAbsolute]
      rfl
    · exact (read_eq_ok_of_no_scheme unnamed t).mpr parts

theorem settled_of_read {s : String} {t : Target} (h : read s = .ok t) :
    Settled t.path t.query := by
  obtain ⟨scheme, l, ⟨name, rest, -, -, -, located⟩, rfl⟩ | ⟨-, -, -, resource⟩ := read_eq_ok.mp h
  · exact settled_of_readLocation located
  · exact settled_of_readRelative resource

theorem exists_host_of_read {s : String} {t : Target} (h : read s = .ok t) {host : Host}
    (named : t.host = some host) : ∃ text, Host.read text = .ok host := by
  obtain ⟨scheme, l, ⟨name, rest, -, -, -, located⟩, rfl⟩ | ⟨-, none, -, -⟩ := read_eq_ok.mp h
  · cases named
    exact ⟨_, (readLocation_eq_ok.mp located).2.1⟩
  · rw [none] at named
    cases named

end Target

end Vigil
