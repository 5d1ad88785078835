import Vigil.Proofs.Outcome
import Vigil.Proofs.Url.Resource

/-!
What an address says behind its scheme: an authority and a resource, each of which is read for
itself.
-/

namespace Vigil.Url

/-! ### The scheme -/

/-- The name of a scheme: a letter, then letters, digits and a few signs. -/
structure IsScheme (name : List Char) : Prop where
  letter : name.head?.any Char.isAlpha = true
  chars : ∀ c ∈ name, isSchemeChar c = true

/-- A text names a scheme if a colon stands behind one. -/
def NamesScheme (s : List Char) : Prop := ∃ name rest, IsScheme name ∧ s = name ++ ':' :: rest

/-- The scheme is what stands in front of the first colon. -/
theorem splitScheme?_of_isScheme {name rest : List Char} (h : IsScheme name) :
    splitScheme? (name ++ ':' :: rest) = some (name.map Char.toLower, rest) := by
  obtain ⟨letter, chars⟩ := h
  cases name with
  | nil => cases letter
  | cons c name =>
      have run : (c :: name ++ ':' :: rest).span isSchemeChar = (c :: name, ':' :: rest) :=
        Text.span_append_stop chars (by rintro d ⟨⟩; decide)
      have alpha : c.isAlpha = true := letter
      rw [List.cons_append] at run ⊢
      simp only [splitScheme?, alpha, if_true, run]

/-- What is split off is a scheme, in lower case. -/
theorem exists_isScheme_of_splitScheme? {s name rest : List Char}
    (h : splitScheme? s = some (name, rest)) :
    ∃ own, IsScheme own ∧ s = own ++ ':' :: rest ∧ name = own.map Char.toLower := by
  cases s with
  | nil => cases h
  | cons c s =>
      simp only [splitScheme?] at h
      split at h
      · rename_i alpha
        split at h
        · rename_i own tail run
          cases h
          rw [List.span_eq_takeWhile_dropWhile, Prod.mk.injEq] at run
          obtain ⟨front, behind⟩ := run
          refine ⟨own, ⟨?_, ?_⟩, ?_, rfl⟩
          · have first : isSchemeChar c = true := by simp [isSchemeChar, Char.isAlphanum, alpha]
            rw [List.takeWhile_cons_of_pos first] at front
            rw [← front]
            exact alpha
          · rw [← front]
            exact fun d hd => List.mem_takeWhile_imp hd
          · rw [← front, ← behind, List.takeWhile_append_dropWhile]
        · cases h
      · cases h

/-- Where nothing can be split off, no colon stands behind a scheme. -/
theorem splitScheme?_eq_none {s : List Char} : splitScheme? s = none ↔ ¬ NamesScheme s := by
  constructor
  · rintro none ⟨name, rest, h, rfl⟩
    rw [splitScheme?_of_isScheme h] at none
    cases none
  · intro unnamed
    cases split : splitScheme? s with
    | none => rfl
    | some parts =>
        obtain ⟨own, h, whole, -⟩ := exists_isScheme_of_splitScheme? split
        exact absurd ⟨own, _, h, whole⟩ unnamed

/-! ### Authority and resource -/

def endsAuthority (c : Char) : Bool := c == '/' || c == '?' || c == '#' || c == '\\'

theorem splitAuthority_append {authority rest : List Char}
    (h : ∀ c ∈ authority, endsAuthority c = false)
    (stop : ∀ c ∈ rest.head?, endsAuthority c = true) :
    splitAuthority true (authority ++ rest) = (authority, rest) :=
  Text.span_append_stop (fun c hc => congrArg not (h c hc)) (fun c hc => congrArg not (stop c hc))

/-- Host and port of an authority as they are written; the user in front is left out. -/
def place (authority : List Char) : List Char × Option (List Char) :=
  splitPort false (splitUser authority).2

/-- A location is read part by part, each from its own part of the text. -/
theorem readLocation_eq_ok {s : List Char} {l : Location} :
    readLocation s = .ok l ↔
      (place (splitAuthority true s).1).1 ≠ [] ∧ Host.read (place (splitAuthority true s).1).1 =
        .ok l.host ∧
        readPort (place (splitAuthority true s).1).2 = .ok l.port ∧
        readResource (splitAuthority true s).2 = (l.path, l.query) := by
  obtain ⟨host, port, path, query⟩ := l
  simp only [readLocation, place]
  generalize splitPort false (splitUser (splitAuthority true s).1).2 = parts
  obtain ⟨hostText, portText⟩ := parts
  cases hostText with
  | nil => simp [bind, Except.bind]
  | cons c hostText =>
      simp only [List.isEmpty_cons, Bool.false_eq_true, if_false, bind_eq_ok, ne_eq, reduceCtorEq,
        not_false_eq_true, true_and]
      constructor
      · rintro ⟨_, hostRead, _, portRead, ⟨⟩⟩
        exact ⟨hostRead, portRead, rfl⟩
      · rintro ⟨hostRead, portRead, resource⟩
        exact ⟨_, hostRead, _, portRead, by rw [resource]; rfl⟩

/-- Whether an authority names a host, and a port if any, that can be read. -/
def NamesPlace (authority : List Char) : Prop :=
  (place authority).1 ≠ [] ∧ (∃ host, Host.read (place authority).1 = .ok host) ∧
    ∃ port, readPort (place authority).2 = .ok port

theorem isSlash_of_endsAuthority {c : Char} (h : endsAuthority c = false) : isSlash c = false := by
  simp only [endsAuthority, Bool.or_eq_false_iff] at h
  simp [isSlash, h]

theorem endsAuthority_eq_false {c : Char} (slash : isSlash c = false) (mark : c ≠ '?')
    (sharp : c ≠ '#') :
    endsAuthority c = false := by
  simp only [isSlash, Bool.or_eq_false_iff] at slash
  simp [endsAuthority, slash, mark, sharp]

/-- Of an authority and a reference behind it, path and query are those of the reference. -/
theorem readLocation_append {authority : List Char} {r : Reference}
    (h : ∀ c ∈ authority, endsAuthority c = false) (stop : ∀ c ∈ r.path.head?, isSlash c = true)
    (l : Location) :
    readLocation (authority ++ r.text) = .ok l ↔
      (place authority).1 ≠ [] ∧ Host.read (place authority).1 = .ok l.host ∧
        readPort (place authority).2 = .ok l.port ∧ l.path = r.segments ∧
        l.query = r.encodedQuery := by
  have ends : ∀ c ∈ r.text.head?, endsAuthority c = true := by
    intro c hc
    rw [Reference.text, List.head?_append] at hc
    cases first : r.path.head? with
    | none =>
        rw [first] at hc
        obtain rfl | rfl := r.head?_ending c hc <;> rfl
    | some d =>
        rw [first] at hc
        cases hc
        have slash := stop c first
        simp only [isSlash, Bool.or_eq_true] at slash
        obtain slash | slash := slash <;> simp [endsAuthority, slash]
  rw [readLocation_eq_ok, splitAuthority_append h ends, r.readResource_text, Prod.mk.injEq,
    eq_comm (a := r.segments), eq_comm (a := r.encodedQuery)]

end Vigil.Url
