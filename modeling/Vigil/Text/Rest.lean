/-!
What remains of a text after some of it has been read: shorter than the text, so that readers end.
-/

namespace Vigil.Text

/-- What remains of a text after some of it has been read. -/
abbrev Rest (s : List Char) := { r : List Char // r.length < s.length }

/-- A rest of a text that is not longer. -/
def Rest.within {s t : List Char} (r : Rest t) (h : t.length ≤ s.length) : Rest s :=
  ⟨r.1, Nat.lt_of_lt_of_le r.2 h⟩

/-- What stands behind the first character. -/
def Rest.tail (c : Char) (s : List Char) : Rest (c :: s) := ⟨s, Nat.lt_succ_self _⟩

def Rest.behind {c : Char} {s : List Char} (r : Rest s) : Rest (c :: s) :=
  ⟨r.1, Nat.lt_succ_of_lt r.2⟩

/-- A rest of a rest of the same text. -/
def Rest.onward {s : List Char} (r : Rest s) (t : Rest r.1) : Rest s := ⟨t.1, Nat.lt_trans t.2 r.2⟩

/-- A rest that is checked to be shorter. -/
def Rest.of? (s r : List Char) : Option (Rest s) :=
  if h : r.length < s.length then some ⟨r, h⟩ else none

def skipWhile (p : Char → Bool) (s : List Char) : { r : List Char // r.length ≤ s.length } :=
  ⟨s.dropWhile p, (List.dropWhile_sublist _).length_le⟩

end Vigil.Text
