/-!
Punycode: a list of code points written in letters, digits and hyphens. ASCII comes first as it is;
the other code points follow in increasing order, each as the distance from the one before, in a
number system whose digit thresholds adapt to the distances seen. The numbers are of any size, so a
text of any length has its punycode.
-/

namespace Vigil.Idna.Punycode

/-- Digits are the letters, then the decimal digits. -/
def digit (d : Nat) : Char := if d < 26 then Char.ofNat (97 + d) else Char.ofNat (22 + d)

def digitValue? (c : Char) : Option Nat :=
  let n := c.toNat
  if 97 ≤ n && n ≤ 122 then some (n - 97)
  else if 65 ≤ n && n ≤ 90 then some (n - 65)
  else if 48 ≤ n && n ≤ 57 then some (n - 22)
  else none

/-- The least digit that is not the last one at position `k` (a multiple of 36). -/
def threshold (k bias : Nat) : Nat :=
  if k ≤ bias then 1 else if bias + 26 ≤ k then 26 else k - bias

theorem threshold_pos (k bias : Nat) : 1 ≤ threshold k bias := by
  unfold threshold; split
  · exact Nat.le_refl 1
  · split <;> omega

theorem threshold_le (k bias : Nat) : threshold k bias ≤ 26 := by
  unfold threshold; split
  · omega
  · split <;> omega

/-- Scale a distance down until it is at most 455, counting positions. -/
def scale (delta k : Nat) : Nat × Nat :=
  if 455 < delta then scale (delta / 35) (k + 36) else (delta, k)
termination_by delta
decreasing_by omega

/-- The bias after the distance `delta`, with `count` code points placed. -/
def adapt (delta count : Nat) (first : Bool) : Nat :=
  let halved := if first then delta / 700 else delta / 2
  let (d, k) := scale (halved + halved / count) 0
  k + 36 * d / (d + 38)

/-! ### Writing -/

/-- A distance as digits, the least significant first. -/
def writeNumber (bias k q : Nat) : List Char :=
  let t := threshold k bias
  if q < t then [digit q]
  else digit (t + (q - t) % (36 - t)) :: writeNumber bias (k + 36) ((q - t) / (36 - t))
termination_by q
decreasing_by
  have := threshold_pos k bias
  have := threshold_le k bias
  calc (q - threshold k bias) / (36 - threshold k bias)
      ≤ q - threshold k bias := Nat.div_le_self _ _
    _ < q := by omega

/-- A text being written: the digits, last one first, the distance since the last code point placed,
the bias, and how many code points are placed. -/
structure Writing where
  digits : List Char
  delta : Nat
  bias : Nat
  placed : Nat

/-- Pass one code point of the text while placing those equal to `n`. -/
def Writing.pass (basic n : Nat) (w : Writing) (c : Char) : Writing :=
  if c.toNat < n then { w with delta := w.delta + 1 }
  else if c.toNat == n then
    { digits := (writeNumber w.bias 36 w.delta).reverse ++ w.digits
      delta := 0
      bias := adapt w.delta (w.placed + 1) (w.placed == basic)
      placed := w.placed + 1 }
  else w

/-- Place the code points of a sorted list; `n` is the least that is not placed yet. -/
def Writing.place (text : List Char) (basic : Nat) : List Nat → Nat → Writing → Writing
  | [], _, w => w
  | m :: rest, n, w =>
    let w := { w with delta := w.delta + (m - n) * (w.placed + 1) }
    let w := text.foldl (Writing.pass basic m) w
    Writing.place text basic rest (m + 1) { w with delta := w.delta + 1 }

/-- The code points above ASCII, sorted, each once. -/
def extended (text : List Char) : List Nat :=
  (((text.filter fun c => 128 ≤ c.toNat).map Char.toNat).mergeSort).eraseDups

def encode (text : List Char) : List Char :=
  let basic := text.filter fun c => c.toNat < 128
  let w := Writing.place text basic.length (extended text) 128 ⟨[], 0, 72, basic.length⟩
  basic ++ (if basic.isEmpty then [] else ['-']) ++ w.digits.reverse

/-! ### Reading -/

/-- Read one number onto `i`, whose digits weigh `w` from position `k` on; gives the sum and the
rest of the input. -/
def readNumber? (bias : Nat) : List Char → Nat → Nat → Nat → Option (Nat × List Char)
  | [], _, _, _ => none
  | c :: rest, k, w, i =>
    match digitValue? c with
    | none => none
    | some d =>
      let t := threshold k bias
      let i := i + d * w
      if d < t then some (i, rest) else readNumber? bias rest (k + 36) (w * (36 - t)) i

/-- Reading a number uses up some of the input, so that reading all of them comes to an end. -/
theorem readNumber?_length {bias : Nat} {s : List Char} {k w i : Nat} {r : Nat × List Char}
    (h : readNumber? bias s k w i = some r) : r.2.length < s.length := by
  induction s generalizing k w i with
  | nil => simp [readNumber?] at h
  | cons c rest ih =>
    unfold readNumber? at h
    split at h
    · cases h
    · dsimp only at h
      split at h
      · cases h; simp
      · have := ih h
        simp only [List.length_cons]
        omega

/-- Read the numbers of the extended part: each places the code point `n + i / (length + 1)` at
index `i % (length + 1)`. -/
def readAll? (basic : Nat) (s : List Char) (out : List Char) (n i bias : Nat) :
    Option (List Char) :=
  if s.isEmpty then some out
  else
    match _h : readNumber? bias s 36 1 i with
    | none => none
    | some (j, rest) =>
      let count := out.length + 1
      let n := n + j / count
      if 0x10FFFF < n || (0xD800 ≤ n && n ≤ 0xDFFF) then none
      else readAll? basic rest (out.insertIdx (j % count) (Char.ofNat n)) n (j % count + 1)
        (adapt (j - i) count (out.length == basic))
termination_by s.length
decreasing_by exact readNumber?_length _h

def decode? (s : List Char) : Option (List Char) :=
  let (ext, basic) := s.reverse.span (· != '-')
  let basic := (basic.drop 1).reverse
  if basic.all (·.toNat < 128) then readAll? basic.length ext.reverse basic 128 0 72
  else none

end Vigil.Idna.Punycode
