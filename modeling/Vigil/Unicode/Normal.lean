import Vigil.Unicode.CombiningClass
import Vigil.Unicode.Composition

/-!
Canonical composition (form C): composites are taken apart, marks are put in the order of their
combining classes, and what can be joined is joined again.
-/

namespace Vigil.Unicode

/-! ### Hangul syllables -/

/-- The parts of a Hangul syllable: a leading consonant, a vowel and perhaps a trailing
consonant. -/
def hangulParts? (n : Nat) : Option (List Nat) :=
  if 0xAC00 ≤ n && n < 0xAC00 + 11172 then
    let s := n - 0xAC00
    let lv := [0x1100 + s / 588, 0x1161 + s % 588 / 28]
    some (if s % 28 == 0 then lv else lv ++ [0x11A7 + s % 28])
  else none

/-- The Hangul syllable that two parts make. -/
def hangulWhole? (a b : Nat) : Option Nat :=
  if 0x1100 ≤ a && a < 0x1113 && 0x1161 ≤ b && b < 0x1176 then
    some (0xAC00 + ((a - 0x1100) * 21 + (b - 0x1161)) * 28)
  else if 0xAC00 ≤ a && a < 0xAC00 + 11172 && (a - 0xAC00) % 28 == 0 && 0x11A7 < b &&
    b < 0x11C3 then
    some (a + (b - 0x11A7))
  else none

/-! ### Taking apart -/

/-- A code point without its composites. The first part of a composite may be a composite again; no
character is more than `depth` deep. -/
def decompose : (depth : Nat) → Nat → List Nat
  | 0, n => [n]
  | depth + 1, n =>
    match hangulParts? n with
    | some parts => parts
    | none => match partsOfComposite[n]? with
      | some (a, b) => decompose depth a ++ [b]
      | none => [n]

/-- Put each run of marks in the order of their classes; equal classes keep their order. -/
def orderMarks : List (Nat × Nat) → List (Nat × Nat)
  | [] => []
  | (n, 0) :: rest => (n, 0) :: orderMarks rest
  | (n, k + 1) :: rest =>
    let marks := rest.takeWhile (·.2 != 0)
    ((n, k + 1) :: marks).mergeSort (fun a b => a.2 ≤ b.2) ++ orderMarks (rest.dropWhile (·.2 != 0))
termination_by l => l.length
decreasing_by
  · simp
  · have := (List.dropWhile_sublist (fun x : Nat × Nat => x.2 != 0) (l := rest)).length_le
    simp only [List.length_cons]
    omega

/-! ### Joining -/

def compose? (a b : Nat) : Option Nat :=
  match hangulWhole? a b with
  | some n => some n
  | none => compositeByParts[(a, b)]?

/-- What has been joined so far: finished code points, last one first, the current starter, and the
marks after it that did not join, last one first. -/
structure Joining where
  done : List Nat
  starter : Option Nat
  marks : List Nat
  lastClass : Nat

def Joining.start : Joining := ⟨[], none, [], 0⟩

def Joining.reversed (j : Joining) : List Nat := j.marks ++ j.starter.toList ++ j.done

/-- See one more code point of class `k`. It joins the starter unless a mark of the same or a higher
class, or another starter, stands between them. -/
def Joining.push (j : Joining) (p : Nat × Nat) : Joining :=
  let (n, k) := p
  let unblocked := j.marks.isEmpty || j.lastClass < k
  match j.starter.bind fun s => if unblocked then compose? s n else none with
  | some whole => { j with starter := some whole }
  | none =>
    if k == 0 then ⟨j.reversed, some n, [], 0⟩
    else { j with marks := n :: j.marks, lastClass := k }

def composed (s : List Char) : List Char :=
  let parts := s.flatMap fun c => decompose 8 c.toNat
  let ordered := orderMarks (parts.map fun n => (n, combiningClass (Char.ofNat n)))
  ((ordered.foldl Joining.push Joining.start).reversed.reverse).map Char.ofNat

end Vigil.Unicode
