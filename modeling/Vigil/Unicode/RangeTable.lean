/-!
Sets of code points as sorted, disjoint ranges.
-/

namespace Vigil.Unicode

/-- One range, both ends included. -/
structure Range where
  first : Nat
  last : Nat
deriving DecidableEq, Repr, Inhabited

def Range.contains (r : Range) (n : Nat) : Bool := r.first ≤ n && n ≤ r.last

/-- Whether no range is empty and each ends before the next one starts. -/
def inOrder : List Range → Bool
  | [] => true
  | r :: rest => r.first ≤ r.last && rest.head?.all (r.last < ·.first) && inOrder rest

/-- Sorted, disjoint ranges. -/
structure RangeTable where
  ranges : Array Range
  sorted : inOrder ranges.toList = true

namespace RangeTable

/-- The ranges between the two code points of each pair. -/
def ofPairs (l : List (Nat × Nat))
    (sorted : inOrder (l.map fun (a, b) => ⟨a, b⟩) = true := by decide +kernel) :
    RangeTable :=
  ⟨List.toArray (l.map fun (a, b) => ⟨a, b⟩), sorted⟩

/-- Search the ranges with indices in `[lo, hi)`. -/
def search (t : RangeTable) (n lo hi : Nat) : Bool :=
  if lo < hi then
    let mid := (lo + hi) / 2
    match t.ranges[mid]? with
    | none => false
    | some r =>
      if n < r.first then t.search n lo mid
      else if r.last < n then t.search n (mid + 1) hi
      else true
  else false
termination_by hi - lo

def contains (t : RangeTable) (n : Nat) : Bool := t.search n 0 t.ranges.size

end RangeTable

end Vigil.Unicode
