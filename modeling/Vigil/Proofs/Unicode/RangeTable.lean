import Vigil.Unicode.RangeTable

/-!
Searching a table of ranges finds what the ranges hold. A set of code points is also a number with a
bit for each of them, in which membership of many is quickly computed.
-/

namespace Vigil.Unicode

@[simp] theorem Range.contains_eq_true {r : Range} {n : Nat} :
    r.contains n = true ↔ r.first ≤ n ∧ n ≤ r.last := by
  simp [Range.contains]

/-! ### Searching -/

/-- The check that compares neighbours only tells of all pairs. -/
theorem pairwise_of_inOrder {l : List Range} (h : inOrder l = true) :
    (∀ r ∈ l, r.first ≤ r.last) ∧ l.Pairwise (·.last < ·.first) := by
  induction l with
  | nil => exact ⟨by simp, .nil⟩
  | cons r rest ih =>
      simp only [inOrder, Bool.and_eq_true, decide_eq_true_eq] at h
      obtain ⟨⟨proper, before⟩, h⟩ := h
      obtain ⟨all, apart⟩ := ih h
      refine ⟨List.forall_mem_cons.mpr ⟨proper, all⟩, .cons ?_ apart⟩
      cases rest with
      | nil => simp
      | cons s rest =>
          have next : r.last < s.first := by simpa using before
          have behind := (List.pairwise_cons.mp apart).1
          have within := all s List.mem_cons_self
          refine List.forall_mem_cons.mpr ⟨next, fun u hu => ?_⟩
          have := behind u hu
          omega

namespace RangeTable

variable {t : RangeTable} {n : Nat}

theorem lt_of_getElem? {i j : Nat} {r s : Range} (before : i < j) (left : t.ranges[i]? = some r)
    (right : t.ranges[j]? = some s) : r.last < s.first := by
  obtain ⟨hi, rfl⟩ := Array.getElem?_eq_some_iff.mp left
  obtain ⟨hj, rfl⟩ := Array.getElem?_eq_some_iff.mp right
  exact List.pairwise_iff_getElem.mp (pairwise_of_inOrder t.sorted).2 i j hi hj before

theorem le_of_getElem? {i : Nat} {r : Range} (here : t.ranges[i]? = some r) : r.first ≤ r.last :=
  (pairwise_of_inOrder t.sorted).1 r (Array.mem_toList_iff.mpr (Array.mem_of_getElem? here))

/-- The binary search finds a range if and only if there is one between its bounds. -/
theorem search_eq_true {lo hi : Nat} (fits : hi ≤ t.ranges.size) :
    t.search n lo hi = true ↔ ∃ i r, lo ≤ i ∧ i < hi ∧ t.ranges[i]? = some r ∧
    r.contains n = true := by
  fun_induction search t n lo hi with
  | case1 lo hi within mid none =>
      have := Array.getElem?_eq_none_iff.mp none
      omega
  | case2 lo hi within mid r here left ih =>
      rw [ih (by omega)]
      constructor
      · rintro ⟨i, s, above, below, found⟩
        exact ⟨i, s, above, by omega, found⟩
      · rintro ⟨i, s, above, below, found, holds⟩
        refine ⟨i, s, above, Nat.lt_of_not_le fun behind => ?_, found, holds⟩
        rw [Range.contains_eq_true] at holds
        have := le_of_getElem? here
        obtain rfl | after := Nat.eq_or_lt_of_le behind
        · cases here.symm.trans found
          omega
        · have := lt_of_getElem? after here found
          omega
  | case3 lo hi within mid r here left right ih =>
      rw [ih fits]
      constructor
      · rintro ⟨i, s, above, below, found⟩
        exact ⟨i, s, by omega, below, found⟩
      · rintro ⟨i, s, above, below, found, holds⟩
        refine ⟨i, s, Nat.succ_le_of_lt (Nat.lt_of_not_le fun before => ?_), below, found, holds⟩
        rw [Range.contains_eq_true] at holds
        obtain rfl | earlier := Nat.eq_or_lt_of_le before
        · cases here.symm.trans found
          omega
        · have := lt_of_getElem? earlier found here
          have := le_of_getElem? here
          omega
  | case4 lo hi within mid r here left right =>
      refine iff_of_true rfl ⟨mid, r, by omega, by omega, here, ?_⟩
      rw [Range.contains_eq_true]
      omega
  | case5 lo hi beyond =>
      constructor
      · rintro ⟨⟩
      · rintro ⟨i, r, above, below, -⟩
        omega

/-- A table contains what one of its ranges does. -/
theorem contains_eq (t : RangeTable) (n : Nat) :
    t.contains n = t.ranges.toList.any (·.contains n) := by
  rw [Bool.eq_iff_iff, contains, search_eq_true (Nat.le_refl _), List.any_eq_true]
  constructor
  · rintro ⟨i, r, -, -, here, holds⟩
    exact ⟨r, Array.mem_toList_iff.mpr (Array.mem_of_getElem? here), holds⟩
  · rintro ⟨r, mem, holds⟩
    obtain ⟨i, below, rfl⟩ := Array.mem_iff_getElem.mp (Array.mem_toList_iff.mp mem)
    exact ⟨i, _, Nat.zero_le i, below, Array.getElem?_eq_getElem below, holds⟩

end RangeTable

/-! ### Sets as numbers -/

/-- A range as a number with a bit for each of its code points. -/
def Range.bits (r : Range) : Nat := (Nat.pow 2 (r.last + 1 - r.first) - 1) <<< r.first

def bitsOf (l : List Range) : Nat := l.foldl (fun m r => m ||| r.bits) 0

theorem Range.testBit_bits (r : Range) (n : Nat) : r.bits.testBit n = r.contains n := by
  rw [Bool.eq_iff_iff]
  simp only [bits, Nat.pow_eq, Nat.testBit_shiftLeft, Nat.testBit_two_pow_sub_one, Bool.and_eq_true,
    decide_eq_true_eq,
    Range.contains_eq_true]
  omega

theorem testBit_bitsOf (l : List Range) (n : Nat) :
    (bitsOf l).testBit n = l.any (·.contains n) := by
  have onto : ∀ m : Nat, (l.foldl (fun m r => m ||| r.bits) m).testBit n =
    (m.testBit n || l.any (·.contains n)) := by
    induction l with
    | nil => simp
    | cons r rest ih =>
        intro m
        rw [List.foldl_cons, ih, Nat.testBit_or, Range.testBit_bits, List.any_cons, Bool.or_assoc]
  rw [bitsOf, onto, Nat.zero_testBit, Bool.false_or]

end Vigil.Unicode
