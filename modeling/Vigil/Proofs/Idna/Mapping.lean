import Vigil.Idna.Domain
import Vigil.Proofs.Unicode.Normal

/-!
What mapping gives, and composing after it, stays as it is when it is mapped once more.
-/

namespace Vigil.Idna

open Vigil.Unicode

/-- Whether a code point is mapped to itself: ASCII but capital letters, and what is listed as
valid. -/
def isKept (n : Nat) : Bool := if n < 128 then n < 65 || 90 < n else idnaValid.contains n

/-! ### The tables -/

def keptBits : Nat := bitsOf (⟨0, 64⟩ :: ⟨91, 127⟩ :: idnaValid.ranges.toList)

/-- The table of kept code points read off as one number, which can be compared in one go. -/
theorem isKept_eq (n : Nat) : isKept n = keptBits.testBit n := by
  have above : idnaValid.ranges.toList.all (fun r => 128 ≤ r.first) = true := by decide +kernel
  rw [keptBits, testBit_bitsOf, List.any_cons, List.any_cons, isKept]
  split
  · rename_i ascii
    have none : idnaValid.ranges.toList.any (·.contains n) = false := by
      rw [List.any_eq_false]
      intro r hr
      have := List.all_eq_true.mp above r hr
      rw [decide_eq_true_eq] at this
      rw [Range.contains_eq_true]
      omega
    rw [none, Bool.or_false, Bool.eq_iff_iff]
    simp only [Range.contains, Bool.or_eq_true, Bool.and_eq_true, decide_eq_true_eq]
    omega
  · rename_i extended
    have low : Range.contains ⟨0, 64⟩ n = false := by simp [Range.contains]; omega
    have high : Range.contains ⟨91, 127⟩ n = false := by simp [Range.contains]; omega
    rw [low, high, RangeTable.contains_eq, Bool.false_or, Bool.false_or]

def keepsRange (r : Range) : Bool :=
  idnaValid.ranges.toList.any fun s => s.first ≤ r.first && r.last ≤ s.last

theorem isKept_of_range {r : Range} (h : keepsRange r = true) (extended : 128 ≤ r.first) {n : Nat}
    (hn : r.contains n = true) : isKept n = true := by
  obtain ⟨s, hs, within⟩ := List.any_eq_true.mp h
  simp only [Bool.and_eq_true, decide_eq_true_eq, Range.contains_eq_true] at within hn
  rw [isKept, if_neg (by omega), RangeTable.contains_eq, List.any_eq_true]
  exact ⟨s, hs, Range.contains_eq_true.mpr (by omega)⟩

/-- A composite is kept if and only if its parts are. -/
theorem closed_isKept : Closed (isKept · = true) := by
  have alike : composites.all (fun c =>
      keptBits.testBit c.whole == (keptBits.testBit c.first && keptBits.testBit c.second)) =
        true := by
    decide +kernel
  have same : ∀ c ∈ composites, isKept c.whole = true ↔
    isKept c.first = true ∧ isKept c.second = true := by
    intro c hc
    have := List.all_eq_true.mp alike c hc
    rw [beq_iff_eq, Bool.eq_iff_iff, Bool.and_eq_true] at this
    simpa only [isKept_eq] using this
  have hangul : keepsRange ⟨0x1100, 0x1112⟩ = true ∧ keepsRange ⟨0x1161, 0x1175⟩ = true ∧
      keepsRange ⟨0x11A8, 0x11C2⟩ = true ∧ keepsRange ⟨0xAC00, 0xD7A3⟩ = true := by decide +kernel
  refine ⟨fun c hc => (same c hc).mp, fun c hc first second => (same c hc).mpr ⟨first, second⟩,
    fun n hn => ?_⟩
  simp only [isJamo, isSyllable, Bool.or_eq_true, Bool.and_eq_true, decide_eq_true_eq] at hn
  obtain ⟨leading, vowel, trailing, syllable⟩ := hangul
  obtain ((hn | hn) | hn) | hn := hn
  · exact isKept_of_range leading (by decide) (Range.contains_eq_true.mpr (by simp only; omega))
  · exact isKept_of_range vowel (by decide) (Range.contains_eq_true.mpr (by simp only; omega))
  · exact isKept_of_range trailing (by decide) (Range.contains_eq_true.mpr (by simp only; omega))
  · exact isKept_of_range syllable (by decide) (Range.contains_eq_true.mpr (by simp only; omega))

/-! ### Replacements -/

/-- What a search finds is told by a run that holds the code point at one of its steps. -/
theorem exists_of_searchReplacement {runs : Array Replacement} {n lo hi : Nat} {image : List Nat}
    (h : searchReplacement runs n lo hi = some image) :
    ∃ r ∈ runs, r.range.contains n = true ∧ (n - r.range.first) % r.step = 0 ∧
    r.apply n = image := by
  fun_induction searchReplacement runs n lo hi with
  | case1 lo hi within mid none => cases h
  | case2 lo hi within mid r here left ih => exact ih h
  | case3 lo hi within mid r here left right ih => exact ih h
  | case4 lo hi within mid r here left right held =>
      exact ⟨r, Array.mem_of_getElem? here, Range.contains_eq_true.mpr (by omega),
        by simpa using held, by simpa using h⟩
  | case5 lo hi within mid r here left right missed => cases h
  | case6 lo hi beyond => cases h

/-- All that a run puts in the place of its code points. -/
def images (r : Replacement) : List Nat :=
  (List.range (r.range.last + 1 - r.range.first)).flatMap fun i =>
    if i % r.step == 0 then r.apply (r.range.first + i) else []

theorem isKept_of_searchReplacement {n m : Nat} {image : List Nat}
    (h : searchReplacement replacements n 0 replacements.size = some image) (hm : m ∈ image) :
    isKept m = true := by
  have all : replacements.toList.all (fun r => (images r).all keptBits.testBit) = true := by
    decide +kernel
  obtain ⟨r, hr, within, held, rfl⟩ := exists_of_searchReplacement h
  rw [Range.contains_eq_true] at within
  rw [isKept_eq]
  refine List.all_eq_true.mp (List.all_eq_true.mp all r (Array.mem_toList_iff.mpr hr)) m ?_
  refine List.mem_flatMap.mpr ⟨n - r.range.first, List.mem_range.mpr (by omega), ?_⟩
  rwa [if_pos (by simpa using held), Nat.add_sub_of_le within.1]

/-! ### Characters -/

section

variable {c : Char} {s text : List Char}

theorem isUpper_of_ascii (h : c.toNat < 128) : c.isUpper = !(c.toNat < 65 || 90 < c.toNat) := by
  have all : ∀ n < 128, (Char.ofNat n).isUpper = !(n < 65 || 90 < n) := by decide
  simpa using all c.toNat h

/-- Neither a replacement nor the table of ignored characters makes a character valid. -/
theorem idnaStatus_eq_valid : idnaStatus c = .valid ↔ idnaValid.contains c.toNat = true := by
  unfold idnaStatus
  split
  · rename_i valid
    simp [valid]
  · rename_i invalid
    refine iff_of_false (fun h => ?_) invalid
    split at h
    · cases h
    · cases search : searchReplacement replacements c.toNat 0 replacements.size with
      | some image => simp [search] at h
      | none => simp [search] at h

theorem searchReplacement_of_mapped {image : List Nat} (h : idnaStatus c = .mapped image) :
    searchReplacement replacements c.toNat 0 replacements.size = some image := by
  unfold idnaStatus at h
  split at h
  · cases h
  · split at h
    · cases h
    · cases search : searchReplacement replacements c.toNat 0 replacements.size with
      | some found =>
          rw [search] at h
          cases h
          rfl
      | none => simp [search] at h

theorem isMapped_eq (c : Char) :
    isMapped c = (isKept c.toNat && !(decide (c.toNat < 128) && isForbidden c)) := by
  unfold isMapped isKept
  split
  · rename_i ascii
    rw [isUpper_of_ascii ascii, Bool.not_not, decide_eq_true ascii, Bool.true_and]
  · rename_i extended
    rw [decide_eq_false extended, Bool.false_and, Bool.not_false, Bool.and_true,
      Bool.eq_iff_iff, beq_iff_eq,
      idnaStatus_eq_valid]

theorem isKept_toLower (h : c.toNat < 128) : isKept c.toLower.toNat = true := by
  have all : ∀ n < 128, isKept (Char.ofNat n).toLower.toNat = true := by decide
  simpa using all c.toNat h

theorem isKept_ofNat {n : Nat} (h : isKept n = true) : isKept (Char.ofNat n).toNat = true := by
  by_cases valid : n.isValidChar
  · rwa [toNat_ofNat valid]
  · rw [Char.ofNat, dif_neg valid]
    rfl

/-- What a character is mapped to is kept. -/
theorem isKept_of_mapChar? {image : List Char} (h : mapChar? c = some image) :
    ∀ d ∈ image, isKept d.toNat = true := by
  intro d hd
  unfold mapChar? at h
  split at h
  · rename_i ascii
    cases h
    exact List.mem_singleton.mp hd ▸ isKept_toLower ascii
  · rename_i extended
    cases status : idnaStatus c with
    | valid =>
        rw [status] at h
        cases h
        rw [List.mem_singleton.mp hd, isKept, if_neg extended]
        exact idnaStatus_eq_valid.mp status
    | ignored =>
        rw [status] at h
        cases h
        cases hd
    | mapped image =>
        rw [status] at h
        cases h
        obtain ⟨n, hn, rfl⟩ := List.mem_map.mp hd
        exact isKept_ofNat (isKept_of_searchReplacement (searchReplacement_of_mapped status) hn)
    | disallowed =>
        rw [status] at h
        cases h

/-! ### Texts -/

/-- Mapping succeeds if every character can be mapped and the composed text holds nothing that is
forbidden. -/
theorem mapped?_eq_some : mapped? s = some text ↔
    ∃ chars, s.mapM mapChar? = some chars ∧ composed chars.flatten = text ∧
      ∀ c ∈ text, c.toNat < 128 → isForbidden c = false := by
  simp only [mapped?, Option.bind_eq_bind, Option.bind_eq_some_iff]
  refine exists_congr fun chars => and_congr_right fun _ => ?_
  split
  · rename_i bad
    refine iff_of_false nofun ?_
    rintro ⟨rfl, free⟩
    obtain ⟨c, hc, forbidden⟩ := List.any_eq_true.mp bad
    simp only [Bool.and_eq_true, decide_eq_true_eq] at forbidden
    exact absurd ((free c hc forbidden.1).symm.trans forbidden.2) Bool.false_ne_true
  · rename_i free
    simp only [Option.some.injEq]
    refine (and_iff_left_of_imp ?_).symm
    rintro rfl
    simpa using free

/-- What a mapped domain is made of may stand in a mapped domain. -/
theorem isMapped_of_mem_mapped? (h : mapped? s = some text) : ∀ c ∈ text, isMapped c = true := by
  obtain ⟨chars, images, rfl, free⟩ := mapped?_eq_some.mp h
  have kept : ∀ d ∈ chars.flatten, isKept d.toNat = true := by
    intro d hd
    obtain ⟨image, himage, hd⟩ := List.mem_flatten.mp hd
    obtain ⟨c, -, mapped⟩ := Text.exists_of_forall₂ (Text.mapM_eq_some.mp images) himage
    exact isKept_of_mapChar? mapped d hd
  intro c hc
  rw [isMapped_eq, closed_isKept.of_mem_composed kept c hc, Bool.true_and, Bool.not_eq_true',
    Bool.and_eq_false_imp]
  intro ascii
  exact free c hc (of_decide_eq_true ascii)

theorem composed_of_mapped? (h : mapped? s = some text) : composed text = text := by
  obtain ⟨chars, -, rfl, -⟩ := mapped?_eq_some.mp h
  exact composed_composed _

theorem isMapped_of_ascii (ascii : c.toNat < 128) :
    isMapped c = true ↔ c.isUpper = false ∧ isForbidden c = false := by
  rw [isMapped, if_pos ascii, Bool.and_eq_true, Bool.not_eq_true', Bool.not_eq_true']

theorem mapChar?_of_plain (ascii : c.toNat < 128) (mapped : isMapped c = true) :
    mapChar? c = some [c] := by
  have lower : ∀ n < 128, (Char.ofNat n).isUpper = false →
    (Char.ofNat n).toLower = Char.ofNat n := by decide
  have same := lower c.toNat ascii
  rw [Char.ofNat_toNat] at same
  rw [mapChar?, if_pos ascii, same ((isMapped_of_ascii ascii).mp mapped).1]

/-- A text in ASCII that has been mapped is left as it is. -/
theorem mapped?_of_plain (h : ∀ c ∈ s, c.toNat < 128 ∧ isMapped c = true) : mapped? s = some s := by
  have images : s.mapM mapChar? = some (s.map ([·])) := by
    rw [Text.mapM_eq_some, List.forall₂_map_right_iff]
    exact List.forall₂_same.mpr fun c hc => mapChar?_of_plain (h c hc).1 (h c hc).2
  refine mapped?_eq_some.mpr ⟨_, images, ?_, fun c hc ascii =>
      ((isMapped_of_ascii ascii).mp (h c hc).2).2⟩
  rw [← List.flatMap_def, List.flatMap_singleton']
  exact composed_of_inert fun c hc => isInert_of_ascii (h c hc).1

end

end Vigil.Idna
