import Mathlib.Data.List.Nodup
import Std.Data.HashMap.Lemmas
import Vigil.Proofs.Unicode.RangeTable
import Vigil.Unicode.Normal

/-!
Taking apart undoes joining.
-/

namespace Vigil.Unicode

/-! ### The table of composites -/

section Table

variable {κ υ α : Type} [BEq κ] [Hashable κ] [LawfulBEq κ] [LawfulHashable κ] {key : α → κ}
  {value : α → υ}

/-- In a table made from a list the last entry of a key counts. -/
theorem getElem?_foldl_insert (l : List α) (m : Std.HashMap κ υ) (k : κ) :
    (l.foldl (fun m c => m.insert (key c) (value c)) m)[k]? =
      ((l.reverse.find? (key · == k)).map value).or m[k]? := by
  induction l generalizing m with
  | nil => simp
  | cons c rest ih =>
      rw [List.foldl_cons, ih, List.reverse_cons, List.find?_append, Std.HashMap.getElem?_insert]
      cases rest.reverse.find? (key · == k) with
      | some d => simp
      | none => by_cases same : key c == k <;> simp [same]

end Table

def wholeBits (l : List Composite) : Nat := bitsOf (l.map fun c => ⟨c.whole, c.whole⟩)

theorem testBit_wholeBits {l : List Composite} {n : Nat} :
    (wholeBits l).testBit n = true ↔ ∃ c ∈ l, c.whole = n := by
  simp only [wholeBits, testBit_bitsOf, List.any_eq_true, List.mem_map, Range.contains_eq_true]
  constructor
  · rintro ⟨_, ⟨c, hc, rfl⟩, here⟩
    exact ⟨c, hc, Nat.le_antisymm here.1 here.2⟩
  · rintro ⟨c, hc, rfl⟩
    exact ⟨_, ⟨c, hc, rfl⟩, Nat.le_refl _, Nat.le_refl _⟩

/-- No code point is listed twice. -/
theorem eq_of_whole_eq {c d : Composite} (hc : c ∈ composites) (hd : d ∈ composites)
    (h : c.whole = d.whole) :
    c = d := by
  have sorted : inOrder (composites.map fun c => ⟨c.whole, c.whole⟩) = true := by decide +kernel
  have apart := (pairwise_of_inOrder sorted).2
  rw [List.pairwise_map] at apart
  have nodup : (composites.map Composite.whole).Nodup :=
    List.pairwise_map.mpr (apart.imp Nat.ne_of_lt)
  exact List.inj_on_of_nodup_map nodup hc hd h

/-- Each composite is listed once, so that the table by composites says what the list says. -/
theorem partsOfComposite_eq_some {n a b : Nat} :
    partsOfComposite[n]? = some (a, b) ↔ ⟨a, b, n⟩ ∈ composites := by
  rw [partsOfComposite, getElem?_foldl_insert]
  simp only [Std.HashMap.getElem?_empty, Option.or_none, Option.map_eq_some_iff, Prod.mk.injEq]
  constructor
  · rintro ⟨⟨_, _, whole⟩, found, rfl, rfl⟩
    have same : whole = n := by simpa using List.find?_some found
    exact same ▸ List.mem_reverse.mp (List.mem_of_find?_eq_some found)
  · intro mem
    cases found : composites.reverse.find? (·.whole == n) with
    | none => exact absurd (List.find?_eq_none.mp found _ (List.mem_reverse.mpr mem)) (by simp)
    | some c =>
        have same : c.whole = n := by simpa using List.find?_some found
        cases eq_of_whole_eq (List.mem_reverse.mp (List.mem_of_find?_eq_some found)) mem same
        exact ⟨_, rfl, rfl, rfl⟩

theorem mem_of_compositeByParts {a b n : Nat} (h : compositeByParts[(a, b)]? = some n) :
    ⟨a, b, n⟩ ∈ composites := by
  rw [compositeByParts, getElem?_foldl_insert] at h
  simp only [Std.HashMap.getElem?_empty, Option.or_none, Option.map_eq_some_iff] at h
  obtain ⟨⟨first, second, _⟩, found, rfl⟩ := h
  have same : (first, second) = (a, b) := by simpa using List.find?_some found
  cases same
  exact List.mem_reverse.mp (List.mem_of_find?_eq_some found)

/-- Composites whose first part is a composite whose first part is one, and so on. -/
def deepWholes : Nat → Nat
  | 0 => wholeBits composites
  | k + 1 => wholeBits (composites.filter fun c => (deepWholes k).testBit c.first)

theorem deepWholes_three : deepWholes 3 = 0 := by decide +kernel

theorem partsOfComposite_of_deepWholes_zero {n : Nat} (h : (deepWholes 0).testBit n = false) :
    partsOfComposite[n]? = none := by
  cases listed : partsOfComposite[n]? with
  | none => rfl
  | some parts =>
      have := testBit_wholeBits.mpr ⟨_, partsOfComposite_eq_some.mp listed, rfl⟩
      exact absurd (h.symm.trans this) Bool.false_ne_true

theorem testBit_deepWholes_of_succ {k a b n : Nat} (h : (deepWholes (k + 1)).testBit n = false)
    (listed : partsOfComposite[n]? = some (a, b)) : (deepWholes k).testBit a = false := by
  refine eq_false_of_ne_true fun deep => ?_
  have mem : (⟨a, b, n⟩ : Composite) ∈ composites.filter fun c => (deepWholes k).testBit c.first :=
    List.mem_filter.mpr ⟨partsOfComposite_eq_some.mp listed, deep⟩
  have := testBit_wholeBits.mpr ⟨_, mem, rfl⟩
  exact absurd (h.symm.trans this) Bool.false_ne_true

/-! ### Hangul -/

def isSyllable (n : Nat) : Bool := 0xAC00 ≤ n && n < 0xAC00 + 11172

def isJamo (n : Nat) : Bool :=
  (0x1100 ≤ n && n < 0x1113) || (0x1161 ≤ n && n < 0x1176) || (0x11A8 ≤ n && n < 0x11C3)

theorem hangulParts?_eq_none {n : Nat} : hangulParts? n = none ↔ isSyllable n = false := by
  unfold hangulParts? isSyllable
  split
  · rename_i inside
    simp [inside]
  · rename_i outside
    simp [outside]

/-- The parts of a syllable are letters. -/
theorem isJamo_of_mem_hangulParts? {n m : Nat} {parts : List Nat} (h : hangulParts? n = some parts)
    (hm : m ∈ parts) : isJamo m = true := by
  unfold hangulParts? at h
  split at h
  · rename_i inside
    simp only [Bool.and_eq_true, decide_eq_true_eq] at inside
    simp only [Option.some.injEq] at h
    subst h
    simp only [isJamo, Bool.or_eq_true, Bool.and_eq_true, decide_eq_true_eq]
    split at hm
    · simp only [List.mem_cons, List.not_mem_nil, or_false] at hm
      omega
    · rename_i behind
      simp only [beq_iff_eq] at behind
      simp only [List.cons_append, List.nil_append, List.mem_cons, List.not_mem_nil, or_false] at hm
      omega
  · cases h

/-- A syllable of consonant `l` and vowel `v` and, behind zero, trailing consonant `t`. -/
theorem hangulParts?_of_numbers {n l v t : Nat} (hl : l < 19) (hv : v < 21) (ht : t < 28)
    (h : n = 0xAC00 + (l * 21 + v) * 28 + t) :
    hangulParts? n = some (if t = 0 then [0x1100 + l, 0x1161 + v]
      else [0x1100 + l, 0x1161 + v, 0x11A7 + t]) := by
  have inside : (0xAC00 ≤ n && n < 0xAC00 + 11172) = true := by
    simp only [Bool.and_eq_true, decide_eq_true_eq]
    omega
  have first : (n - 0xAC00) / 588 = l := by omega
  have second : (n - 0xAC00) % 588 / 28 = v := by omega
  have third : (n - 0xAC00) % 28 = t := by omega
  rw [hangulParts?, if_pos inside]
  simp only [first, second, third, beq_iff_eq]
  split <;> rfl

/-- How two parts make a syllable: a consonant and a vowel, or a syllable of two and another
consonant. -/
theorem hangulWhole?_eq_some {a b n : Nat} (h : hangulWhole? a b = some n) :
    (0x1100 ≤ a ∧ a < 0x1113 ∧ 0x1161 ≤ b ∧ b < 0x1176 ∧
      n = 0xAC00 + ((a - 0x1100) * 21 + (b - 0x1161)) * 28) ∨
      (isSyllable a = true ∧ (a - 0xAC00) % 28 = 0 ∧ 0x11A7 < b ∧ b < 0x11C3 ∧
        n = a + (b - 0x11A7)) := by
  unfold hangulWhole? at h
  split at h
  · rename_i letters
    simp only [Bool.and_eq_true, decide_eq_true_eq] at letters
    simp only [Option.some.injEq] at h
    exact .inl ⟨letters.1.1.1, letters.1.1.2, letters.1.2, letters.2, h.symm⟩
  · split at h
    · rename_i bare
      simp only [Bool.and_eq_true, decide_eq_true_eq, beq_iff_eq] at bare
      simp only [Option.some.injEq] at h
      exact .inr ⟨by simp [isSyllable, bare], bare.1.1.2, bare.1.2, bare.2, h.symm⟩
    · cases h

/-! ### Atoms -/

/-- A code point that is not taken apart further. -/
structure IsAtom (n : Nat) : Prop where
  single : hangulParts? n = none
  unlisted : partsOfComposite[n]? = none

theorem IsAtom.decompose {n : Nat} (h : IsAtom n) (depth : Nat) : decompose depth n = [n] := by
  cases depth with
  | zero => rfl
  | succ depth => simp only [Unicode.decompose, h.single, h.unlisted]

/-- A composite and its parts are no syllables, it is no Hangul letter, and its second part is no
composite. -/
def Composite.isProper (c : Composite) : Bool :=
  !isSyllable c.whole && !isJamo c.whole && !isSyllable c.second &&
    !(deepWholes 0).testBit c.second

theorem isProper_of_mem {c : Composite} (h : c ∈ composites) : c.isProper = true := by
  have all : composites.all Composite.isProper = true := by decide +kernel
  exact List.all_eq_true.mp all c h

theorem isAtom_second {c : Composite} (h : c ∈ composites) : IsAtom c.second := by
  have proper := isProper_of_mem h
  simp only [Composite.isProper, Bool.and_eq_true, Bool.not_eq_true'] at proper
  exact ⟨hangulParts?_eq_none.mpr proper.1.2, partsOfComposite_of_deepWholes_zero proper.2⟩

theorem hangulParts?_whole {c : Composite} (h : c ∈ composites) : hangulParts? c.whole = none := by
  have proper := isProper_of_mem h
  simp only [Composite.isProper, Bool.and_eq_true, Bool.not_eq_true'] at proper
  exact hangulParts?_eq_none.mpr proper.1.1.1

/-- Hangul letters are atoms. -/
theorem isAtom_of_isJamo {n : Nat} (h : isJamo n = true) : IsAtom n := by
  refine ⟨hangulParts?_eq_none.mpr ?_, ?_⟩
  · simp only [isJamo, Bool.or_eq_true, Bool.and_eq_true, decide_eq_true_eq] at h
    simp only [isSyllable, Bool.and_eq_false_iff, decide_eq_false_iff_not]
    omega
  · cases listed : partsOfComposite[n]? with
    | none => rfl
    | some parts =>
        have proper := isProper_of_mem (partsOfComposite_eq_some.mp listed)
        simp [Composite.isProper, h] at proper

theorem decompose_of_listed {n a b : Nat} (h : ⟨a, b, n⟩ ∈ composites) (depth : Nat) :
    decompose (depth + 1) n = decompose depth a ++ [b] := by
  have single := hangulParts?_whole h
  simp only [decompose, single, partsOfComposite_eq_some.mpr h]

/-- What is not listed is taken apart in one step. -/
theorem decompose_of_unlisted {n : Nat} (unlisted : partsOfComposite[n]? = none) (depth : Nat) :
    decompose (depth + 1) n = (hangulParts? n).getD [n] := by
  cases single : hangulParts? n with
  | some parts => simp only [decompose, single, Option.getD_some]
  | none => simp only [decompose, single, unlisted, Option.getD_none]

/-- A code point that is not listed falls into Hangul letters or is an atom itself. -/
theorem isAtom_of_mem_decompose_of_unlisted {n m depth : Nat}
    (unlisted : partsOfComposite[n]? = none) (h : m ∈ decompose (depth + 1) n) : IsAtom m := by
  rw [decompose_of_unlisted unlisted] at h
  cases single : hangulParts? n with
  | some parts =>
      rw [single] at h
      exact isAtom_of_isJamo (isJamo_of_mem_hangulParts? single h)
  | none =>
      rw [single] at h
      exact List.mem_singleton.mp h ▸ ⟨single, unlisted⟩

/-- Deep enough all is taken apart: from there on depth makes no difference. -/
theorem decompose_deep {k n : Nat} (h : (deepWholes k).testBit n = false) (depth : Nat) :
    (∀ m ∈ decompose (depth + k + 1) n, IsAtom m) ∧
      decompose (depth + k + 2) n = decompose (depth + k + 1) n := by
  induction k generalizing n depth with
  | zero =>
      have unlisted := partsOfComposite_of_deepWholes_zero h
      refine ⟨fun m => isAtom_of_mem_decompose_of_unlisted unlisted, ?_⟩
      rw [decompose_of_unlisted unlisted, decompose_of_unlisted unlisted]
  | succ k ih =>
      cases listed : partsOfComposite[n]? with
      | none =>
          refine ⟨fun m => isAtom_of_mem_decompose_of_unlisted listed, ?_⟩
          rw [decompose_of_unlisted listed, decompose_of_unlisted listed]
      | some parts =>
          obtain ⟨a, b⟩ := parts
          have mem := partsOfComposite_eq_some.mp listed
          obtain ⟨atoms, same⟩ := ih (testBit_deepWholes_of_succ h listed) depth
          rw [decompose_of_listed mem, decompose_of_listed mem]
          refine ⟨fun m hm => ?_, congrArg (· ++ [b]) same⟩
          obtain hm | hm := List.mem_append.mp hm
          · exact atoms m hm
          · exact List.mem_singleton.mp hm ▸ isAtom_second mem

theorem testBit_deepWholes_three (n : Nat) : (deepWholes 3).testBit n = false := by
  rw [deepWholes_three, Nat.zero_testBit]

theorem isAtom_of_mem_decompose {n m : Nat} (h : m ∈ decompose 8 n) : IsAtom m :=
  (decompose_deep (testBit_deepWholes_three n) 4).1 m h

/-! ### Joining -/

theorem unlisted_of_isSyllable {n : Nat} (h : isSyllable n = true) :
    partsOfComposite[n]? = none := by
  cases listed : partsOfComposite[n]? with
  | none => rfl
  | some parts =>
      have none := hangulParts?_eq_none.mp (hangulParts?_whole (partsOfComposite_eq_some.mp listed))
      exact absurd (h.symm.trans none) Bool.false_ne_true.symm

theorem decompose_of_numbers {n l v t : Nat} (hl : l < 19) (hv : v < 21) (ht : t < 28)
    (h : n = 0xAC00 + (l * 21 + v) * 28 + t) (depth : Nat) :
    decompose (depth + 1) n =
      if t = 0 then [0x1100 + l, 0x1161 + v] else [0x1100 + l, 0x1161 + v, 0x11A7 + t] := by
  have inside : isSyllable n = true := by
    simp only [isSyllable, Bool.and_eq_true, decide_eq_true_eq]
    omega
  rw [decompose_of_unlisted (unlisted_of_isSyllable inside), hangulParts?_of_numbers hl hv ht h,
    Option.getD_some]

/-- A syllable falls into the parts that make it. -/
theorem decompose_of_hangulWhole? {a b n : Nat} (h : hangulWhole? a b = some n) :
    decompose 8 n = decompose 8 a ++ [b] := by
  obtain ⟨ha, ha', hb, hb', whole⟩ | ⟨bare, even, hb, hb', whole⟩ := hangulWhole?_eq_some h
  · have letter : isJamo a = true := by simp [isJamo, ha, ha']
    have first := (isAtom_of_isJamo letter).decompose 8
    have parts := decompose_of_numbers (n := n) (l := a - 0x1100) (v := b - 0x1161) (t := 0)
      (by omega) (by omega) (by omega) (whole.trans (Nat.add_zero _).symm) 7
    rw [first, parts, if_pos rfl, Nat.add_sub_of_le ha, Nat.add_sub_of_le hb]
    rfl
  · simp only [isSyllable, Bool.and_eq_true, decide_eq_true_eq] at bare
    have taken : ∀ m t, t < 28 → m = a + t → decompose 8 m = _ := fun m t ht hm =>
      decompose_of_numbers (l := (a - 0xAC00) / 588) (v := (a - 0xAC00) % 588 / 28)
        (by omega) (by omega) ht (by omega) 7
    have first := taken a 0 (by omega) rfl
    have parts := taken n (b - 0x11A7) (by omega) whole
    rw [first, parts, if_pos rfl, if_neg (by omega), Nat.add_sub_of_le (Nat.le_of_lt hb)]
    rfl

/-- What has been joined falls into its parts again. -/
theorem decompose_of_compose? {a b n : Nat} (h : compose? a b = some n) :
    decompose 8 n = decompose 8 a ++ [b] := by
  unfold compose? at h
  cases syllable : hangulWhole? a b with
  | some m =>
      rw [syllable] at h
      cases h
      exact decompose_of_hangulWhole? syllable
  | none =>
      rw [syllable] at h
      rw [decompose_of_listed (mem_of_compositeByParts h)]
      exact congrArg (· ++ [b]) (decompose_deep (testBit_deepWholes_three a) 3).2.symm

/-- What joins is listed, or it is Hangul. -/
theorem letter_or_mem_of_compose? {a b n : Nat} (h : compose? a b = some n) :
    ((isJamo a = true ∨ isSyllable a = true) ∧ isJamo b = true) ∨ ⟨a, b, n⟩ ∈ composites := by
  unfold compose? at h
  cases syllable : hangulWhole? a b with
  | some m =>
      refine .inl ?_
      obtain ⟨ha, ha', hb, hb', -⟩ | ⟨bare, -, hb, hb', -⟩ := hangulWhole?_eq_some syllable
      · exact ⟨.inl (by simp [isJamo, ha, ha']), by simp [isJamo, hb, hb']⟩
      · refine ⟨.inr bare, ?_⟩
        simp only [isJamo, Bool.or_eq_true, Bool.and_eq_true, decide_eq_true_eq]
        omega
  | none =>
      rw [syllable] at h
      exact .inr (mem_of_compositeByParts h)

/-! ### What both keep -/

/-- A property that taking apart and joining keep. -/
structure Closed (P : Nat → Prop) : Prop where
  parts : ∀ c ∈ composites, P c.whole → P c.first ∧ P c.second
  whole : ∀ c ∈ composites, P c.first → P c.second → P c.whole
  hangul : ∀ n, isJamo n = true ∨ isSyllable n = true → P n

section

variable {P : Nat → Prop} {n : Nat}

/-- A closed property goes over to the parts. -/
theorem Closed.of_mem_decompose (closed : Closed P) {depth m : Nat} (h : P n)
    (hm : m ∈ decompose depth n) : P m := by
  induction depth generalizing n m with
  | zero => exact List.mem_singleton.mp hm ▸ h
  | succ depth ih =>
      cases listed : partsOfComposite[n]? with
      | none =>
          rw [decompose_of_unlisted listed] at hm
          cases single : hangulParts? n with
          | none =>
              rw [single] at hm
              exact List.mem_singleton.mp hm ▸ h
          | some parts =>
              rw [single] at hm
              exact closed.hangul m (.inl (isJamo_of_mem_hangulParts? single hm))
      | some parts =>
          obtain ⟨a, b⟩ := parts
          have mem := partsOfComposite_eq_some.mp listed
          have both := closed.parts _ mem h
          rw [decompose_of_listed mem] at hm
          obtain hm | hm := List.mem_append.mp hm
          · exact ih both.1 hm
          · exact List.mem_singleton.mp hm ▸ both.2

theorem isSyllable_of_hangulWhole? {a b : Nat} (h : hangulWhole? a b = some n) :
    isSyllable n = true := by
  obtain ⟨ha, ha', hb, hb', whole⟩ | ⟨bare, even, hb, hb', whole⟩ := hangulWhole?_eq_some h
  · simp only [isSyllable, Bool.and_eq_true, decide_eq_true_eq]
    omega
  · simp only [isSyllable, Bool.and_eq_true, decide_eq_true_eq] at bare ⊢
    omega

/-- And from the parts to the whole. -/
theorem Closed.of_compose? (closed : Closed P) {a b : Nat} (ha : P a) (hb : P b)
    (h : compose? a b = some n) :
    P n := by
  unfold compose? at h
  cases syllable : hangulWhole? a b with
  | some m =>
      rw [syllable] at h
      cases h
      exact closed.hangul n (.inr (isSyllable_of_hangulWhole? syllable))
  | none =>
      rw [syllable] at h
      exact closed.whole _ (mem_of_compositeByParts h) ha hb

end

end Vigil.Unicode
