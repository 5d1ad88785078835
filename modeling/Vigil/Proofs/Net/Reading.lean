import Vigil.Proofs.Net.Address

/-!
Addresses in their canonical form are read back.
-/

namespace Vigil.Net

open Vigil.Text

/-- No numeral is a sign that stands between numbers. -/
theorem notMem_toDigits {base n : Nat} (base_gt : 1 < base) {c : Char} (h : c ∉ numerals base) :
    c ∉ Nat.toDigits base n := fun hc => h (mem_numerals_of_mem_toDigits base_gt hc)

/-! ### IPv4 -/

theorem readByte?_toDigits (n : UInt8) : readByte? (Nat.toDigits 10 n.toNat) = some n := by
  have single : ((Nat.toDigits 10 n.toNat).length == 1 ||
    (Nat.toDigits 10 n.toNat).head? != some '0') = true := by
    rw [Bool.or_eq_true, bne_iff_ne]
    by_cases zero : (Nat.toDigits 10 n.toNat).head? = some '0'
    · rw [eq_zero_of_head?_toDigits (by decide) zero]
      exact .inl rfl
    · exact .inr zero
  have small : n.toNat < 256 := n.toNat_lt
  simp [readByte?, readNat?_toDigits, single, small]

theorem splitOn_text (x : Ipv4) :
    x.text.toList.splitOn '.' = [x.a, x.b, x.c, x.d].map fun n => Nat.toDigits 10 n.toNat := by
  rw [Ipv4.toList_text]
  refine List.splitOn_intercalate '.' (fun part hp => ?_) (by simp)
  obtain ⟨n, -, rfl⟩ := List.mem_map.mp hp
  exact notMem_toDigits (by decide) (by decide)

theorem Ipv4.read?_text (x : Ipv4) : Ipv4.read? x.text.toList = some x := by
  simp [Ipv4.read?, splitOn_text, readByte?_toDigits]

theorem Ipv4.read?_of_no_point {s : List Char} (h : '.' ∉ s) : Ipv4.read? s = none := by
  rw [Ipv4.read?, List.splitOn_eq_singleton h, List.mapM_cons, List.mapM_nil]
  cases readByte? s <;> rfl

/-! ### Groups -/

theorem readGroup?_toDigits {n : Nat} (h : n < 65536) :
    readGroup? (Nat.toDigits 16 n) = some n := by
  have short : (Nat.toDigits 16 n).length ≤ 4 :=
    (Nat.length_toDigits_le_iff (by decide) (by decide)).mpr h
  rw [readGroup?, if_pos short, readNat?_toDigits (by decide) (by decide)]

theorem mapM_readGroup? {l : List Nat} (h : ∀ n ∈ l, n < 65536) :
    (l.map (Nat.toDigits 16)).mapM readGroup? = some l := by
  rw [mapM_eq_some, List.forall₂_map_left_iff]
  exact List.forall₂_same.mpr fun n hn => readGroup?_toDigits (h n hn)

theorem splitOn_groupsText {l : List Nat} (h : l ≠ []) :
    (groupsText l).toList.splitOn ':' = l.map (Nat.toDigits 16) := by
  rw [toList_groupsText]
  refine List.splitOn_intercalate ':' (fun part hp => ?_) (by simpa using h)
  obtain ⟨n, -, rfl⟩ := List.mem_map.mp hp
  exact notMem_toDigits (by decide) (by decide)

theorem point_notMem_groupsText (l : List Nat) : '.' ∉ (groupsText l).toList := by
  intro hc
  obtain digit | colon := mem_groupsText hc
  · exact absurd digit (by decide)
  · exact absurd colon (by decide)

theorem toList_groupsText_ne_nil {l : List Nat} (h : l ≠ []) : (groupsText l).toList ≠ [] := by
  intro none
  have parts := splitOn_groupsText h
  rw [none, List.splitOn_nil] at parts
  cases l with
  | nil => exact h rfl
  | cons n l => exact Nat.toDigits_ne_nil (List.cons.inj parts).1.symm

/-- Groups are read back from their text. -/
theorem readGroups?_groupsText {l : List Nat} (h : ∀ n ∈ l, n < 65536) :
    readGroups? (groupsText l).toList = some l := by
  cases empty : l with
  | nil => rfl
  | cons n rest =>
      rw [← empty]
      have some : l ≠ [] := empty ▸ List.cons_ne_nil n rest
      have last : '.' ∉ (l.map (Nat.toDigits 16)).getLastD [] := by
        rw [List.getLastD_eq_getLast?, List.getLast?_map]
        cases l.getLast? with
        | none => exact List.not_mem_nil
        | some m => exact notMem_toDigits (by decide) (by decide)
      rw [readGroups?, if_neg (by simpa using toList_groupsText_ne_nil some),
        splitOn_groupsText some]
      simp only [Ipv4.read?_of_no_point last]
      exact mapM_readGroup? h

/-! ### The gap -/

/-- Whether a text may stand in front of a gap: no colon follows another, and none stands at the
end. -/
def isClosed : List Char → Bool
  | [] => true
  | c :: rest => !(c == ':' && rest.head?.all (· == ':')) && isClosed rest

theorem splitGap_cons {c : Char} {s : List Char} (h : ¬ (c = ':' ∧ s.head? = some ':')) :
    splitGap (c :: s) = (splitGap s).map fun (a, b) => (c :: a, b) := by
  rw [splitGap]
  rintro rest rfl rfl
  exact h ⟨rfl, rfl⟩

/-- The first gap is found where the text in front of it ends. -/
theorem splitGap_append {s : List Char} (h : isClosed s = true) (rest : List Char) :
    splitGap (s ++ ':' :: ':' :: rest) = some (s, rest) := by
  induction s with
  | nil => rfl
  | cons c s ih =>
      simp only [isClosed, Bool.and_eq_true, Bool.not_eq_true', Bool.and_eq_false_imp, beq_iff_eq]
        at h
      rw [List.cons_append, splitGap_cons, ih h.2, Option.map_some]
      rintro ⟨colon, next⟩
      have apart := h.1 colon
      cases s with
      | nil => cases apart
      | cons d s =>
          cases next
          cases apart

/-- There is no gap in a text in which no colon follows another. -/
theorem splitGap_of_isClosed {s : List Char} (h : isClosed s = true) : splitGap s = none := by
  induction s with
  | nil => rfl
  | cons c s ih =>
      simp only [isClosed, Bool.and_eq_true, Bool.not_eq_true', Bool.and_eq_false_imp, beq_iff_eq]
        at h
      rw [splitGap_cons, ih h.2, Option.map_none]
      rintro ⟨colon, next⟩
      have apart := h.1 colon
      rw [next] at apart
      cases apart

/-- Without an empty part between colons or at the end a text is closed. -/
theorem isClosed_of_splitOn {s : List Char} (h : ∀ part ∈ (s.splitOn ':').tail, part ≠ []) :
    isClosed s = true := by
  induction s with
  | nil => rfl
  | cons c s ih =>
      rw [List.splitOn_cons_eq_if_modifyHead] at h
      simp only [isClosed, Bool.and_eq_true, Bool.not_eq_true', Bool.and_eq_false_imp, beq_iff_eq]
      split at h
      · rename_i colon
        refine ⟨fun _ => ?_, ih fun part hp => h part (List.mem_of_mem_tail hp)⟩
        cases s with
        | nil => exact absurd rfl (h [] (by simp))
        | cons d s =>
            by_contra next
            have doubled : d = ':' := by simpa using next
            exact h [] (by simp [doubled, List.splitOn_cons_eq_if_modifyHead]) rfl
      · rename_i other
        refine ⟨fun colon => absurd (beq_iff_eq.mpr colon) other, ih fun part hp => h part ?_⟩
        cases parts : s.splitOn ':' with
        | nil => exact absurd parts (List.splitOn_ne_nil ':' s)
        | cons first rest =>
            rw [parts] at hp
            exact hp

theorem isClosed_groupsText (l : List Nat) : isClosed (groupsText l).toList = true := by
  refine isClosed_of_splitOn fun part hp => ?_
  cases l with
  | nil => cases hp
  | cons n rest =>
      rw [splitOn_groupsText (List.cons_ne_nil n rest)] at hp
      obtain ⟨m, -, rfl⟩ := List.mem_map.mp (List.mem_of_mem_tail hp)
      exact Nat.toDigits_ne_nil

/-! ### The longest run of zeros -/

theorem take_zeroRun (l : List Nat) : l.take (zeroRun l) = List.replicate (zeroRun l) 0 := by
  rw [zeroRun, ← List.prefix_iff_eq_take.mp (List.takeWhile_prefix _), List.eq_replicate_iff]
  exact ⟨rfl, fun n hn => by simpa using List.mem_takeWhile_imp hn⟩

theorem zeroRun_le (l : List Nat) : zeroRun l ≤ l.length := (List.takeWhile_prefix _).length_le

/-- A run of zeros in a list, by its start and length. -/
def IsRun (l : List Nat) (run : Nat × Nat) : Prop :=
  run.1 + run.2 ≤ l.length ∧ (l.drop run.1).take run.2 = List.replicate run.2 0

theorem isRun_longestZeros (l : List Nat) : IsRun l (longestZeros l) := by
  refine List.foldlRecOn (motive := IsRun l) _ _ ⟨Nat.zero_le _, rfl⟩ fun best run i hi => ?_
  simp only
  split
  · have := zeroRun_le (l.drop i)
    have := List.mem_range.mp hi
    rw [List.length_drop] at *
    exact ⟨by simp only; omega, take_zeroRun _⟩
  · exact run

/-- A list around a run of zeros. -/
theorem IsRun.eq {l : List Nat} {start n : Nat} (h : IsRun l (start, n)) :
    l.take start ++ (List.replicate n 0 ++ l.drop (start + n)) = l := by
  rw [← h.2, ← List.drop_drop, List.take_append_drop, List.take_append_drop]

/-! ### IPv6 -/

theorem ofGroups?_groups (x : Ipv6) :
    Ipv6.ofGroups? (x.groups.toList.map UInt16.toNat) = some x := by
  obtain ⟨⟨array, size⟩⟩ := x
  have back : array.toList.map (Nat.toUInt16 ∘ UInt16.toNat) = array.toList := by
    simp [Function.comp_def]
  simp [Ipv6.ofGroups?, back, size]

section Ipv6

variable {l : List Nat}

theorem Ipv6.read?_groupsText (small : ∀ n ∈ l, n < 65536) :
    Ipv6.read? (groupsText l).toList = Ipv6.ofGroups? l := by
  rw [Ipv6.read?, splitGap_of_isClosed (isClosed_groupsText l)]
  simp [readGroups?_groupsText small]

/-- Zeros that are written as a gap are filled in again, since the other groups tell how many they
are. -/
theorem Ipv6.read?_gap (small : ∀ n ∈ l, n < 65536) (eight : l.length = 8) {start n : Nat}
    (run : IsRun l (start, n)) (long : 2 ≤ n) :
    Ipv6.read? (groupsText (l.take start) ++ "::" ++ groupsText (l.drop (start + n))).toList =
    Ipv6.ofGroups? l := by
  have within := run.1
  have before : (l.take start).length = start := by
    rw [List.length_take]
    simp only at within
    omega
  have after : (l.drop (start + n)).length = 8 - (start + n) := by rw [List.length_drop, eight]
  have text : (groupsText (l.take start) ++ "::" ++ groupsText (l.drop (start + n))).toList =
      (groupsText (l.take start)).toList ++ ':' :: ':' ::
        (groupsText (l.drop (start + n))).toList := by
    simp
  have gap : 8 - start - (8 - (start + n)) = n := by
    simp only at within
    omega
  have points : (groupsText (l.take start)).toList.contains '.' = false := by
    simpa using point_notMem_groupsText (l.take start)
  rw [text, Ipv6.read?, splitGap_append (isClosed_groupsText _)]
  simp only [readGroups?_groupsText fun m hm => small m (List.mem_of_mem_take hm),
    readGroups?_groupsText fun m hm => small m (List.mem_of_mem_drop hm), Option.bind_eq_bind,
    Option.bind_some]
  rw [before, after, points, gap, if_neg (by simp; omega), List.append_assoc, run.eq]

/-- An IPv4 address in the last two groups. -/
theorem Ipv4.ofNat_groups {hi lo : Nat} (high : hi < 65536) (low : lo < 65536) :
    (Ipv4.ofNat (hi * 65536 + lo)).a.toNat * 256 + (Ipv4.ofNat (hi * 65536 + lo)).b.toNat = hi ∧
      (Ipv4.ofNat (hi * 65536 + lo)).c.toNat * 256 + (Ipv4.ofNat (hi * 65536 + lo)).d.toNat =
        lo := by
  have byte : ∀ n : Nat, (n % 256).toUInt8.toNat = n % 256 := fun n => by simp
  have powers : Nat.pow 2 24 = 16777216 ∧ Nat.pow 2 16 = 65536 ∧ Nat.pow 2 8 = 256 := by decide
  simp only [Ipv4.ofNat, byte, powers]
  omega

theorem colon_notMem_text (x : Ipv4) : ':' ∉ x.text.toList := by
  intro hc
  obtain digit | point := Ipv4.mem_text hc
  · exact absurd digit (by decide)
  · exact absurd point (by decide)

/-- An IPv4 address at the end is read as the last two groups. -/
theorem Ipv6.read?_mapped {hi lo : Nat} (high : hi < 65536) (low : lo < 65536) :
    Ipv6.read? ("::ffff:" ++ (Ipv4.ofNat (hi * 65536 + lo)).text).toList =
      Ipv6.ofGroups? [0, 0, 0, 0, 0, 0xFFFF, hi, lo] := by
  obtain ⟨upper, lower⟩ := Ipv4.ofNat_groups high low
  generalize Ipv4.ofNat (hi * 65536 + lo) = a at *
  have text : ("::ffff:" ++ a.text).toList =
    ':' :: ':' :: (['f', 'f', 'f', 'f'] ++ ':' :: a.text.toList) := by simp
  have parts : (['f', 'f', 'f', 'f'] ++ ':' :: a.text.toList).splitOn ':' =
    [['f', 'f', 'f', 'f'], a.text.toList] := by
    rw [List.splitOn_append_cons_self_of_not_mem (by decide),
      List.splitOn_eq_singleton (colon_notMem_text a)]
  have group : readGroup? ['f', 'f', 'f', 'f'] = some 0xFFFF := by decide
  have groups : readGroups? (['f', 'f', 'f', 'f'] ++ ':' :: a.text.toList) =
    some [0xFFFF, hi, lo] := by
    rw [readGroups?, if_neg (by simp), parts]
    simp [Ipv4.read?_text, group, upper, lower]
  have gap : splitGap (':' :: ':' :: (['f', 'f', 'f', 'f'] ++ ':' :: a.text.toList)) =
      some ([], ['f', 'f', 'f', 'f'] ++ ':' :: a.text.toList) := rfl
  have none : readGroups? [] = some [] := rfl
  rw [text, Ipv6.read?, gap]
  simp only [groups, none, Option.bind_eq_bind, Option.bind_some]
  rfl

end Ipv6

/-- Each of the three ways in which an address is written is read back. -/
theorem Ipv6.read?_text (x : Ipv6) : Ipv6.read? x.text.toList = some x := by
  have eight : (x.groups.toList.map UInt16.toNat).length = 8 := by simp
  have small : ∀ n ∈ x.groups.toList.map UInt16.toNat, n < 65536 := by
    intro n hn
    obtain ⟨m, -, rfl⟩ := List.mem_map.mp hn
    exact m.toNat_lt
  rw [← ofGroups?_groups x]
  unfold Ipv6.text
  generalize x.groups.toList.map UInt16.toNat = l at *
  dsimp only
  split
  · exact Ipv6.read?_mapped (small _ (by simp)) (small _ (by simp))
  · have run := isRun_longestZeros l
    split
    · exact Ipv6.read?_groupsText small
    · rename_i long
      exact Ipv6.read?_gap small eight run (Nat.le_of_not_lt long)

end Vigil.Net
