import Vigil.Text.Digits

/-!
Numbers that are written in digits are read back.
-/

namespace Vigil.Text

def numerals (base : Nat) : List Char := (List.range base).map Nat.digitChar

section Digits

variable {base : Nat} {n : Nat}

theorem digitBelow?_digitChar (small : base ≤ 16) {d : Nat} (h : d < base) :
    digitBelow? base d.digitChar = some d := by
  have value : ∀ d < 16, digitValue? d.digitChar = some d := by decide
  simp [digitBelow?, value d (by omega), h]

theorem mem_numerals_of_mem_toDigits (base_gt : 1 < base) {c : Char} (h : c ∈ Nat.toDigits base n) :
    c ∈ numerals base := by
  have digit : ∀ d < base, d.digitChar ∈ numerals base := fun d hd =>
    List.mem_map_of_mem (List.mem_range.mpr hd)
  induction n using Nat.strongRecOn with
  | _ n ih =>
      rw [Nat.toDigits_eq_if base_gt] at h
      split at h
      · rename_i small
        exact List.mem_singleton.mp h ▸ digit n small
      · rename_i large
        obtain h | h := List.mem_append.mp h
        · exact ih (n / base) (Nat.div_lt_self (by omega) base_gt) h
        · exact List.mem_singleton.mp h ▸ digit _ (Nat.mod_lt n (by omega))

/-- Reading digits goes on from what has been read. -/
theorem foldlM_toDigits (base_gt : 1 < base) (small : base ≤ 16) :
    (Nat.toDigits base n).foldlM (fun acc c => (digitBelow? base c).map (acc * base + ·)) 0 =
    some n := by
  induction n using Nat.strongRecOn with
  | _ n ih =>
      rw [Nat.toDigits_eq_if base_gt]
      split
      · rename_i below
        simp [digitBelow?_digitChar small below]
      · rename_i large
        rw [List.foldlM_append, ih (n / base) (Nat.div_lt_self (by omega) base_gt)]
        simp [digitBelow?_digitChar small (Nat.mod_lt n (by omega)), Nat.div_add_mod']

theorem readNat?_toDigits (base_gt : 1 < base) (small : base ≤ 16) :
    readNat? base (Nat.toDigits base n) = some n := by
  rw [readNat?, if_neg (by simp [Nat.toDigits_ne_nil]), foldlM_toDigits base_gt small]

/-- No zero stands in front of a number. -/
theorem eq_zero_of_head?_toDigits (base_gt : 1 < base)
    (h : (Nat.toDigits base n).head? = some '0') : n = 0 := by
  induction n using Nat.strongRecOn with
  | _ n ih =>
      rw [Nat.toDigits_eq_if base_gt] at h
      split at h
      · exact Nat.digitChar_eq_zero.mp (Option.some.inj h)
      · rename_i large
        have front := Nat.div_pos (Nat.le_of_not_lt large) (by omega)
        obtain ⟨c, rest, digits⟩ :=
          List.exists_cons_of_ne_nil (Nat.toDigits_ne_nil (b := base) (n := n / base))
        rw [digits] at h
        have := ih (n / base) (Nat.div_lt_self (by omega) base_gt) (digits ▸ h)
        omega

end Digits

theorem toList_decimal (n : Nat) : (decimal n).toList = Nat.toDigits 10 n := String.toList_ofList

theorem toList_hexadecimal (n : Nat) : (hexadecimal n).toList = Nat.toDigits 16 n :=
  String.toList_ofList

end Vigil.Text
