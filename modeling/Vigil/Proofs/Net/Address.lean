import Vigil.Net.Address
import Vigil.Proofs.Text.Digits
import Vigil.Proofs.Text.Split

/-!
Addresses are written in digits, points and colons.
-/

namespace Vigil.Net

open Vigil.Text

/-! ### Characters -/

theorem Ipv4.toList_text (x : Ipv4) :
    x.text.toList = ['.'].intercalate ([x.a, x.b, x.c, x.d].map fun n =>
        Nat.toDigits 10 n.toNat) := by
  simp [Ipv4.text, toList_decimal]

theorem Ipv4.toList_text_ne_nil (x : Ipv4) : x.text.toList ≠ [] := by
  rw [toList_text, List.map_cons, List.map_cons, List.intercalate_cons_cons]
  simp

theorem toList_groupsText (l : List Nat) :
    (groupsText l).toList = [':'].intercalate (l.map (Nat.toDigits 16)) := by
  simp [groupsText, String.toList_intercalate, Function.comp_def, toList_hexadecimal]

theorem Ipv4.mem_text {x : Ipv4} {c : Char} (h : c ∈ x.text.toList) :
    c ∈ numerals 10 ∨ c = '.' := by
  rw [Ipv4.toList_text] at h
  obtain rfl | ⟨part, hp, hc⟩ := mem_intercalate h
  · exact .inr rfl
  · obtain ⟨n, -, rfl⟩ := List.mem_map.mp hp
    exact .inl (mem_numerals_of_mem_toDigits (by decide) hc)

theorem mem_groupsText {l : List Nat} {c : Char} (h : c ∈ (groupsText l).toList) :
    c ∈ numerals 16 ∨ c = ':' := by
  rw [toList_groupsText] at h
  obtain rfl | ⟨part, hp, hc⟩ := mem_intercalate h
  · exact .inr rfl
  · obtain ⟨n, -, rfl⟩ := List.mem_map.mp hp
    exact .inl (mem_numerals_of_mem_toDigits (by decide) hc)

def addressChars : List Char := ':' :: '.' :: numerals 16

theorem Ipv4.mem_addressChars {x : Ipv4} {c : Char} (h : c ∈ x.text.toList) : c ∈ addressChars := by
  have decimal : (numerals 10).all (addressChars.contains ·) = true := by decide
  obtain h | rfl := Ipv4.mem_text h
  · simpa using List.all_eq_true.mp decimal c h
  · decide

theorem mem_addressChars_of_mem_groupsText {l : List Nat} {c : Char}
    (h : c ∈ (groupsText l).toList) :
    c ∈ addressChars := by
  obtain h | rfl := mem_groupsText h
  · exact List.mem_cons_of_mem _ (List.mem_cons_of_mem _ h)
  · exact List.mem_cons_self

/-- An address is written with digits, letters, colons and points only. -/
theorem Ipv6.mem_addressChars {x : Ipv6} {c : Char} (h : c ∈ x.text.toList) : c ∈ addressChars := by
  unfold Ipv6.text at h
  dsimp only at h
  split at h
  · have mark : "::ffff:".toList.all (addressChars.contains ·) = true := by decide
    rw [String.toList_append] at h
    obtain h | h := List.mem_append.mp h
    · simpa using List.all_eq_true.mp mark c h
    · exact Ipv4.mem_addressChars h
  · split at h
    · exact mem_addressChars_of_mem_groupsText h
    · simp only [String.toList_append, List.mem_append] at h
      obtain (h | h) | h := h
      · exact mem_addressChars_of_mem_groupsText h
      · have mark : "::".toList.all (addressChars.contains ·) = true := by decide
        simpa using List.all_eq_true.mp mark c h
      · exact mem_addressChars_of_mem_groupsText h

end Vigil.Net
