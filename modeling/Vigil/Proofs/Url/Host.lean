import Vigil.Proofs.Idna.Domain
import Vigil.Proofs.Net.Reading
import Vigil.Url.Host

/-!
Hosts that have been read are read again out of their text.
-/

namespace Vigil.Url

open Vigil.Net Vigil.Text

/-! ### Names -/

/-- A host that is a name: the ASCII form of some domain. -/
theorem Host.read_eq_name {s name : List Char} (h : Host.read s = .ok (.name name)) :
    (∃ domain, Idna.toAscii? domain = some name) ∧ name ≠ [] ∧ endsInNumber name = false := by
  unfold Host.read at h
  split at h
  · split at h <;> cases h
  · split at h
    · cases h
    · cases h
    · rename_i ascii named read
      split at h
      · split at h <;> cases h
      · rename_i text
        cases h
        obtain ⟨domain, -, mapped⟩ := Option.bind_eq_some_iff.mp read
        refine ⟨⟨domain, mapped⟩, ?_, eq_false_of_ne_true text⟩
        rintro rfl
        exact named rfl

/-! ### Texts without escapes -/

theorem percentDecode_of_bare {s : List Char} (h : '%' ∉ s) :
    percentDecode s = s.flatMap String.utf8EncodeChar := by
  fun_induction percentDecode s with
  | case1 a b rest x y first second ih => exact absurd List.mem_cons_self h
  | case2 a b rest unread ih => exact absurd List.mem_cons_self h
  | case3 c rest other ih => rw [List.flatMap_cons, ih fun hc => h (List.mem_cons_of_mem c hc)]
  | case4 => rfl

theorem decodeBytes?_flatMap (s : List Char) :
    decodeBytes? (s.flatMap String.utf8EncodeChar) = some s := by
  have bytes : (⟨(s.flatMap String.utf8EncodeChar).toArray⟩ : ByteArray) = s.utf8Encode := by
    rw [List.utf8Encode, ByteArray.ext_iff, List.data_toByteArray]
  rw [decodeBytes?, bytes, String.fromUTF8?, dif_pos ByteArray.isValidUTF8_utf8Encode]
  exact congrArg some (String.toList_ofList (l := s))

/-- Without brackets and escapes a host is what the ASCII form of its text says. -/
theorem Host.read_of_bare {s : List Char} (bare : ∀ c ∈ s, c ≠ '[' ∧ c ≠ '%') {host : Host} :
    Host.read s = .ok host ↔ ∃ ascii, Idna.toAscii? s = some ascii ∧ ascii ≠ [] ∧
      ((endsInNumber ascii = false ∧ host = .name ascii) ∨
        (endsInNumber ascii = true ∧ ∃ a, readIpv4? ascii = some a ∧ host = .v4 a)) := by
  have unbracketed : ¬ (s.head? == some '[') = true := by
    rw [beq_iff_eq]
    intro first
    exact (bare '[' (List.mem_of_head? first)).1 rfl
  have decoded : decodeBytes? (percentDecode s) = some s := by
    rw [percentDecode_of_bare fun hc => (bare '%' hc).2 rfl, decodeBytes?_flatMap]
  rw [Host.read, if_neg unbracketed, decoded, Option.bind_some]
  cases ascii : Idna.toAscii? s with
  | none => simp
  | some text =>
      cases text with
      | nil => simp
      | cons c rest =>
          by_cases number : endsInNumber (c :: rest) = true
          · cases address : readIpv4? (c :: rest) with
            | none => simp [number, address]
            | some a => simp [number, address, @eq_comm _ host]
          · simp [number, @eq_comm _ host]

theorem bare_of_isPlain {c : Char} (h : Idna.isPlain c = true) : c ≠ '[' ∧ c ≠ '%' := by
  have free := Idna.isForbidden_of_isPlain h
  constructor <;> rintro rfl <;> exact absurd free (by decide)

/-- A name that has been read is read again as itself. -/
theorem Host.read_name {s name : List Char} (h : Host.read s = .ok (.name name)) :
    Host.read name = .ok (.name name) := by
  obtain ⟨⟨domain, ascii⟩, ne_nil, number⟩ := Host.read_eq_name h
  have bare : ∀ c ∈ name, c ≠ '[' ∧ c ≠ '%' := fun c hc =>
    bare_of_isPlain (Idna.isPlain_of_mem_toAscii? ascii c hc)
  exact (Host.read_of_bare bare).mpr ⟨name, Idna.toAscii?_toAscii? ascii, ne_nil,
    .inl ⟨number, rfl⟩⟩

theorem numericPart?_of_head {s : List Char} (h : s.head? ≠ some '0') :
    numericPart? s = readNat? 10 s := by
  unfold numericPart?
  split <;> first | rfl | exact absurd rfl h

/-! ### Addresses -/

theorem numericPart?_toDigits (n : Nat) : numericPart? (Nat.toDigits 10 n) = some n := by
  by_cases zero : (Nat.toDigits 10 n).head? = some '0'
  · rw [eq_zero_of_head?_toDigits (by decide) zero]
    rfl
  · rw [numericPart?_of_head zero, readNat?_toDigits (by decide) (by decide)]

theorem hostParts_text (a : Ipv4) :
    hostParts a.text.toList = [a.a, a.b, a.c, a.d].map fun n => Nat.toDigits 10 n.toNat := by
  rw [hostParts, splitOn_text]
  simp [Nat.toDigits_ne_nil]

theorem endsInNumber_text (a : Ipv4) : endsInNumber a.text.toList = true := by
  rw [endsInNumber, hostParts_text]
  simp [numericPart?_toDigits]

/-- Four numbers below 256 are the bytes of an address. -/
theorem ipv4OfNumbers?_bytes (a : Ipv4) :
    ipv4OfNumbers? [a.a.toNat, a.b.toNat, a.c.toNat, a.d.toNat] = some a := by
  obtain ⟨w, x, y, z⟩ := a
  have hw := w.toNat_lt
  have hx := x.toNat_lt
  have hy := y.toNat_lt
  have hz := z.toNat_lt
  have fit : ¬ (3 < [y.toNat, x.toNat, w.toNat].length ||
    [y.toNat, x.toNat, w.toNat].any (255 < ·) ||
      Nat.pow 256 (4 - [y.toNat, x.toNat, w.toNat].length) ≤ z.toNat) = true := by
    simp
    omega
  have whole : Ipv4.ofNat (((w.toNat * 256 + x.toNat) * 256 + y.toNat) * 256 + z.toNat) =
    ⟨w, x, y, z⟩ := by
    have powers : Nat.pow 2 24 = 16777216 ∧ Nat.pow 2 16 = 65536 ∧ Nat.pow 2 8 = 256 := by decide
    have byte : ∀ (n : Nat) (b : UInt8), n % 256 = b.toNat → (n % 256).toUInt8 = b := by
      intro n b h
      simp [h]
    simp only [Ipv4.ofNat, powers, Ipv4.mk.injEq]
    exact ⟨byte _ _ (by omega), byte _ _ (by omega), byte _ _ (by omega), byte _ _ (by omega)⟩
  simp only [ipv4OfNumbers?, List.reverse_cons, List.reverse_nil, List.nil_append, List.cons_append]
  rw [if_neg fit]
  simpa using whole

theorem readIpv4?_text (a : Ipv4) : readIpv4? a.text.toList = some a := by
  rw [readIpv4?, hostParts_text]
  simp [numericPart?_toDigits, ipv4OfNumbers?_bytes]

/-- The text of an IPv4 address is read as that address, not as a name. -/
theorem Host.read_v4 (a : Ipv4) : Host.read a.text.toList = .ok (.v4 a) := by
  have chars : ∀ c ∈ a.text.toList, c ∈ '.' :: numerals 10 := by
    intro c hc
    obtain digit | rfl := Ipv4.mem_text hc
    · exact List.mem_cons_of_mem _ digit
    · exact List.mem_cons_self
  have all : ('.' :: numerals 10).all Idna.isPlain = true := by decide
  have plain : ∀ c ∈ a.text.toList, Idna.isPlain c = true :=
    fun c hc => List.all_eq_true.mp all c (chars c hc)
  have own := Idna.toAscii?_of_plain plain fun label hl marked => by
    rw [splitOn_text] at hl
    obtain ⟨n, -, rfl⟩ := List.mem_map.mp hl
    exact notMem_toDigits (by decide) (by decide) (marked.subset (List.mem_cons_self (a := 'x')))
  exact (Host.read_of_bare fun c hc => bare_of_isPlain (plain c hc)).mpr
    ⟨_, own, a.toList_text_ne_nil, .inr ⟨endsInNumber_text a, a, readIpv4?_text a, rfl⟩⟩

theorem Host.read_v6 (a : Ipv6) : Host.read ('[' :: a.text.toList ++ [']']) = .ok (.v6 a) := by
  have inner : bracketed? ('[' :: a.text.toList ++ [']']) = some a.text.toList := by
    simp [bracketed?]
  have opened : (('[' :: a.text.toList ++ [']']).head? == some '[') = true := by simp
  rw [Host.read, if_pos opened, inner, Option.bind_some, Ipv6.read?_text]

/-- An address is read back. -/
theorem Host.read_ofAddress (a : Address) :
    Host.read (Host.ofAddress a).text.toList = .ok (Host.ofAddress a) := by
  cases a with
  | v4 a => exact Host.read_v4 a
  | v6 a => simpa [Host.ofAddress, Host.text] using Host.read_v6 a

end Vigil.Url
