import Mathlib.Data.List.TakeDrop
import Mathlib.Tactic.Ring
import Vigil.Idna.Punycode
import Vigil.Proofs.Text.Split

/-!
Punycode is written in ASCII and read back.
-/

namespace Vigil.Idna.Punycode

/-! ### Characters -/

def digits : List Char := (List.range 36).map digit

theorem digit_mem {d : Nat} (h : d < 36) : digit d ∈ digits :=
  List.mem_map_of_mem (List.mem_range.mpr h)

theorem mem_writeNumber {bias k q : Nat} {c : Char} (h : c ∈ writeNumber bias k q) :
    c ∈ digits := by
  fun_induction writeNumber bias k q with
  | case1 k q t last =>
      rw [List.mem_singleton] at h
      have := threshold_le k bias
      exact h ▸ digit_mem (by omega)
  | case2 k q t more ih =>
      obtain rfl | h := List.mem_cons.mp h
      · have := threshold_le k bias
        have := Nat.mod_lt (q - t) (show 0 < 36 - t by omega)
        exact digit_mem (by omega)
      · exact ih h

section Writing

variable {w : Writing} {basic n : Nat} {c : Char}

theorem mem_digits_pass {d : Char} (h : c ∈ (w.pass basic n d).digits) :
    c ∈ w.digits ∨ c ∈ digits := by
  unfold Writing.pass at h
  split at h
  · exact .inl h
  · split at h
    · obtain h | h := List.mem_append.mp h
      · exact .inr (mem_writeNumber (List.mem_reverse.mp h))
      · exact .inl h
    · exact .inl h

theorem mem_digits_foldl {text : List Char} (h : c ∈ (text.foldl (Writing.pass basic n) w).digits) :
    c ∈ w.digits ∨ c ∈ digits := by
  induction text generalizing w with
  | nil => exact .inl h
  | cons d text ih =>
      obtain h | h := ih h
      · exact mem_digits_pass h
      · exact .inr h

theorem mem_digits_place {text : List Char} {rest : List Nat}
    (h : c ∈ (Writing.place text basic rest n w).digits) :
    c ∈ w.digits ∨ c ∈ digits := by
  induction rest generalizing n w with
  | nil => exact .inl h
  | cons m rest ih =>
      obtain h | h := ih h
      · exact mem_digits_foldl (w := { w with delta := w.delta + (m - n) * (w.placed + 1) }) h
      · exact .inr h

end Writing

/-- Punycode is ASCII: characters of the text that are, hyphens, and digits. -/
theorem mem_encode {text : List Char} {c : Char} (h : c ∈ encode text) :
    (c ∈ text ∧ c.toNat < 128) ∨ c = '-' ∨ c ∈ digits := by
  obtain h | h := List.mem_append.mp h
  · obtain h | h := List.mem_append.mp h
    · exact .inl ⟨(List.mem_filter.mp h).1, by simpa using (List.mem_filter.mp h).2⟩
    · split at h
      · cases h
      · exact .inr (.inl (List.mem_singleton.mp h))
  · obtain ⟨⟨⟩⟩ | h := mem_digits_place (List.mem_reverse.mp h)
    exact .inr (.inr h)

theorem toNat_lt_of_digitValue? {c : Char} {d : Nat} (h : digitValue? c = some d) :
    c.toNat < 128 := by
  by_contra outside
  have none : digitValue? c = none := by
    simp only [digitValue?]
    rw [if_neg (by simp; omega), if_neg (by simp; omega), if_neg (by simp; omega)]
  rw [none] at h
  cases h

/-- A number that is read takes ASCII from the front. -/
theorem exists_of_readNumber? {bias : Nat} {s rest : List Char} {k w i j : Nat}
    (h : readNumber? bias s k w i = some (j, rest)) :
    ∃ front, s = front ++ rest ∧ ∀ c ∈ front, c.toNat < 128 := by
  induction s generalizing k w i with
  | nil => cases h
  | cons c s ih =>
      unfold readNumber? at h
      split at h
      · cases h
      · rename_i d value
        have ascii := toNat_lt_of_digitValue? value
        dsimp only at h
        split at h
        · cases h
          exact ⟨[c], rfl, by simpa using ascii⟩
        · obtain ⟨front, rfl, plain⟩ := ih h
          exact ⟨c :: front, rfl, by simpa using ⟨ascii, plain⟩⟩

/-- What is read to the end is made of digits. -/
theorem toNat_lt_of_readAll? {basic : Nat} {s out t : List Char} {n i bias : Nat}
    (h : readAll? basic s out n i bias = some t) : ∀ c ∈ s, c.toNat < 128 := by
  fun_induction readAll? basic s out n i bias with
  | case1 s out n i bias none =>
      rw [List.isEmpty_iff] at none
      subst none
      rintro c ⟨⟩
  | case2 s out n i bias more unread => cases h
  | case3 s out n i bias more j rest read count n' outside => cases h
  | case4 s out n i bias more j rest read count n' inside ih =>
      obtain ⟨front, rfl, plain⟩ := exists_of_readNumber? read
      intro c hc
      obtain hc | hc := List.mem_append.mp hc
      · exact plain c hc
      · exact ih h c hc

/-- Whatever can be decoded is ASCII. -/
theorem toNat_lt_of_decode? {s t : List Char} (h : decode? s = some t) :
    ∀ c ∈ s, c.toNat < 128 := by
  unfold decode? at h
  rw [List.span_eq_takeWhile_dropWhile] at h
  dsimp only at h
  split at h
  · rename_i plain
    have ext := toNat_lt_of_readAll? h
    have mark := List.head?_dropWhile_not (· != '-') s.reverse
    intro c hc
    have either : c ∈ s.reverse.takeWhile (· != '-') ∨ c ∈ s.reverse.dropWhile (· != '-') := by
      rw [← List.mem_append, List.takeWhile_append_dropWhile]
      exact List.mem_reverse.mpr hc
    obtain hc | hc := either
    · exact ext c (List.mem_reverse.mpr hc)
    · cases behind : s.reverse.dropWhile (· != '-') with
      | nil =>
          rw [behind] at hc
          cases hc
      | cons d basic =>
          rw [behind] at hc mark plain
          obtain rfl | hc := List.mem_cons.mp hc
          · have : c = '-' := by simpa using mark
            exact this ▸ by decide
          · simpa using List.all_eq_true.mp plain c (List.mem_reverse.mpr hc)
  · cases h

/-! ### Numbers are read back -/

theorem digitValue?_digit {d : Nat} (h : d < 36) : digitValue? (digit d) = some d := by
  have all : ∀ d < 36, digitValue? (digit d) = some d := by decide
  exact all d h

/-- A number is read back onto what has been read before. -/
theorem readNumber?_writeNumber (bias k q w i : Nat) (rest : List Char) :
    readNumber? bias (writeNumber bias k q ++ rest) k w i = some (i + q * w, rest) := by
  induction q using Nat.strongRecOn generalizing k w i with
  | _ q ih =>
      have low := threshold_pos k bias
      have high := threshold_le k bias
      rw [writeNumber]
      split
      · rename_i last
        rw [List.singleton_append, readNumber?, digitValue?_digit (by omega)]
        simp only
        rw [if_pos last]
      · rename_i more
        have below := Nat.mod_lt (q - threshold k bias) (show 0 < 36 - threshold k bias by omega)
        rw [List.cons_append, readNumber?, digitValue?_digit (by omega)]
        simp only
        generalize threshold k bias = t at *
        have parts : q = t + (q - t) % (36 - t) + (36 - t) * ((q - t) / (36 - t)) := by
          have := Nat.mod_add_div (q - t) (36 - t)
          omega
        have sum : i + (t + (q - t) % (36 - t)) * w + (q - t) / (36 - t) * (w * (36 - t)) =
          i + q * w := by
          calc i + (t + (q - t) % (36 - t)) * w + (q - t) / (36 - t) * (w * (36 - t))
              = i + (t + (q - t) % (36 - t) + (36 - t) * ((q - t) / (36 - t))) * w := by ring
            _ = i + q * w := by rw [← parts]
        have smaller : (q - t) / (36 - t) < q := Nat.lt_of_le_of_lt (Nat.div_le_self _ _) (by omega)
        rw [if_neg (by omega), ih _ smaller, sum]

theorem readAll?_nil (basic n i bias : Nat) (out : List Char) :
    readAll? basic [] out n i bias = some out := by
  rw [readAll?, if_pos List.isEmpty_nil]

/-- One number that is read places one code point. -/
theorem readAll?_of_readNumber? {basic n i bias j : Nat} {s rest out : List Char}
    (read : readNumber? bias s 36 1 i = some (j, rest))
    (valid : (n + j / (out.length + 1)).isValidChar) :
    readAll? basic s out n i bias =
      readAll? basic rest
        (out.insertIdx (j % (out.length + 1)) (Char.ofNat (n + j / (out.length + 1))))
        (n + j / (out.length + 1)) (j % (out.length + 1) + 1)
        (adapt (j - i) (out.length + 1) (out.length == basic)) := by
  have inside : ¬ (0x10FFFF < n + j / (out.length + 1) ||
      (0xD800 ≤ n + j / (out.length + 1) && n + j / (out.length + 1) ≤ 0xDFFF)) = true := by
    simp only [Nat.isValidChar] at valid
    simp only [Bool.or_eq_true, Bool.and_eq_true, decide_eq_true_eq]
    omega
  cases s with
  | nil => cases read
  | cons c s =>
      rw [readAll?, if_neg (by simp)]
      split
      · rename_i unread
        cases read.symm.trans unread
      · rename_i j' rest' read'
        cases read.symm.trans read'
        simp only
        rw [if_neg inside]

/-! ### A text is read back -/

/-- What is placed of a text when, placing `m`, its front has been passed. -/
def placed (m : Nat) (front back : List Char) : List Char :=
  front.filter (·.toNat ≤ m) ++ back.filter (·.toNat < m)

/-- How many characters of the front are placed. -/
def passed (m : Nat) (front : List Char) : Nat := (front.filter (·.toNat ≤ m)).length

/-- The reader has placed what the writer has, the last time the code point `n`, in front of index
`i`; and the distance that the writer counts is that from there to the code point `m` where the
front ends. -/
structure Writing.Read (basic : List Char) (m : Nat) (front back : List Char) (w : Writing)
    (n i : Nat) : Prop where
  reads : ∀ rest, readAll? basic.length (w.digits.reverse ++ rest) basic 128 0 72 =
    readAll? basic.length rest (Punycode.placed m front back) n i w.bias
  placed : w.placed = (Punycode.placed m front back).length
  delta : i + w.delta = (m - n) * (w.placed + 1) + passed m front
  below : n ≤ m

section Read

variable {basic front back : List Char} {m n i : Nat} {w : Writing} {c : Char}

theorem passed_le (m : Nat) (front back : List Char) :
    passed m front ≤ (placed m front back).length := by
  rw [placed, List.length_append]
  exact Nat.le_add_right _ _

theorem passed_append_of_le (h : c.toNat ≤ m) : passed m (front ++ [c]) = passed m front + 1 := by
  simp [passed, h]

theorem passed_append_of_gt (h : m < c.toNat) : passed m (front ++ [c]) = passed m front := by
  simp [passed, Nat.not_le_of_lt h]

theorem placed_of_lt (h : c.toNat < m) :
    placed m (front ++ [c]) back = placed m front (c :: back) := by
  simp [placed, h, h.le]

theorem placed_of_gt (h : m < c.toNat) :
    placed m (front ++ [c]) back = placed m front (c :: back) := by
  simp [placed, Nat.not_le_of_lt h, Nat.not_lt_of_lt h]

theorem insertIdx_append_length {α : Type} (l l' : List α) (a : α) :
    (l ++ l').insertIdx l.length a = l ++ a :: l' := by
  induction l with
  | nil => rfl
  | cons b l ih => simpa using ih

theorem insertIdx_placed (c : Char) (front back : List Char) :
    (placed c.toNat front (c :: back)).insertIdx (passed c.toNat front) c =
    placed c.toNat (front ++ [c]) back := by
  rw [placed, passed, insertIdx_append_length]
  simp [placed]

/-- What the reader makes of the digits where the writer places one more character. -/
theorem Writing.Read.place (h : w.Read basic c.toNat front (c :: back) n i) (rest : List Char) :
    readAll? basic.length (w.digits.reverse ++
      (writeNumber w.bias 36 w.delta ++ rest)) basic 128 0 72 =
      readAll? basic.length rest (Punycode.placed c.toNat (front ++ [c]) back) c.toNat
        (passed c.toNat front + 1)
        (adapt w.delta (w.placed + 1) (w.placed == basic.length)) := by
  have within : passed c.toNat front ≤ w.placed := h.placed ▸ passed_le c.toNat front (c :: back)
  have read : readNumber? w.bias (writeNumber w.bias 36 w.delta ++ rest) 36 1 i =
    some (i + w.delta * 1, rest) :=
    readNumber?_writeNumber _ _ _ _ _ rest
  have parts : (i + w.delta * 1) / (w.placed + 1) = c.toNat - n ∧
      (i + w.delta * 1) % (w.placed + 1) = passed c.toNat front := by
    rw [Nat.div_mod_unique (Nat.succ_pos _), Nat.mul_one, h.delta, Nat.mul_comm (w.placed + 1),
      Nat.add_comm]
    exact ⟨rfl, Nat.lt_succ_of_le within⟩
  have same : n + (i + w.delta * 1) / (w.placed + 1) = c.toNat := by
    rw [parts.1, Nat.add_sub_of_le h.below]
  rw [h.reads, readAll?_of_readNumber? read (by rw [← h.placed, same]; exact c.valid), ← h.placed,
    same, parts.2,
    Char.ofNat_toNat, insertIdx_placed, Nat.add_sub_cancel_left, Nat.mul_one]

/-- The step of the correspondence: as the writer passes a character, the reader places it if it is
the one to be placed, and passes it otherwise. -/
theorem Writing.Read.pass (h : w.Read basic m front (c :: back) n i) :
    ∃ n i, (w.pass basic.length m c).Read basic m (front ++ [c]) back n i := by
  have delta := h.delta
  unfold Writing.pass
  split
  · rename_i lower
    refine ⟨n, i, ⟨?_, ?_, ?_, h.below⟩⟩
    · rw [placed_of_lt lower]
      exact h.reads
    · rw [placed_of_lt lower]
      exact h.placed
    · rw [passed_append_of_le lower.le]
      simp only
      omega
  · rename_i least
    split
    · rename_i here
      rw [beq_iff_eq] at here
      subst here
      refine ⟨c.toNat, passed c.toNat front + 1, ⟨?_, ?_, ?_, le_rfl⟩⟩
      · intro rest
        rw [List.reverse_append, List.reverse_reverse, List.append_assoc]
        exact h.place rest
      · rw [← insertIdx_placed, List.length_insertIdx_of_le_length (passed_le _ _ _), ← h.placed]
      · rw [passed_append_of_le le_rfl, Nat.sub_self, Nat.zero_mul, Nat.zero_add]
        rfl
    · rename_i other
      have greater : m < c.toNat := by
        rw [beq_iff_eq] at other
        omega
      refine ⟨n, i, ⟨?_, ?_, ?_, h.below⟩⟩
      · rw [placed_of_gt greater]
        exact h.reads
      · rw [placed_of_gt greater]
        exact h.placed
      · rw [passed_append_of_gt greater]
        exact delta

theorem Writing.Read.foldl (h : w.Read basic m front back n i) :
    ∃ n i, (back.foldl (Writing.pass basic.length m) w).Read basic m (front ++ back) [] n i := by
  induction back generalizing w front n i with
  | nil => exact ⟨n, i, by rwa [List.append_nil]⟩
  | cons c back ih =>
      obtain ⟨n, i, next⟩ := h.pass
      have := ih next
      rwa [List.append_assoc, List.singleton_append] at this

variable {text : List Char} {k : Nat}

/-- Where the text holds no code points the distance grows by one for each place. -/
theorem Writing.Read.raise (h : w.Read basic k [] text n i) (up : k ≤ m)
    (gap : ∀ c ∈ text, c.toNat < m → c.toNat < k) :
    Writing.Read basic m [] text { w with delta := w.delta + (m - k) * (w.placed + 1) } n i := by
  have same : Punycode.placed m [] text = Punycode.placed k [] text := by
    refine List.filter_congr fun c hc => ?_
    rw [decide_eq_decide]
    exact ⟨gap c hc, fun below => below.trans_le up⟩
  have delta := h.delta
  refine ⟨same ▸ h.reads, same ▸ h.placed, ?_, h.below.trans up⟩
  have steps : m - n = k - n + (m - k) := by
    have := h.below
    omega
  rw [steps, Nat.add_mul]
  simp only [passed, List.filter_nil, List.length_nil] at delta ⊢
  omega

/-- At the end of the text both begin anew with the next code point. -/
theorem Writing.Read.turn (h : w.Read basic m text [] n i) :
    Writing.Read basic (m + 1) [] text { w with delta := w.delta + 1 } n i := by
  have same : Punycode.placed (m + 1) [] text = Punycode.placed m text [] := by
    simp only [Punycode.placed, List.filter_nil, List.nil_append, List.append_nil,
      Nat.lt_add_one_iff]
  have all : passed m text = w.placed := by
    rw [h.placed, Punycode.placed, List.filter_nil, List.append_nil, passed]
  have delta := h.delta
  refine ⟨same ▸ h.reads, same ▸ h.placed, ?_, h.below.trans (Nat.le_succ m)⟩
  rw [Nat.succ_sub h.below, Nat.succ_mul]
  simp only [passed, List.filter_nil, List.length_nil] at all delta ⊢
  omega

/-- The reader follows while the code points of a list are placed, and then it has the whole
text. -/
theorem Writing.Read.placeAll {l : List Nat} (h : w.Read basic k [] text n i)
    (sorted : l.Pairwise (· < ·))
    (above : ∀ m ∈ l, k ≤ m) (all : ∀ c ∈ text, k ≤ c.toNat → c.toNat ∈ l) :
    ∃ m n i, (Writing.place text basic.length l k w).Read basic m [] text n i ∧ ∀ c ∈ text,
    c.toNat < m := by
  induction l generalizing k w n i with
  | nil =>
      refine ⟨k, n, i, h, fun c hc => Nat.lt_of_not_le fun unplaced => ?_⟩
      cases all c hc unplaced
  | cons m l ih =>
      obtain ⟨later, sorted⟩ := List.pairwise_cons.mp sorted
      have gap : ∀ c ∈ text, c.toNat < m → c.toNat < k := by
        intro c hc below
        refine Nat.lt_of_not_le fun unplaced => ?_
        obtain here | there := List.mem_cons.mp (all c hc unplaced)
        · omega
        · have := later _ there
          omega
      obtain ⟨n, i, folded⟩ := (h.raise (above m List.mem_cons_self) gap).foldl
      refine ih (by simpa using folded.turn) sorted
        (fun m' hm' => later m' hm') fun c hc unplaced => ?_
      have := above m List.mem_cons_self
      obtain here | there := List.mem_cons.mp (all c hc (by omega))
      · omega
      · exact there

end Read

theorem pairwise_eraseDups {l : List Nat} (h : l.Pairwise (· ≤ ·)) :
    l.eraseDups.Pairwise (· < ·) := by
  induction len : l.length using Nat.strongRecOn generalizing l with
  | _ len ih =>
      cases l with
      | nil => rw [List.eraseDups_nil]; exact .nil
      | cons m l =>
          obtain ⟨least, h⟩ := List.pairwise_cons.mp h
          rw [List.eraseDups_cons]
          refine .cons (fun m' hm' => ?_) (ih _ ?_ (h.filter _) rfl)
          · obtain ⟨mem, other⟩ := List.mem_filter.mp (List.mem_eraseDups.mp hm')
            have := least m' mem
            simp only [Bool.not_eq_true', beq_eq_false_iff_ne] at other
            omega
          · rw [← len, List.length_cons]
            exact Nat.lt_succ_of_le (List.length_filter_le _ _)

theorem mem_extended {text : List Char} {n : Nat} :
    n ∈ extended text ↔ 128 ≤ n ∧ ∃ c ∈ text, c.toNat = n := by
  simp only [extended, List.mem_eraseDups, List.mem_mergeSort, List.mem_map, List.mem_filter,
    decide_eq_true_eq]
  constructor
  · rintro ⟨c, ⟨hc, high⟩, rfl⟩
    exact ⟨high, c, hc, rfl⟩
  · rintro ⟨high, c, hc, rfl⟩
    exact ⟨c, ⟨hc, high⟩, rfl⟩

theorem pairwise_extended (text : List Char) : (extended text).Pairwise (· < ·) := by
  refine pairwise_eraseDups ?_
  have sorted : (((text.filter fun c => 128 ≤ c.toNat).map Char.toNat).mergeSort).Pairwise
      fun a b => decide (a ≤ b) = true :=
    List.pairwise_mergeSort (by simp only [decide_eq_true_eq]; omega)
      (by simp only [Bool.or_eq_true, decide_eq_true_eq]; omega) _
  exact sorted.imp of_decide_eq_true

def written (text : List Char) : List Char :=
  (Writing.place text (text.filter (·.toNat < 128)).length (extended text) 128
    ⟨[], 0, 72, (text.filter (·.toNat < 128)).length⟩).digits.reverse

/-- The reader places exactly the text for which the digits were written. -/
theorem readAll?_written (text : List Char) :
    readAll? (text.filter (·.toNat < 128)).length (written text)
      (text.filter (·.toNat < 128)) 128 0 72 =
      some text := by
  have start : Writing.Read (text.filter (·.toNat < 128)) 128 [] text
      ⟨[], 0, 72, (text.filter (·.toNat < 128)).length⟩ 128 0 := by
    exact ⟨fun rest => rfl, rfl, by simp [passed], le_rfl⟩
  obtain ⟨m, n, i, all, whole⟩ := start.placeAll (pairwise_extended text)
    (fun m hm => (mem_extended.mp hm).1) fun c hc high => mem_extended.mpr ⟨high, c, hc, rfl⟩
  have reads := all.reads []
  have complete : placed m [] text = text := by
    simpa [placed, List.filter_eq_self] using whole
  rw [List.append_nil, complete] at reads
  rw [written, reads, readAll?_nil]

theorem mem_digits_of_mem_written {text : List Char} {c : Char} (h : c ∈ written text) :
    c ∈ digits := by
  obtain ⟨⟨⟩⟩ | h := mem_digits_place (List.mem_reverse.mp h)
  exact h

theorem ne_hyphen_of_mem_written {text : List Char} {c : Char} (h : c ∈ written text) :
    c ≠ '-' := by
  rintro rfl
  exact absurd (mem_digits_of_mem_written h) (by decide)

/-- The end of punycode tells digits from characters: the last hyphen stands between them, if there
is one. -/
theorem reverse_encode (text : List Char) : (encode text).reverse = (written text).reverse ++
    if (text.filter (·.toNat < 128)).isEmpty then []
    else '-' :: (text.filter (·.toNat < 128)).reverse := by
  have whole : encode text = text.filter (·.toNat < 128) ++
      (if (text.filter (·.toNat < 128)).isEmpty then [] else ['-']) ++ written text := rfl
  rw [whole, List.reverse_append, List.reverse_append]
  split
  · rename_i none
    rw [List.isEmpty_iff.mp none]
    rfl
  · rfl

/-- Punycode is read back. -/
theorem decode?_encode (text : List Char) : decode? (encode text) = some text := by
  have digits : ∀ c ∈ (written text).reverse, (c != '-') = true := fun c hc =>
    bne_iff_ne.mpr (ne_hyphen_of_mem_written (List.mem_reverse.mp hc))
  have ascii : (text.filter (·.toNat < 128)).all (·.toNat < 128) = true := by simp
  have read := readAll?_written text
  unfold decode?
  rw [reverse_encode, Text.span_append_stop digits]
  · by_cases none : (text.filter (·.toNat < 128)).isEmpty
    · rw [List.isEmpty_iff.mp none] at read ⊢
      simpa using read
    · simpa [none, ascii] using read
  · intro c hc
    split at hc
    · cases hc
    · cases hc
      rfl

/-- The punycode of a text that is not all ASCII ends with a digit. -/
theorem getLast?_encode {text : List Char} (extended : text.any (128 ≤ ·.toNat) = true) :
    ∃ c ∈ digits, (encode text).getLast? = some c := by
  cases behind : (written text).reverse with
  | nil =>
      have read := readAll?_written text
      rw [List.reverse_eq_nil_iff.mp behind, readAll?_nil, Option.some.injEq, List.filter_eq_self]
        at read
      obtain ⟨c, hc, high⟩ := List.any_eq_true.mp extended
      have := read c hc
      simp only [decide_eq_true_eq] at this high
      omega
  | cons c rest =>
      have mem : c ∈ (written text).reverse := behind ▸ List.mem_cons_self
      refine ⟨c, mem_digits_of_mem_written (List.mem_reverse.mp mem), ?_⟩
      rw [← List.head?_reverse, reverse_encode, behind]
      rfl

end Vigil.Idna.Punycode
