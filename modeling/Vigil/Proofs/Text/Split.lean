import Mathlib.Data.List.DropRight
import Mathlib.Data.List.Forall2
import Mathlib.Data.List.TakeDrop
import Mathlib.Data.List.TakeWhile
import Vigil.Text.Blank
import Vigil.Text.Digits

/-!
Texts that are taken apart at characters of a kind.
-/

namespace Vigil.Text

variable {α : Type} {p : α → Bool}

theorem takeWhile_append_stop {l rest : List α} (h : ∀ c ∈ l, p c = true)
    (stop : ∀ c ∈ rest.head?, p c = false) : (l ++ rest).takeWhile p = l := by
  rw [List.takeWhile_append_of_pos h]
  cases rest with
  | nil => simp
  | cons c rest => simp [List.takeWhile_cons_of_neg, stop c rfl]

theorem dropWhile_append_stop {l rest : List α} (h : ∀ c ∈ l, p c = true)
    (stop : ∀ c ∈ rest.head?, p c = false) : (l ++ rest).dropWhile p = rest := by
  rw [List.dropWhile_append_of_pos h]
  cases rest with
  | nil => rfl
  | cons c rest => simp [List.dropWhile_cons_of_neg, stop c rfl]

theorem dropWhile_of_none {l : List α} (h : ∀ c ∈ l, p c = false) : l.dropWhile p = l := by
  cases l with
  | nil => rfl
  | cons c l => exact List.dropWhile_cons_of_neg (ne_true_of_eq_false (h c List.mem_cons_self))

theorem dropEndWhile_of_none {l : List α} (h : ∀ c ∈ l, p c = false) : dropEndWhile p l = l := by
  rw [dropEndWhile, dropWhile_of_none fun c hc => h c (List.mem_reverse.mp hc),
    List.reverse_reverse]

/-- A run of characters ends where the first other one stands. -/
theorem span_append_stop {l rest : List α} (h : ∀ c ∈ l, p c = true)
    (stop : ∀ c ∈ rest.head?, p c = false) : (l ++ rest).span p = (l, rest) := by
  rw [List.span_eq_takeWhile_dropWhile, takeWhile_append_stop h stop, dropWhile_append_stop h stop]

theorem exists_of_forall₂ {β : Type} {r : α → β → Prop} {l : List α} {l' : List β}
    (h : List.Forall₂ r l l') {b : β} (hb : b ∈ l') : ∃ a ∈ l, r a b := by
  induction h with
  | nil => cases hb
  | cons here _ ih =>
      obtain rfl | hb := List.mem_cons.mp hb
      · exact ⟨_, List.mem_cons_self, here⟩
      · obtain ⟨a, ha, r⟩ := ih hb
        exact ⟨a, List.mem_cons_of_mem _ ha, r⟩

/-- A text is split at the first of its separators, if it has any. -/
theorem exists_split (d : Char) (s : List Char) :
    ∃ (front : List Char) (rest : Option (List Char)), d ∉ front ∧
    front ++ rest.elim [] (d :: ·) = s := by
  induction s with
  | nil => exact ⟨[], none, List.not_mem_nil, rfl⟩
  | cons c s ih =>
      obtain rfl | apart := eq_or_ne d c
      · exact ⟨[], some s, List.not_mem_nil, rfl⟩
      · obtain ⟨front, rest, none, whole⟩ := ih
        exact ⟨c :: front, rest, by simp [apart, none], congrArg (c :: ·) whole⟩

/-- The parts between separators hold none, and nothing that the text does not hold. -/
theorem mem_of_mem_splitOnP {s part : List α} (h : part ∈ s.splitOnP p) :
    ∀ c ∈ part, p c = false ∧ c ∈ s := by
  induction s generalizing part with
  | nil =>
      rw [List.splitOnP_nil, List.mem_singleton] at h
      subst h
      intro c hc
      cases hc
  | cons d s ih =>
      obtain ⟨front, rest, parts⟩ := List.exists_cons_of_ne_nil (List.splitOnP_ne_nil p s)
      have behind : ∀ part ∈ s.splitOnP p, ∀ c ∈ part, p c = false ∧ c ∈ d :: s :=
        fun part h c hc => (ih h c hc).imp_right (List.mem_cons_of_mem d)
      rw [List.splitOnP_cons_eq_if_modifyHead] at h
      split at h
      · obtain rfl | h := List.mem_cons.mp h
        · intro c hc
          cases hc
        · exact behind part h
      · rename_i plain
        rw [parts, List.modifyHead_cons] at h
        obtain rfl | h := List.mem_cons.mp h
        · intro c hc
          obtain rfl | hc := List.mem_cons.mp hc
          · exact ⟨eq_false_of_ne_true plain, List.mem_cons_self⟩
          · exact behind front (parts ▸ List.mem_cons_self) c hc
        · exact behind part (parts ▸ List.mem_cons_of_mem _ h)

theorem mem_intercalate {d c : α} {parts : List (List α)} (h : c ∈ [d].intercalate parts) :
    c = d ∨ ∃ part ∈ parts, c ∈ part := by
  induction parts with
  | nil => cases h
  | cons part rest ih =>
      cases rest with
      | nil => exact .inr ⟨part, List.mem_cons_self, by simpa using h⟩
      | cons next rest =>
          rw [List.intercalate_cons_cons] at h
          simp only [List.append_assoc, List.mem_append, List.mem_singleton] at h
          obtain h | h | h := h
          · exact .inr ⟨part, List.mem_cons_self, h⟩
          · exact .inl h
          · exact (ih h).imp_right fun ⟨q, hq, hc⟩ => ⟨q, List.mem_cons_of_mem _ hq, hc⟩

/-- Parts are read if each of them is. -/
theorem mapM_eq_some {β : Type} {f : α → Option β} {l : List α} {l' : List β} :
    l.mapM f = some l' ↔ List.Forall₂ (fun a b => f a = some b) l l' := by
  induction l generalizing l' with
  | nil => simp [eq_comm]
  | cons a rest ih =>
      simp only [List.mapM_cons, Option.bind_eq_bind, Option.bind_eq_some_iff, Option.pure_def,
        Option.some.injEq, ih]
      constructor
      · rintro ⟨b, here, more, tail, rfl⟩
        exact .cons here tail
      · rintro (_ | ⟨here, tail⟩)
        exact ⟨_, here, _, tail, rfl⟩

theorem trim_of_no_blank {s : List Char} (h : ∀ c ∈ s, isBlank c = false) : trim s = s := by
  rw [trim, trimLeft, dropWhile_of_none h, trimRight, dropEndWhile_of_none h]

/-! ### Words -/

/-- A word stands in front of a rest: characters without a blank, up to a blank or the end. -/
structure IsWord (word rest : List Char) : Prop where
  ne : word ≠ []
  plain : ∀ c ∈ word, isBlank c = false
  stop : ∀ c ∈ rest.head?, isBlank c = true

instance (word rest : List Char) : Decidable (IsWord word rest) :=
  decidable_of_iff (word ≠ [] ∧ word.all (!isBlank ·) = true ∧ rest.head?.all isBlank = true) <| by
    simp only [List.all_eq_true, Option.all_eq_true, Bool.not_eq_true']
    exact ⟨fun ⟨ne, plain, stop⟩ => ⟨ne, plain, stop⟩, fun w => ⟨w.ne, w.plain, w.stop⟩⟩

section Words

variable {s gap word rest : List Char}

theorem IsWord.head? (w : IsWord word rest) : ∀ c ∈ (word ++ rest).head?, isBlank c = false := by
  obtain ⟨c, word, rfl⟩ := List.exists_cons_of_ne_nil w.ne
  rintro _ ⟨⟩
  exact w.plain c List.mem_cons_self

/-- The first word is found behind the blanks in front of it. -/
theorem firstWord?_append (blank : ∀ c ∈ gap, isBlank c = true) (w : IsWord word rest) :
    firstWord? (gap ++ (word ++ rest)) = some word := by
  rw [firstWord?, trimLeft, dropWhile_append_stop blank w.head?]
  have cut : (word ++ rest).takeWhile (!isBlank ·) = word :=
    takeWhile_append_stop (fun c hc => by simp [w.plain c hc]) fun c hc => by simp [w.stop c hc]
  obtain ⟨c, word, rfl⟩ := List.exists_cons_of_ne_nil w.ne
  exact congrArg some cut

/-- The first word stands behind nothing but blanks. -/
theorem exists_of_firstWord? (found : firstWord? s = some word) :
    ∃ gap rest, s = gap ++ (word ++ rest) ∧ (∀ c ∈ gap, isBlank c = true) ∧ IsWord word rest := by
  unfold firstWord? at found
  split at found
  · cases found
  · rename_i c tail trimmed
    cases found
    have first : isBlank c = false := by
      have := List.head?_dropWhile_not isBlank s
      rwa [show s.dropWhile isBlank = c :: tail from trimmed] at this
    refine ⟨s.takeWhile isBlank, (c :: tail).dropWhile (!isBlank ·), ?_, fun d hd => ?_, ?_,
      fun d hd => ?_,
      fun d hd => ?_⟩
    · rw [List.takeWhile_append_dropWhile, ← trimmed, trimLeft, List.takeWhile_append_dropWhile]
    · exact List.mem_takeWhile_imp hd
    · rw [List.takeWhile_cons_of_pos (by simp [first])]
      exact List.cons_ne_nil _ _
    · simpa using List.mem_takeWhile_imp hd
    · have := List.head?_dropWhile_not (!isBlank ·) (c :: tail)
      rw [hd] at this
      simpa using this

/-- There is no word in blanks alone. -/
theorem firstWord?_eq_none : firstWord? s = none ↔ ∀ c ∈ s, isBlank c = true := by
  rw [← List.dropWhile_eq_nil_iff]
  unfold firstWord? trimLeft
  split <;> simp_all

end Words

/-! ### The end of a line -/

theorem prefix_trimRight (s : List Char) : trimRight s <+: s := List.rdropWhile_prefix ..

/-- A text that has been trimmed does not end with a blank. -/
theorem getLast?_trimRight (s : List Char) : ∀ c ∈ (trimRight s).getLast?, isBlank c = false := by
  intro c hc
  rw [trimRight, dropEndWhile, List.getLast?_reverse] at hc
  have := List.head?_dropWhile_not isBlank s.reverse
  rwa [hc] at this

/-- What ends with a character that is not blank is not touched by trimming what follows. -/
theorem trimRight_append {front : List Char} (last : ∀ c ∈ front.getLast?, isBlank c = false)
    (rest : List Char) : trimRight (front ++ rest) = front ++ trimRight rest := by
  rw [← List.head?_reverse] at last
  have stays : front.reverse.dropWhile isBlank = front.reverse :=
    dropWhile_append_stop (List.forall_mem_nil _) last
  rw [trimRight, dropEndWhile, List.reverse_append, List.dropWhile_append]
  split
  · rename_i none
    rw [stays, List.reverse_reverse, trimRight, dropEndWhile, List.isEmpty_iff.mp none,
      List.reverse_nil,
      List.append_nil]
  · rw [List.reverse_append, List.reverse_reverse, trimRight, dropEndWhile]

end Vigil.Text
