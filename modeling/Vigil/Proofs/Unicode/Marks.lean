import Mathlib.Data.List.Chain
import Mathlib.Data.List.TakeWhile
import Vigil.Unicode.Normal

/-!
Ordering marks gives the one text whose marks are in order and that keeps the order of all starters
and of the marks of each class.
-/

namespace Vigil.Unicode

/-- The starters of a text and its marks of class `k`. -/
def selected (k : Nat) (l : List (Nat × Nat)) : List (Nat × Nat) :=
  l.filter fun p => p.2 == 0 || p.2 == k

/-- Each mark stands at the start, behind a starter or behind a mark of no higher class. -/
def MarksInOrder (l : List (Nat × Nat)) : Prop := l.IsChain fun a b => b.2 = 0 ∨ a.2 ≤ b.2

section

variable {k : Nat} {l l' : List (Nat × Nat)} {a b : Nat × Nat}

@[simp] theorem selected_append : selected k (l ++ l') = selected k l ++ selected k l' :=
  List.filter_append l l'

theorem selected_cons_of_pos (h : a.2 = 0 ∨ a.2 = k) : selected k (a :: l) = a :: selected k l :=
  List.filter_cons_of_pos (by simpa using h)

theorem selected_cons_of_neg (h : ¬ (a.2 = 0 ∨ a.2 = k)) : selected k (a :: l) = selected k l :=
  List.filter_cons_of_neg (by simpa using h)

theorem selected_eq_nil (h : ∀ p ∈ l, p.2 ≠ 0 ∧ p.2 ≠ k) : selected k l = [] := by
  rw [selected, List.filter_eq_nil_iff]
  intro p hp
  simpa using h p hp

/-! ### What ordering keeps -/

/-- Sorting by class moves no mark past another of its class, since it is stable. -/
theorem selected_mergeSort (marks : ∀ p ∈ l, p.2 ≠ 0) :
    selected k (l.mergeSort fun a b => a.2 ≤ b.2) = selected k l := by
  have alike : (selected k l).Pairwise fun a b => decide (a.2 ≤ b.2) = true := by
    refine List.pairwise_of_forall_mem_list fun p hp q hq => ?_
    have of_class : ∀ r ∈ selected k l, r.2 = k := by
      intro r hr
      obtain ⟨mem, same⟩ := List.mem_filter.mp hr
      simpa [marks r mem] using same
    rw [of_class p hp, of_class q hq, decide_eq_true_eq]
  have kept : (selected k l).Sublist (l.mergeSort fun a b => a.2 ≤ b.2) :=
    List.sublist_mergeSort (by simp only [decide_eq_true_eq]; omega)
      (by simp only [Bool.or_eq_true, decide_eq_true_eq]; omega) alike List.filter_sublist
  have within : (selected k l).Sublist (selected k (l.mergeSort fun a b => a.2 ≤ b.2)) := by
    simpa only [selected, List.filter_filter, Bool.and_self] using kept.filter fun p =>
      p.2 == 0 || p.2 == k
  exact (within.eq_of_length ((List.mergeSort_perm l _).filter _).length_eq.symm).symm

/-- The run of marks that a text starts with, if it starts with one. -/
theorem marks_of_run (h : a.2 ≠ 0) (rest : List (Nat × Nat)) :
    ∀ p ∈ a :: rest.takeWhile (·.2 != 0), p.2 ≠ 0 := by
  refine List.forall_mem_cons.mpr ⟨h, fun p hp => ?_⟩
  simpa using List.mem_takeWhile_imp hp

theorem selected_orderMarks (k : Nat) (l : List (Nat × Nat)) :
    selected k (orderMarks l) = selected k l := by
  fun_induction orderMarks l with
  | case1 => rfl
  | case2 n rest ih =>
      rw [selected_cons_of_pos (.inl rfl), selected_cons_of_pos (.inl rfl), ih]
  | case3 n m rest marks ih =>
      have run := marks_of_run (a := (n, m + 1)) (Nat.succ_ne_zero m) rest
      rw [selected_append, selected_mergeSort run, ih, ← selected_append, List.cons_append,
        List.takeWhile_append_dropWhile]

theorem head?_orderMarks (h : ∀ p ∈ l.head?, p.2 = 0) : (orderMarks l).head? = l.head? := by
  cases l with
  | nil => rw [orderMarks]
  | cons p rest =>
      obtain ⟨n, k⟩ := p
      obtain rfl : k = 0 := h _ rfl
      rw [orderMarks, List.head?_cons, List.head?_cons]

/-- Marks are in order once each run of them has been sorted. -/
theorem marksInOrder_orderMarks (l : List (Nat × Nat)) : MarksInOrder (orderMarks l) := by
  fun_induction orderMarks l with
  | case1 => exact .nil
  | case2 n rest ih => exact List.isChain_cons.mpr ⟨fun b _ => .inr (Nat.zero_le _), ih⟩
  | case3 n m rest marks ih =>
      have sorted : (((n, m + 1) :: marks).mergeSort fun a b => a.2 ≤ b.2).Pairwise
          fun a b => decide (a.2 ≤ b.2) = true :=
        List.pairwise_mergeSort (by simp only [decide_eq_true_eq]; omega)
          (by simp only [Bool.or_eq_true, decide_eq_true_eq]; omega) _
      refine List.isChain_append.mpr ⟨?_, ih, fun p _ q hq => .inl ?_⟩
      · exact (sorted.imp fun le => .inr (of_decide_eq_true le)).isChain
      · have starts : ∀ p ∈ (rest.dropWhile (·.2 != 0)).head?, p.2 = 0 := by
          have := List.head?_dropWhile_not (·.2 != 0) rest
          intro p hp
          rw [hp] at this
          simpa using this
        rw [head?_orderMarks starts] at hq
        exact starts q hq

/-! ### What determines the order -/

/-- In front of a mark of class `k` no higher class stands. -/
theorem le_of_selected_cons (h : MarksInOrder (a :: l)) (found : ∃ rest, selected k l = b :: rest)
    (mark : b.2 ≠ 0) : a.2 ≤ b.2 := by
  induction l generalizing a with
  | nil =>
      obtain ⟨rest, ⟨⟩⟩ := found
  | cons c l ih =>
      obtain ⟨here, h⟩ := List.isChain_cons_cons.mp h
      by_cases chosen : c.2 = 0 ∨ c.2 = k
      · obtain ⟨rest, found⟩ := found
        rw [selected_cons_of_pos chosen] at found
        cases found
        exact here.resolve_left mark
      · rw [selected_cons_of_neg chosen] at found
        have := here.resolve_left fun starter => chosen (.inl starter)
        exact this.trans (ih h found)

/-- Two ordered texts that agree in every class begin alike: the first mark of the lowest class must
come first in both. -/
theorem head_eq_of_selected (h : MarksInOrder (a :: l)) (h' : MarksInOrder (b :: l'))
    (same : ∀ k, selected k (a :: l) = selected k (b :: l')) : a = b := by
  have left := same a.2
  have right := same b.2
  rw [selected_cons_of_pos (.inr rfl)] at left
  rw [selected_cons_of_pos (a := b) (.inr rfl)] at right
  by_cases later : b.2 = 0 ∨ b.2 = a.2
  · rw [selected_cons_of_pos later] at left
    exact (List.cons.inj left).1
  · by_cases earlier : a.2 = 0 ∨ a.2 = b.2
    · rw [selected_cons_of_pos earlier] at right
      exact (List.cons.inj right).1
    · rw [selected_cons_of_neg later] at left
      rw [selected_cons_of_neg earlier] at right
      have := le_of_selected_cons h ⟨_, right⟩ fun starter => later (.inl starter)
      have := le_of_selected_cons h' ⟨_, left.symm⟩ fun starter => earlier (.inl starter)
      omega

/-- An ordered text is told by its starters and, class by class, its marks. -/
theorem eq_of_selected (h : MarksInOrder l) (h' : MarksInOrder l')
    (same : ∀ k, selected k l = selected k l') :
    l = l' := by
  induction l generalizing l' with
  | nil =>
      cases l' with
      | nil => rfl
      | cons b l' =>
          have := same b.2
          rw [selected_cons_of_pos (.inr rfl)] at this
          cases this
  | cons a l ih =>
      cases l' with
      | nil =>
          have := same a.2
          rw [selected_cons_of_pos (.inr rfl)] at this
          cases this
      | cons b l' =>
          obtain rfl := head_eq_of_selected h h' same
          refine congrArg (a :: ·) (ih h.tail h'.tail fun k => ?_)
          by_cases chosen : a.2 = 0 ∨ a.2 = k
          · have := same k
            rw [selected_cons_of_pos chosen, selected_cons_of_pos chosen] at this
            exact (List.cons.inj this).2
          · have := same k
            rwa [selected_cons_of_neg chosen, selected_cons_of_neg chosen] at this

/-- What ordering gives is determined by the order of its marks and by what it keeps. -/
theorem orderMarks_eq_iff : orderMarks l = l' ↔
    MarksInOrder l' ∧ ∀ k, selected k l = selected k l' := by
  constructor
  · rintro rfl
    exact ⟨marksInOrder_orderMarks l, fun k => (selected_orderMarks k l).symm⟩
  · rintro ⟨ordered, same⟩
    exact eq_of_selected (marksInOrder_orderMarks l) ordered fun k =>
      (selected_orderMarks k l).trans (same k)

theorem orderMarks_of_marksInOrder (h : MarksInOrder l) : orderMarks l = l :=
  orderMarks_eq_iff.mpr ⟨h, fun _ => rfl⟩

theorem orderMarks_append_cons (n : Nat) (l l' : List (Nat × Nat)) :
    orderMarks (l ++ (n, 0) :: l') = orderMarks l ++ (n, 0) :: orderMarks l' := by
  refine orderMarks_eq_iff.mpr ⟨?_, fun k => ?_⟩
  · refine List.isChain_append.mpr ⟨marksInOrder_orderMarks l, ?_, ?_⟩
    · exact List.isChain_cons.mpr ⟨fun b _ => .inr (Nat.zero_le _), marksInOrder_orderMarks l'⟩
    · rintro p - q ⟨⟩
      exact .inl rfl
  · rw [selected_append, selected_append, selected_cons_of_pos (.inl rfl),
      selected_cons_of_pos (.inl rfl),
      selected_orderMarks, selected_orderMarks]

end

end Vigil.Unicode
