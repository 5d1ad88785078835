import Vigil.Proofs.Text.Split
import Vigil.Proofs.Unicode.Composition
import Vigil.Proofs.Unicode.Marks

/-!
Canonical composition leaves what it has made as it is.
-/

namespace Vigil.Unicode

def atoms (l : List Nat) : List Nat := l.flatMap (decompose 8)

def classed (l : List Nat) : List (Nat × Nat) := l.map fun n => (n, combiningClass (Char.ofNat n))

def joined (l : List (Nat × Nat)) : List Nat :=
  (l.foldl Joining.push Joining.start).reversed.reverse

theorem composed_eq (s : List Char) :
    composed s = (joined (orderMarks (classed (atoms (s.map Char.toNat))))).map Char.ofNat := by
  simp only [composed, joined, classed, atoms, List.flatMap_map]

section Parts

variable {l l' : List Nat}

@[simp] theorem atoms_append : atoms (l ++ l') = atoms l ++ atoms l' := List.flatMap_append

@[simp] theorem classed_append : classed (l ++ l') = classed l ++ classed l' := List.map_append

theorem isAtom_of_mem_atoms {n : Nat} (h : n ∈ atoms l) : IsAtom n := by
  obtain ⟨m, -, hn⟩ := List.mem_flatMap.mp h
  exact isAtom_of_mem_decompose hn

theorem atoms_of_isAtom (h : ∀ n ∈ l, IsAtom n) : atoms l = l := by
  have single : ∀ n ∈ l, decompose 8 n = [n] := fun n hn => (h n hn).decompose 8
  rw [atoms, List.flatMap_congr single, List.flatMap_singleton']

/-- What two code points make comes apart into them. -/
theorem atoms_of_compose? {m n whole : Nat} (makes : compose? m n = some whole) (atom : IsAtom n) :
    atoms [whole] = atoms [m] ++ atoms [n] := by
  rw [atoms_of_isAtom (l := [n]) (by simpa using atom), atoms, atoms, List.flatMap_singleton,
    List.flatMap_singleton,
    decompose_of_compose? makes]

end Parts

/-! ### Pushing -/

namespace Joining

variable {j : Joining} {l : List (Nat × Nat)} {p : Nat × Nat}

/-- Whether a code point joins the starter, and what the two make. -/
def Joins (j : Joining) (n k whole : Nat) : Prop :=
  ∃ s, j.starter = some s ∧ (j.marks = [] ∨ j.lastClass < k) ∧ compose? s n = some whole

theorem push_of_joins {n k whole : Nat} (h : j.Joins n k whole) :
    j.push (n, k) = { j with starter := some whole } := by
  obtain ⟨s, starter, free, makes⟩ := h
  have unblocked : (j.marks.isEmpty || j.lastClass < k) = true := by simpa using free
  simp only [push, starter, Option.bind_some, unblocked, if_true, makes]

/-- A code point that does not join the starter is a starter itself, or one more mark. -/
theorem push_of_apart {n k : Nat} (h : ∀ whole, ¬ j.Joins n k whole) :
    j.push (n, k) =
      if k = 0 then ⟨j.reversed, some n, [], 0⟩
        else { j with marks := n :: j.marks, lastClass := k } := by
  have apart : (j.starter.bind fun s => if j.marks.isEmpty || j.lastClass < k then compose? s n
    else none) = none := by
    rw [Option.bind_eq_none_iff]
    intro s hs
    split
    · rename_i free
      simp only [Bool.or_eq_true, List.isEmpty_iff, decide_eq_true_eq] at free
      cases makes : compose? s n with
      | none => rfl
      | some whole => exact absurd ⟨s, hs, free, makes⟩ (h whole)
    · rfl
  simp only [push, apart, beq_iff_eq]

/-- The ways in which a code point is seen: it joins the starter, it is a starter itself, or it is
one more mark. -/
inductive Pushed (j : Joining) : Nat × Nat → Joining → Prop where
  | joins (n k s whole : Nat) (starter : j.starter = some s) (free : j.marks = [] ∨ j.lastClass < k)
      (makes : compose? s n = some whole) : Pushed j (n, k) { j with starter := some whole }
  | starts (n : Nat) : Pushed j (n, 0) ⟨j.reversed, some n, [], 0⟩
  | marks (n k : Nat) (mark : k ≠ 0) : Pushed j (n, k)
      { j with marks := n :: j.marks, lastClass := k }

/-- Seeing a code point is one of the three ways. -/
theorem pushed (j : Joining) (p : Nat × Nat) : Pushed j p (j.push p) := by
  obtain ⟨n, k⟩ := p
  by_cases h : ∃ whole, j.Joins n k whole
  · obtain ⟨whole, h⟩ := h
    have push := push_of_joins h
    obtain ⟨s, starter, free, makes⟩ := h
    exact push ▸ .joins n k s whole starter free makes
  · rw [push_of_apart (not_exists.mp h)]
    split
    · rename_i starter
      subst starter
      exact .starts n
    · rename_i mark
      exact .marks n k mark

/-! ### What has been seen -/

/-- A joining that has seen a text: taken apart it gives the text up to the order of its marks. -/
structure Holds (j : Joining) (l : List (Nat × Nat)) : Prop where
  same : ∀ k, selected k (classed (atoms j.reversed.reverse)) = selected k l
  marks : ∀ n ∈ j.marks, IsAtom n ∧ combiningClass (Char.ofNat n) ≠ 0 ∧
    combiningClass (Char.ofNat n) ≤ j.lastClass
  unmarked : j.marks = [] → j.lastClass = 0
  /-- What follows as a mark is of no lower class than the marks that wait. -/
  next : ∀ p, MarksInOrder (l ++ [p]) → p.2 ≠ 0 → j.lastClass ≤ p.2

theorem reverse_reversed (j : Joining) :
    j.reversed.reverse = j.done.reverse ++ j.starter.toList ++ j.marks.reverse := by
  cases starter : j.starter with
  | none => simp [reversed, starter]
  | some s => simp [reversed, starter]

theorem Holds.atoms_marks (h : j.Holds l) : atoms j.marks.reverse = j.marks.reverse :=
  atoms_of_isAtom fun n hn => (h.marks n (List.mem_reverse.mp hn)).1

/-- What joins the starter may as well stand in front of the marks that wait, as its class is
higher. -/
theorem Holds.selected_passed (h : j.Holds l) {n k : Nat}
    (free : j.marks = [] ∨ j.lastClass < k) (i : Nat) :
    selected i [(n, k)] ++ selected i (classed j.marks.reverse) =
      selected i (classed j.marks.reverse) ++ selected i [(n, k)] := by
  obtain none | above := free
  · rw [none]
    exact (List.append_nil _).trans (List.nil_append _).symm
  · by_cases chosen : k = 0 ∨ k = i
    · obtain rfl : k = i := chosen.resolve_left (by omega)
      have others : selected k (classed j.marks.reverse) = [] := by
        refine selected_eq_nil fun p hp => ?_
        obtain ⟨m, hm, rfl⟩ := List.mem_map.mp hp
        obtain ⟨-, mark, below⟩ := h.marks m (List.mem_reverse.mp hm)
        exact ⟨mark, Nat.ne_of_lt (Nat.lt_of_le_of_lt below above)⟩
      rw [others, List.append_nil, List.nil_append]
    · rw [selected_cons_of_neg chosen]
      exact (List.nil_append _).trans (List.append_nil _).symm

/-- The step of the inverse: what has been joined, taken apart again, is the text so far. -/
theorem Holds.push (h : j.Holds l) (ordered : MarksInOrder (l ++ [p])) (atom : IsAtom p.1)
    (ranked : p.2 = combiningClass (Char.ofNat p.1)) : (j.push p).Holds (l ++ [p]) := by
  have next : ∀ q, MarksInOrder (l ++ [p] ++ [q]) → q.2 ≠ 0 → p.2 ≤ q.2 := by
    intro q more mark
    have := (List.isChain_append.mp more).2.2 p (by simp) q (by simp)
    exact this.resolve_left mark
  have single : classed (atoms [p.1]) = [p] := by
    rw [atoms_of_isAtom (by simpa using atom), classed, List.map_singleton, ← ranked]
  have seen := j.pushed p
  generalize j.push p = j' at seen ⊢
  cases seen with
  | joins n k s whole starter free makes =>
      refine ⟨fun i => ?_, h.marks, h.unmarked, fun q more mark => ?_⟩
      · have old := h.same i
        have passed := h.selected_passed (n := n) free i
        have parts : classed (atoms [whole]) = classed (atoms [s]) ++ [(n, k)] := by
          rw [← single, ← classed_append, ← atoms_of_compose? makes atom]
        rw [reverse_reversed] at old ⊢
        simp only [starter, Option.toList_some, atoms_append, classed_append, selected_append,
          h.atoms_marks,
          parts] at old ⊢
        rw [← old, List.append_assoc _ _ (selected i [(n, k)]), ← passed]
        simp only [List.append_assoc]
      · cases bare : j.marks with
        | nil => exact (h.unmarked bare).le.trans (Nat.zero_le _)
        | cons m rest =>
            have above : j.lastClass < k := free.resolve_left (by simp [bare])
            exact above.le.trans (next q more mark)
  | starts n =>
      refine ⟨fun i => ?_, fun m hm => ?_, fun _ => rfl, fun q _ _ => Nat.zero_le _⟩
      · have old := h.same i
        rw [reverse_reversed]
        simp only [Option.toList_some, List.reverse_nil, List.append_nil, atoms_append,
          classed_append,
          selected_append, single, old]
      · cases hm
  | marks n k mark =>
      refine ⟨fun i => ?_, fun m hm => ?_, nofun, next⟩
      · have old := h.same i
        rw [reverse_reversed] at old ⊢
        simp only [List.reverse_cons, ← List.append_assoc]
        rw [atoms_append, classed_append, selected_append, single, old, selected_append]
      · obtain rfl | hm := List.mem_cons.mp hm
        · exact ⟨atom, ranked ▸ mark, ranked.ge⟩
        · obtain ⟨waits, other, below⟩ := h.marks m hm
          exact ⟨waits, other, below.trans (h.next (n, k) ordered mark)⟩

/-- Joining loses nothing of a text whose marks are in order. -/
theorem holds_foldl {l : List (Nat × Nat)} (ordered : MarksInOrder l)
    (atoms : ∀ p ∈ l, IsAtom p.1 ∧ p.2 = combiningClass (Char.ofNat p.1)) :
    (l.foldl Joining.push Joining.start).Holds l := by
  induction l using List.reverseRecOn with
  | nil => exact ⟨fun _ => rfl, by simp [start], fun _ => rfl, fun _ _ _ => Nat.zero_le _⟩
  | append_singleton l p ih =>
      have earlier :=
        ih (List.isChain_append.mp ordered).1 fun q hq => atoms q (List.mem_append_left _ hq)
      obtain ⟨atom, ranked⟩ := atoms p (by simp)
      rw [List.foldl_append]
      exact earlier.push ordered atom ranked

end Joining

/-! ### Composed texts -/

theorem mem_orderMarks {l : List (Nat × Nat)} {p : Nat × Nat} : p ∈ orderMarks l ↔ p ∈ l := by
  have within : ∀ l : List (Nat × Nat), p ∈ selected p.2 l ↔ p ∈ l := by simp [selected]
  rw [← within, selected_orderMarks, within]

/-- What has been joined from a text in order comes apart into the text again. -/
theorem orderMarks_joined {l : List (Nat × Nat)} (ordered : MarksInOrder l)
    (parts : ∀ p ∈ l, IsAtom p.1 ∧ p.2 = combiningClass (Char.ofNat p.1)) :
    orderMarks (classed (atoms (joined l))) = l :=
  orderMarks_eq_iff.mpr ⟨ordered, (Joining.holds_foldl ordered parts).same⟩

section Closed

variable {P : Nat → Prop}

/-- A closed property holds of all that is joined from code points that have it. -/
theorem Closed.of_mem_push (closed : Closed P) {j : Joining} {p : Nat × Nat}
    (h : ∀ n ∈ j.reversed, P n) (hp : P p.1) : ∀ n ∈ (j.push p).reversed, P n := by
  have seen := j.pushed p
  generalize j.push p = j' at seen ⊢
  cases seen with
  | joins n k s whole starter free makes =>
      intro m hm
      simp only [Joining.reversed, starter, Option.toList_some, List.mem_append, List.mem_singleton]
        at h hm
      obtain (hm | rfl) | hm := hm
      · exact h m (.inl (.inl hm))
      · exact closed.of_compose? (h s (.inl (.inr rfl))) hp makes
      · exact h m (.inr hm)
  | starts n => exact List.forall_mem_cons.mpr ⟨hp, h⟩
  | marks n k mark => exact List.forall_mem_cons.mpr ⟨hp, h⟩

theorem Closed.of_mem_joined (closed : Closed P) {l : List (Nat × Nat)} (h : ∀ p ∈ l, P p.1) :
    ∀ n ∈ joined l, P n := by
  have run : ∀ n ∈ (l.foldl Joining.push Joining.start).reversed, P n := by
    induction l using List.reverseRecOn with
    | nil => nofun
    | append_singleton l p ih =>
        rw [List.foldl_append]
        exact closed.of_mem_push (ih fun q hq => h q (List.mem_append_left _ hq)) (h p (by simp))
  exact fun n hn => run n (List.mem_reverse.mp hn)

theorem Closed.of_mem_ordered (closed : Closed P) {l : List Nat} (h : ∀ n ∈ l, P n) :
    ∀ p ∈ orderMarks (classed (atoms l)), P p.1 := by
  intro p hp
  obtain ⟨n, hn, rfl⟩ := List.mem_map.mp (mem_orderMarks.mp hp)
  obtain ⟨m, hm, hn⟩ := List.mem_flatMap.mp hn
  exact closed.of_mem_decompose (h m hm) hn

end Closed

theorem closed_isValidChar : Closed Nat.isValidChar := by
  have all : composites.all (fun c => c.first.isValidChar && c.second.isValidChar &&
    c.whole.isValidChar) = true := by
    decide +kernel
  have valid : ∀ c ∈ composites, c.first.isValidChar ∧ c.second.isValidChar ∧
    c.whole.isValidChar := by
    intro c hc
    simpa [and_assoc] using List.all_eq_true.mp all c hc
  refine ⟨fun c hc _ => ⟨(valid c hc).1, (valid c hc).2.1⟩, fun c hc _ _ => (valid c hc).2.2,
    fun n hn => .inl ?_⟩
  simp only [isJamo, isSyllable, Bool.or_eq_true, Bool.and_eq_true, decide_eq_true_eq] at hn
  omega

theorem toNat_ofNat {n : Nat} (h : n.isValidChar) : (Char.ofNat n).toNat = n := by
  rw [Char.ofNat, dif_pos h]
  rfl

/-- Composing a text yields the code points that have been joined. -/
theorem map_toNat_composed (s : List Char) :
    (composed s).map Char.toNat = joined (orderMarks (classed (atoms (s.map Char.toNat)))) := by
  have valid : ∀ n ∈ s.map Char.toNat, n.isValidChar := by
    intro n hn
    obtain ⟨c, -, rfl⟩ := List.mem_map.mp hn
    exact c.valid
  have kept := closed_isValidChar.of_mem_joined (closed_isValidChar.of_mem_ordered valid)
  have back : ∀ n ∈ joined (orderMarks (classed (atoms (s.map Char.toNat)))),
    (Char.ofNat n).toNat = n :=
    fun n hn => toNat_ofNat (kept n hn)
  rw [composed_eq, List.map_map]
  exact (List.map_congr_left back).trans (List.map_id _)

/-- Composing a composed text changes nothing. -/
theorem composed_composed (s : List Char) : composed (composed s) = composed s := by
  have parts : ∀ p ∈ orderMarks (classed (atoms (s.map Char.toNat))), IsAtom p.1 ∧
      p.2 = combiningClass (Char.ofNat p.1) := by
    intro p hp
    obtain ⟨n, hn, rfl⟩ := List.mem_map.mp (mem_orderMarks.mp hp)
    exact ⟨isAtom_of_mem_atoms hn, rfl⟩
  rw [composed_eq (composed s), map_toNat_composed,
    orderMarks_joined (marksInOrder_orderMarks _) parts,
    ← composed_eq]

/-- Characters of a composed text have what characters of the text have. -/
theorem Closed.of_mem_composed {P : Nat → Prop} (closed : Closed P) {s : List Char}
    (h : ∀ c ∈ s, P c.toNat) :
    ∀ c ∈ composed s, P c.toNat := by
  intro c hc
  have mem := List.mem_map_of_mem (f := Char.toNat) hc
  rw [map_toNat_composed] at mem
  exact closed.of_mem_joined (closed.of_mem_ordered (by simpa using h)) _ mem

/-! ### Texts that need no composing -/

/-- A code point that composing passes by: a starter that is no composite, and that joins none
before it. -/
structure IsInert (n : Nat) : Prop where
  starter : combiningClass (Char.ofNat n) = 0
  unlisted : ∀ c ∈ composites, c.second ≠ n ∧ c.whole ≠ n
  foreign : isJamo n = false ∧ isSyllable n = false

theorem IsInert.isAtom {n : Nat} (h : IsInert n) : IsAtom n := by
  refine ⟨hangulParts?_eq_none.mpr h.foreign.2, ?_⟩
  cases listed : partsOfComposite[n]? with
  | none => rfl
  | some parts => exact absurd rfl (h.unlisted _ (partsOfComposite_eq_some.mp listed)).2

theorem IsInert.compose?_eq_none {n : Nat} (h : IsInert n) (s : Nat) : compose? s n = none := by
  cases makes : compose? s n with
  | none => rfl
  | some whole =>
      obtain letter | mem := letter_or_mem_of_compose? makes
      · exact absurd (h.foreign.1.symm.trans letter.2) Bool.false_ne_true
      · exact absurd rfl (h.unlisted _ mem).1

theorem IsInert.not_joins {n : Nat} (h : IsInert n) (j : Joining) (k whole : Nat) :
    ¬ j.Joins n k whole := by
  rintro ⟨s, -, -, makes⟩
  cases (h.compose?_eq_none s).symm.trans makes

theorem classed_of_inert {l : List Nat} (h : ∀ n ∈ l, IsInert n) :
    classed (atoms l) = l.map fun n => (n, 0) := by
  rw [atoms_of_isAtom fun n hn => (h n hn).isAtom]
  exact List.map_congr_left fun n hn => by rw [(h n hn).starter]

theorem reversed_of_inert {l : List Nat} (h : ∀ n ∈ l, IsInert n) (j : Joining) :
    ((l.map fun n => (n, 0)).foldl Joining.push j).reversed = l.reverse ++ j.reversed := by
  induction l generalizing j with
  | nil => rfl
  | cons n l ih =>
      obtain ⟨here, rest⟩ := List.forall_mem_cons.mp h
      have push := Joining.push_of_apart (here.not_joins j 0)
      rw [List.map_cons, List.foldl_cons, ih rest, push, if_pos rfl, List.reverse_cons,
        List.append_assoc]
      rfl

theorem composed_of_inert {s : List Char} (h : ∀ c ∈ s, IsInert c.toNat) : composed s = s := by
  have inert : ∀ n ∈ s.map Char.toNat, IsInert n := by simpa using h
  have ordered : MarksInOrder ((s.map Char.toNat).map fun n => (n, 0)) :=
    (List.pairwise_of_forall_mem_list (by simp)).isChain
  rw [composed_eq, classed_of_inert inert, orderMarks_of_marksInOrder ordered, joined,
    reversed_of_inert inert]
  simp [Joining.start, Joining.reversed, Function.comp_def]

/-! ### Texts in parts -/

/-- A code point that nothing is joined with. -/
structure IsApart (n : Nat) : Prop extends IsInert n where
  before : ∀ c ∈ composites, c.first ≠ n

theorem IsApart.compose?_eq_none {n : Nat} (h : IsApart n) (m : Nat) : compose? n m = none := by
  cases makes : compose? n m with
  | none => rfl
  | some whole =>
      obtain letter | mem := letter_or_mem_of_compose? makes
      · simp [h.foreign] at letter
      · exact absurd rfl (h.before _ mem)

theorem IsApart.closed {n : Nat} (h : IsApart n) : Closed (· ≠ n) := by
  refine ⟨fun c hc _ => ⟨h.before c hc, (h.unlisted c hc).1⟩,
    fun c hc _ _ => (h.unlisted c hc).2, ?_⟩
  rintro m hangul rfl
  simp [h.foreign] at hangul

theorem IsApart.not_joins {j : Joining} {n : Nat} (h : IsApart n) (starter : j.starter = some n)
    (m k whole : Nat) :
    ¬ j.Joins m k whole := by
  rintro ⟨s, hs, -, makes⟩
  cases starter.symm.trans hs
  cases (h.compose?_eq_none m).symm.trans makes

namespace Joining

/-- A joining behind code points that are finished. -/
def onto (done : List Nat) (j : Joining) : Joining := { j with done := j.done ++ done }

variable {j j' : Joining} {n : Nat} {done : List Nat}

theorem reversed_onto : (j.onto done).reversed = j.reversed ++ done := by simp [reversed, onto]

theorem push_onto (p : Nat × Nat) : (j.onto done).push p = (j.push p).onto done := by
  obtain ⟨n, k⟩ := p
  by_cases h : ∃ whole, j.Joins n k whole
  · obtain ⟨whole, h⟩ := h
    rw [push_of_joins h, push_of_joins (j := j.onto done) h]
    rfl
  · rw [push_of_apart (not_exists.mp h), push_of_apart (j := j.onto done) (not_exists.mp h),
      reversed_onto]
    split <;> rfl

/-- A joining that has passed a code point apart, and one that starts behind it. -/
inductive Behind (n : Nat) (done : List Nat) : Joining → Joining → Prop where
  | fresh (marks : List Nat) (lastClass : Nat) :
      Behind n done ⟨done, some n, marks, lastClass⟩ ⟨[], none, marks, lastClass⟩
  | later (j : Joining) : Behind n done (j.onto (n :: done)) j

theorem Behind.reversed (h : Behind n done j j') : j.reversed = j'.reversed ++ n :: done := by
  cases h with
  | fresh marks lastClass => simp [Joining.reversed]
  | later j => exact reversed_onto

/-- A code point apart cuts a text in two: what follows is joined as if nothing stood before. -/
theorem Behind.push (apart : IsApart n) (h : Behind n done j j') (p : Nat × Nat) :
    Behind n done (j.push p) (j'.push p) := by
  obtain ⟨m, k⟩ := p
  cases h with
  | fresh marks lastClass =>
      have unstarted : ∀ whole, ¬ (⟨[], none, marks, lastClass⟩ : Joining).Joins m k whole := by
        rintro whole ⟨s, ⟨⟩, -⟩
      rw [push_of_apart (apart.not_joins rfl m k), push_of_apart unstarted]
      split
      · have behind : Behind n done _ _ := .later ⟨marks, some m, [], 0⟩
        simpa [onto, Joining.reversed] using behind
      · exact .fresh _ _
  | later j => exact push_onto (m, k) ▸ .later _

theorem Behind.foldl (apart : IsApart n) (h : Behind n done j j') (l : List (Nat × Nat)) :
    Behind n done (l.foldl Joining.push j) (l.foldl Joining.push j') := by
  induction l generalizing j j' with
  | nil => exact h
  | cons p l ih => exact ih (h.push apart p)

end Joining

theorem joined_append_cons {n : Nat} (apart : IsApart n) (l l' : List (Nat × Nat)) :
    joined (l ++ (n, 0) :: l') = joined l ++ n :: joined l' := by
  have push :=
    Joining.push_of_apart (apart.toIsInert.not_joins (l.foldl Joining.push Joining.start) 0)
  have fresh : Joining.Behind n (l.foldl Joining.push Joining.start).reversed _ _ := .fresh [] 0
  have behind := fresh.foldl apart l'
  rw [joined, List.foldl_append, List.foldl_cons, push, if_pos rfl, behind.reversed]
  simp [joined, Joining.start]

/-- What stands on both sides of a character apart is composed by itself. -/
theorem composed_append_cons {c : Char} (apart : IsApart c.toNat) (s t : List Char) :
    composed (s ++ c :: t) = composed s ++ c :: composed t := by
  have single : classed (atoms [c.toNat]) = [(c.toNat, 0)] :=
    classed_of_inert (by simpa using apart.toIsInert)
  have parts : classed (atoms ((s ++ c :: t).map Char.toNat)) =
      classed (atoms (s.map Char.toNat)) ++ (c.toNat, 0) :: classed (atoms (t.map Char.toNat)) := by
    rw [List.map_append, List.map_cons, ← List.singleton_append, atoms_append, atoms_append,
      classed_append,
      classed_append, single, List.singleton_append]
  rw [composed_eq, parts, orderMarks_append_cons, joined_append_cons apart, List.map_append,
    List.map_cons,
    ← composed_eq, ← composed_eq, Char.ofNat_toNat]

/-- A separator that joins nothing lets the parts be composed one by one, which is how a domain
splits into labels. -/
theorem composed_intercalate {c : Char} (apart : IsApart c.toNat) (parts : List (List Char)) :
    composed ([c].intercalate parts) = [c].intercalate (parts.map composed) := by
  induction parts with
  | nil => exact composed_of_inert nofun
  | cons part rest ih =>
      cases rest with
      | nil => simp
      | cons next rest =>
          rw [List.intercalate_cons_cons, List.append_assoc, List.singleton_append,
            composed_append_cons apart, ih]
          simp [List.intercalate_cons_cons]

/-- The parts between characters apart are composed each by itself. -/
theorem splitOn_composed {c : Char} (apart : IsApart c.toNat) (s : List Char) :
    (composed s).splitOn c = (s.splitOn c).map composed := by
  have whole := composed_intercalate apart (s.splitOn c)
  rw [List.intercalate_splitOn] at whole
  rw [whole]
  refine List.splitOn_intercalate c (fun part hp mem => ?_) (by simp)
  obtain ⟨raw, hraw, rfl⟩ := List.mem_map.mp hp
  have free : ∀ d ∈ raw, d.toNat ≠ c.toNat := by
    intro d hd same
    have := (Text.mem_of_mem_splitOnP hraw d hd).1
    simp [Char.toNat_inj.mp same] at this
  exact apart.closed.of_mem_composed free c mem rfl

/-! ### Code points that need no composing -/

theorem exists_of_searchCombining {ranges : Array ClassRange} {n lo hi : Nat}
    (h : searchCombining ranges n lo hi ≠ 0) : ∃ r ∈ ranges, r.range.contains n = true := by
  fun_induction searchCombining ranges n lo hi with
  | case1 lo hi within mid none => exact absurd rfl h
  | case2 lo hi within mid r here left ih => exact ih h
  | case3 lo hi within mid r here left right ih => exact ih h
  | case4 lo hi within mid r here left right =>
      exact ⟨r, Array.mem_of_getElem? here, Range.contains_eq_true.mpr (by omega)⟩
  | case5 lo hi beyond => exact absurd rfl h

def Range.isInert (r : Range) : Bool :=
  combiningRanges.toList.all (fun s => r.last < s.range.first || s.range.last < r.first) &&
    composites.all (fun c => !r.contains c.second && !r.contains c.whole) &&
    (r.last < 0x1100 || (0x11C3 ≤ r.first && r.last < 0xAC00))

/-- A range is checked against the tables once for all its code points. -/
theorem isInert_of_range {r : Range} (h : r.isInert = true) {c : Char}
    (hc : r.contains c.toNat = true) :
    IsInert c.toNat := by
  simp only [Range.isInert, Bool.and_eq_true, List.all_eq_true, Bool.not_eq_true', Bool.or_eq_true,
    decide_eq_true_eq, Range.contains_eq_true] at h hc
  obtain ⟨⟨starters, unlisted⟩, foreign⟩ := h
  refine ⟨?_, fun d hd => ⟨?_, ?_⟩, ?_⟩
  · rw [Char.ofNat_toNat]
    by_contra mark
    obtain ⟨s, hs, here⟩ := exists_of_searchCombining mark
    have := starters s (Array.mem_toList_iff.mpr hs)
    rw [Range.contains_eq_true] at here
    omega
  · intro same
    have := (unlisted d hd).1
    rw [same, Range.contains] at this
    simp [hc] at this
  · intro same
    have := (unlisted d hd).2
    rw [same, Range.contains] at this
    simp [hc] at this
  · simp only [isJamo, isSyllable, Bool.or_eq_false_iff, Bool.and_eq_false_iff,
      decide_eq_false_iff_not]
    omega

/-- ASCII needs no composing. -/
theorem isInert_of_ascii {c : Char} (h : c.toNat < 128) : IsInert c.toNat := by
  have ascii : (Range.mk 0 127).isInert = true := by decide +kernel
  exact isInert_of_range ascii (Range.contains_eq_true.mpr (by simp only; omega))

/-- Nothing is joined across a full stop. -/
theorem isApart_point : IsApart '.'.toNat := by
  have unlisted : composites.all (fun c => c.first != '.'.toNat) = true := by decide +kernel
  refine ⟨isInert_of_ascii (by decide), fun c hc => ?_⟩
  simpa using List.all_eq_true.mp unlisted c hc

end Vigil.Unicode
