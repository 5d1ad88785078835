/-!
Finite maps as lists of entries with increasing keys, so that two maps with the same entries are
equal. Main statements: what `get?` finds after `insert`, that it finds exactly the entries, that
maps in which it finds the same are equal, and what `insert` does to the keys.
-/

namespace Vigil

/-- Keys under a strict total order. -/
class KeyOrder (κ : Type) [LT κ] : Prop where
  irrefl : ∀ a : κ, ¬ a < a
  trans : ∀ {a b c : κ}, a < b → b < c → a < c
  total : ∀ {a b : κ}, ¬ a < b → a ≠ b → b < a

instance : KeyOrder Int where
  irrefl := Int.lt_irrefl
  trans := Int.lt_trans
  total h ne := by omega

instance : KeyOrder Nat where
  irrefl := Nat.lt_irrefl
  trans := Nat.lt_trans
  total h ne := by omega

instance : KeyOrder String where
  irrefl := String.lt_irrefl
  trans := String.lt_trans
  total h ne := by
    rename_i a b
    by_cases hb : b < a
    · exact hb
    · exact absurd (String.le_antisymm (String.not_lt.mp hb) (String.not_lt.mp h)) ne

/-- A finite map. -/
structure Keyed (κ α : Type) [LT κ] where
  entries : List (κ × α)
  increasing : entries.Pairwise fun a b => a.1 < b.1

instance {κ α : Type} [LT κ] [DecidableEq κ] [DecidableEq α] : DecidableEq (Keyed κ α) := fun m n =>
  if h : m.entries = n.entries then
    .isTrue (by cases m; cases n; simp_all)
  else .isFalse fun e => h (e ▸ rfl)

instance {κ α : Type} [LT κ] [Repr κ] [Repr α] : Repr (Keyed κ α) :=
  ⟨fun m n => reprPrec m.entries n⟩

namespace Keyed

variable {κ α β : Type} [LT κ] [DecidableLT κ] [DecidableEq κ]

def empty : Keyed κ α := ⟨[], .nil⟩

instance : Inhabited (Keyed κ α) := ⟨empty⟩

/-- Put an entry in its place, in front of greater keys and instead of an equal one. -/
def insertEntry (k : κ) (v : α) : List (κ × α) → List (κ × α)
  | [] => [(k, v)]
  | (j, w) :: rest =>
    if k < j then (k, v) :: (j, w) :: rest
    else if k = j then (k, v) :: rest
    else (j, w) :: insertEntry k v rest

theorem eq_or_mem_of_mem_insertEntry {k : κ} {v : α} {l : List (κ × α)}
    {p : κ × α} (h : p ∈ insertEntry k v l) : p = (k, v) ∨ p ∈ l := by
  induction l with
  | nil => simpa [insertEntry] using h
  | cons q rest ih =>
    obtain ⟨j, w⟩ := q
    unfold insertEntry at h
    split at h
    · simpa using h
    · split at h
      · rcases List.mem_cons.mp h with h | h
        · exact .inl h
        · exact .inr (List.mem_cons_of_mem _ h)
      · rcases List.mem_cons.mp h with h | h
        · exact .inr (h ▸ List.mem_cons_self)
        · rcases ih h with h | h
          · exact .inl h
          · exact .inr (List.mem_cons_of_mem _ h)

/-- The order of keys is what a map carries; setting an entry keeps it. -/
theorem increasing_insertEntry [KeyOrder κ] (k : κ) (v : α) {l : List (κ × α)}
    (h : l.Pairwise fun a b => a.1 < b.1) :
    (insertEntry k v l).Pairwise fun a b => a.1 < b.1 := by
  induction l with
  | nil => simp [insertEntry]
  | cons q rest ih =>
    obtain ⟨j, w⟩ := q
    have split := List.pairwise_cons.mp h
    unfold insertEntry
    split
    case isTrue lt =>
      refine List.pairwise_cons.mpr ⟨fun p hp => ?_, h⟩
      rcases List.mem_cons.mp hp with hp | hp
      · exact hp ▸ lt
      · exact KeyOrder.trans lt (split.1 p hp)
    case isFalse notLt =>
      split
      case isTrue eq => exact List.pairwise_cons.mpr ⟨fun p hp => eq ▸ split.1 p hp, split.2⟩
      case isFalse ne =>
        refine List.pairwise_cons.mpr ⟨fun p hp => ?_, ih split.2⟩
        rcases eq_or_mem_of_mem_insertEntry hp with hp | hp
        · exact hp ▸ KeyOrder.total notLt ne
        · exact split.1 p hp

def insert [KeyOrder κ] (m : Keyed κ α) (k : κ) (v : α) : Keyed κ α :=
  ⟨insertEntry k v m.entries, increasing_insertEntry k v m.increasing⟩

/-- The map of a list of entries; of two with the same key the later one counts. -/
def ofList [KeyOrder κ] (l : List (κ × α)) : Keyed κ α :=
  l.foldl (fun m p => m.insert p.1 p.2) empty

def get? (m : Keyed κ α) (k : κ) : Option α := (m.entries.find? fun p => p.1 == k).map (·.2)

def contains (m : Keyed κ α) (k : κ) : Bool := m.entries.any fun p => p.1 == k

def keys (m : Keyed κ α) : List κ := m.entries.map (·.1)

def values (m : Keyed κ α) : List α := m.entries.map (·.2)

def size (m : Keyed κ α) : Nat := m.entries.length

def isEmpty (m : Keyed κ α) : Bool := m.entries.isEmpty

def filter (m : Keyed κ α) (p : κ → α → Bool) : Keyed κ α :=
  ⟨m.entries.filter fun e => p e.1 e.2, m.increasing.sublist List.filter_sublist⟩

def erase (m : Keyed κ α) (k : κ) : Keyed κ α := m.filter fun j _ => j != k

def map (m : Keyed κ α) (f : κ → α → β) : Keyed κ β :=
  ⟨m.entries.map fun e => (e.1, f e.1 e.2), by
    refine List.pairwise_map.mpr (m.increasing.imp ?_)
    intro a b h
    exact h⟩

/-! ### Lookups -/

omit [DecidableLT κ] in
theorem get?_empty (k : κ) : (empty : Keyed κ α).get? k = none := rfl

/-- What is found after an entry has been set: it under its own key, and what was there under all
others. -/
theorem find_insertEntry [KeyOrder κ] (k j : κ) (v : α) (l : List (κ × α)) :
    ((insertEntry k v l).find? fun p => p.1 == j).map (·.2) =
      if k = j then some v else (l.find? fun p => p.1 == j).map (·.2) := by
  induction l with
  | nil => by_cases h : k = j <;> simp [insertEntry, h]
  | cons q rest ih =>
    obtain ⟨i, w⟩ := q
    unfold insertEntry
    split
    case isTrue lt =>
      by_cases h : k = j
      · simp [h]
      · rw [List.find?_cons, beq_eq_false_iff_ne.mpr h, if_neg h]
    case isFalse notLt =>
      split
      case isTrue eq =>
        by_cases h : k = j
        · simp [h]
        · have : ¬ i = j := fun e => h (eq.trans e)
          simp [beq_eq_false_iff_ne.mpr h, beq_eq_false_iff_ne.mpr this, h]
      case isFalse ne =>
        by_cases h : i = j
        · have : ¬ k = j := fun e => ne (e.trans h.symm)
          simp [h, this]
        · rw [List.find?_cons, List.find?_cons, beq_eq_false_iff_ne.mpr h]
          exact ih

/-- A lookup after an insertion. -/
theorem get?_insert [KeyOrder κ] (m : Keyed κ α) (k j : κ) (v : α) :
    (m.insert k v).get? j = if k = j then some v else m.get? j :=
  find_insertEntry k j v m.entries

omit [DecidableLT κ] in
/-- A lookup finds exactly the entries. -/
theorem get?_eq_some_iff [KeyOrder κ] (m : Keyed κ α) {k : κ} {v : α} :
    m.get? k = some v ↔ (k, v) ∈ m.entries := by
  obtain ⟨l, h⟩ := m
  simp only [get?]
  induction l with
  | nil => simp
  | cons q rest ih =>
    obtain ⟨j, w⟩ := q
    have split := List.pairwise_cons.mp h
    have apart (u : α) : (j, u) ∉ rest := fun mem => KeyOrder.irrefl j (split.1 (j, u) mem)
    by_cases eq : j = k
    · subst eq
      simp only [List.find?_cons, beq_self_eq_true, Option.map_some, Option.some.injEq,
        List.mem_cons, Prod.mk.injEq, true_and]
      exact ⟨fun h => .inl h.symm, fun h => h.elim Eq.symm fun mem => absurd mem (apart v)⟩
    · rw [List.find?_cons, beq_eq_false_iff_ne.mpr eq, ih split.2]
      simp [Ne.symm eq]

omit [DecidableLT κ] [DecidableEq κ] in
/-- Entries in the order of their keys are told by their members alone. -/
theorem eq_of_mem_iff [KeyOrder κ] {l l' : List (κ × α)} (h : l.Pairwise fun a b => a.1 < b.1)
    (h' : l'.Pairwise fun a b => a.1 < b.1) (same : ∀ p, p ∈ l ↔ p ∈ l') : l = l' := by
  induction l generalizing l' with
  | nil =>
    cases l' with
    | nil => rfl
    | cons q rest' => exact absurd ((same q).mpr List.mem_cons_self) List.not_mem_nil
  | cons p rest ih =>
    cases l' with
    | nil => exact absurd ((same p).mp List.mem_cons_self) List.not_mem_nil
    | cons q rest' =>
      obtain ⟨first, more⟩ := List.pairwise_cons.mp h
      obtain ⟨first', more'⟩ := List.pairwise_cons.mp h'
      -- Each of the two first entries would come before the other one.
      have eq : p = q := by
        rcases List.mem_cons.mp ((same p).mp List.mem_cons_self) with eq | later
        · exact eq
        · rcases List.mem_cons.mp ((same q).mpr List.mem_cons_self) with eq | later'
          · exact eq.symm
          · exact absurd (KeyOrder.trans (first' p later) (first q later')) (KeyOrder.irrefl q.1)
      subst eq
      refine congrArg _ (ih more more' fun x => ?_)
      constructor
      · intro mem
        rcases List.mem_cons.mp ((same x).mp (List.mem_cons_of_mem _ mem)) with rfl | mem'
        · exact absurd (first x mem) (KeyOrder.irrefl x.1)
        · exact mem'
      · intro mem
        rcases List.mem_cons.mp ((same x).mpr (List.mem_cons_of_mem _ mem)) with rfl | mem'
        · exact absurd (first' x mem) (KeyOrder.irrefl x.1)
        · exact mem'

omit [DecidableLT κ] in
/-- Maps in which lookups find the same are equal. -/
theorem ext_get? [KeyOrder κ] {m n : Keyed κ α} (same : ∀ k, m.get? k = n.get? k) : m = n := by
  have entries : m.entries = n.entries := by
    refine eq_of_mem_iff m.increasing n.increasing fun p => ?_
    rw [← get?_eq_some_iff m, ← get?_eq_some_iff n, same p.1]
  cases m
  cases n
  cases entries
  rfl

/-- If the keys of a list are all different, a map into which it is entered holds the list, and what
it held under other keys. -/
theorem get?_foldl_insert [KeyOrder κ] (m : Keyed κ α) {l : List (κ × α)}
    (apart : l.Pairwise fun p q => p.1 ≠ q.1) {k : κ} {v : α} :
    (l.foldl (fun m p => m.insert p.1 p.2) m).get? k = some v ↔
      (k, v) ∈ l ∨ m.get? k = some v ∧ ∀ p ∈ l, p.1 ≠ k := by
  induction l generalizing m with
  | nil => simp
  | cons q rest ih =>
    obtain ⟨j, w⟩ := q
    obtain ⟨other, more⟩ := List.pairwise_cons.mp apart
    rw [List.foldl_cons, ih (m.insert j w) more, get?_insert, List.forall_mem_cons, List.mem_cons]
    by_cases h : j = k
    · subst h
      simp only [if_true, Option.some.injEq, Prod.mk.injEq, true_and, ne_eq, not_true_eq_false,
        false_and, and_false, or_false]
      constructor
      · rintro (mem | ⟨rfl, -⟩)
        · exact .inr mem
        · exact .inl rfl
      · rintro (rfl | mem)
        · exact .inr ⟨rfl, fun p mem => (other p mem).symm⟩
        · exact .inl mem
    · simp [h, Ne.symm h]

/-- A map of entries with different keys has just these entries. -/
theorem get?_ofList [KeyOrder κ] {l : List (κ × α)} (apart : l.Pairwise fun p q => p.1 ≠ q.1)
    {k : κ} {v : α} : (ofList l).get? k = some v ↔ (k, v) ∈ l := by
  simp [ofList, get?_foldl_insert empty apart, get?_empty]

omit [DecidableLT κ] in
/-- A lookup after an entry has been taken out. -/
theorem get?_erase [KeyOrder κ] (m : Keyed κ α) (k j : κ) :
    (m.erase k).get? j = if j = k then none else m.get? j := by
  refine Option.ext fun v => ?_
  rw [get?_eq_some_iff]
  have entry : (j, v) ∈ (m.erase k).entries ↔ (j, v) ∈ m.entries ∧ j ≠ k := by
    simp [erase, filter]
  rw [entry, ← get?_eq_some_iff]
  split
  · simp [*]
  · simp [*]

omit [DecidableLT κ] in
/-- A key has an entry where a lookup finds one. -/
theorem contains_eq (m : Keyed κ α) (k : κ) : m.contains k = (m.get? k).isSome := by
  simp [contains, get?, List.isSome_find?]

omit [DecidableLT κ] [DecidableEq κ] in
/-- The values are those of the entries. -/
theorem mem_values {m : Keyed κ α} {v : α} : v ∈ m.values ↔ ∃ k, (k, v) ∈ m.entries := by
  simp [values]

/-! ### Keys -/

/-- A new entry joins the others. -/
theorem perm_insertEntry {k : κ} {v : α} {l : List (κ × α)} (absent : ∀ p ∈ l, p.1 ≠ k) :
    (insertEntry k v l).Perm ((k, v) :: l) := by
  induction l with
  | nil => exact .refl _
  | cons q rest ih =>
      obtain ⟨j, w⟩ := q
      obtain ⟨other, more⟩ := List.forall_mem_cons.mp absent
      unfold insertEntry
      split
      · exact .refl _
      · rw [if_neg (Ne.symm other)]
        exact ((ih more).cons _).trans (.swap ..)

/-- A new key joins the others. -/
theorem perm_keys_insert [KeyOrder κ] {m : Keyed κ α} {k : κ} (absent : m.get? k = none) (v : α) :
    (m.insert k v).keys.Perm (k :: m.keys) := by
  refine (perm_insertEntry fun p mem here => ?_).map Prod.fst
  have found := (get?_eq_some_iff m).mpr (show (k, p.2) ∈ m.entries from here ▸ mem)
  rw [absent] at found
  cases found

omit [DecidableLT κ] in
/-- The keys are those at which a lookup finds something. -/
theorem mem_keys {m : Keyed κ α} {k : κ} : k ∈ m.keys ↔ m.contains k = true := by
  simp [keys, contains]

omit [DecidableLT κ] [DecidableEq κ] in
theorem nodup_keys [KeyOrder κ] (m : Keyed κ α) : m.keys.Nodup := by
  refine List.pairwise_map.mpr (m.increasing.imp fun before same => ?_)
  rw [same] at before
  exact KeyOrder.irrefl _ before

end Keyed

end Vigil
