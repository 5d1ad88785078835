import Vigil.Files.Basic
import Vigil.Proofs.Outcome

/-!
Where a path leads, and what opening a file changes in that.

Main statements: `Files.find_of_openOrCreate`, the path of a file that has been opened leads to it;
`Files.openOrCreate_of_find`, opening changes nothing where the path leads to a file already.
-/

namespace Vigil.Files

variable {fs fs' : Files}

/-! ### Paths -/

/-- Directories stay where they are. -/
structure Keeps (fs fs' : Files) : Prop where
  home : fs'.home = fs.home
  directories : ∀ names, fs.node? names = some .directory → fs'.node? names = some .directory

theorem Keeps.descend (keeps : Keeps fs fs') {names next : List String} {name : String}
    (went : fs.descend names name = .ok next) : fs'.descend names name = .ok next := by
  unfold Files.descend at went ⊢
  split at went
  · cases went
  · cases went
  · rename_i here
    rw [keeps.directories names here]
    exact went

/-- A path that can be followed leads to the same place if directories stay where they are. -/
theorem Keeps.place (keeps : Keeps fs fs') {path : String} {p : Place}
    (went : fs.place path = .ok p) : fs'.place path = .ok p := by
  have follow (steps : List String) : ∀ start names, steps.foldlM fs.descend start = .ok names →
      steps.foldlM fs'.descend start = .ok names := by
    induction steps with
    | nil =>
        intro start names went
        exact went
    | cons name rest ih =>
        intro start names went
        rw [List.foldlM_cons, bind_eq_ok] at went ⊢
        obtain ⟨next, first, more⟩ := went
        exact ⟨next, keeps.descend first, ih next names more⟩
  unfold Files.place at went ⊢
  rw [bind_eq_ok] at went ⊢
  obtain ⟨names, here, last⟩ := went
  rw [keeps.home]
  exact ⟨names, follow _ _ names here, last⟩

/-- A name that was free takes no directory away. -/
theorem Keeps.insert {names : List String} {n : FileNode} (free : fs.node? names = none)
    (home : fs'.home = fs.home) (nodes : fs'.nodes = fs.nodes.insert (key names) n) :
    Keeps fs fs' := by
  refine ⟨home, fun other here => ?_⟩
  unfold node? at here free ⊢
  split at free
  · cases free
  · split at here
    · rename_i top
      rw [if_pos top]
    · rename_i below
      rw [if_neg below, nodes, Keyed.get?_insert, if_neg, here]
      intro same
      rw [same, here] at free
      cases free

/-! ### Opening a file -/

/-- When a path leads to a file. -/
theorem find_eq_file_iff {path : String} {id : Nat} :
    fs.find path = .ok (.file id) ↔
      path ≠ "" ∧ ∃ p, fs.place path = .ok p ∧ p.asDirectory = false ∧
        fs.node? p.names = some (.file id) := by
  unfold find
  by_cases empty : path = ""
  · subst empty
    constructor
    · intro led
      cases led
    · rintro ⟨ne, -⟩
      exact absurd rfl ne
  · simp only [beq_iff_eq, empty, if_false, ne_eq, not_false_eq_true, true_and]
    rw [bind_eq_ok]
    refine exists_congr fun p => and_congr_right fun _ => ?_
    cases node : fs.node? p.names with
    | none => simp [throw, throwThe, MonadExceptOf.throw]
    | some n =>
        cases n with
        | directory => simp [pure, Except.pure]
        | file j =>
            cases slash : p.asDirectory <;>
              simp [throw, throwThe, MonadExceptOf.throw, pure, Except.pure]

/-- What opening a file does: the path leads to it already, or it is new. -/
theorem openOrCreate_eq_ok {path : String} {id : Nat}
    (opened : fs.openOrCreate path = .ok (id, fs')) :
    path ≠ "" ∧ ∃ p, fs.place path = .ok p ∧ p.asDirectory = false ∧
      (fs.node? p.names = some (.file id) ∧ fs' = fs ∨
        fs.node? p.names = none ∧ id = fs.next ∧
          fs' = { fs with
            nodes := fs.nodes.insert (key p.names) (.file fs.next)
            contents := fs.contents.insert fs.next []
            next := fs.next + 1 }) := by
  unfold openOrCreate at opened
  by_cases empty : path = ""
  · subst empty
    cases opened
  · simp only [beq_iff_eq, empty, if_false] at opened
    rw [bind_eq_ok] at opened
    obtain ⟨p, here, opened⟩ := opened
    cases slash : p.asDirectory with
    | true =>
        rw [slash] at opened
        cases opened
    | false =>
        simp only [slash, Bool.false_eq_true, if_false] at opened
        refine ⟨empty, p, here, slash, ?_⟩
        split at opened
        · cases opened
        · rename_i node
          cases opened
          exact .inl ⟨node, rfl⟩
        · rename_i node
          cases opened
          exact .inr ⟨node, rfl, rfl⟩

/-- The path of a file that has been opened leads to it. -/
theorem find_of_openOrCreate {path : String} {id : Nat}
    (opened : fs.openOrCreate path = .ok (id, fs')) : fs'.find path = .ok (.file id) := by
  obtain ⟨ne, p, here, slash, ⟨node, rfl⟩ | ⟨free, rfl, made⟩⟩ := openOrCreate_eq_ok opened
  · exact find_eq_file_iff.mpr ⟨ne, p, here, slash, node⟩
  · have keeps : Keeps fs fs' := .insert free (by rw [made]) (by rw [made])
    refine find_eq_file_iff.mpr ⟨ne, p, keeps.place here, slash, ?_⟩
    unfold node? at free ⊢
    split at free
    · cases free
    · rename_i below
      rw [if_neg below, made, Keyed.get?_insert, if_pos rfl]

/-- Where a path leads to a file, opening it changes nothing. -/
theorem openOrCreate_of_find {path : String} {id other : Nat}
    (leads : fs.find path = .ok (.file id)) (opened : fs.openOrCreate path = .ok (other, fs')) :
    fs' = fs := by
  obtain ⟨-, p, here, -, node⟩ := find_eq_file_iff.mp leads
  obtain ⟨-, p', here', -, ⟨-, same⟩ | ⟨free, -⟩⟩ := openOrCreate_eq_ok opened
  · exact same
  · cases here.symm.trans here'
    rw [free] at node
    cases node

/-- Opening a file locks nothing. -/
theorem locked_of_openOrCreate {path : String} {id : Nat}
    (opened : fs.openOrCreate path = .ok (id, fs')) : fs'.locked = fs.locked := by
  obtain ⟨-, p, -, -, ⟨-, rfl⟩ | ⟨-, -, rfl⟩⟩ := openOrCreate_eq_ok opened
  · rfl
  · rfl

/-- Removing a name releases no lock. -/
theorem locked_of_remove {path : String} (removed : fs.remove path = .ok fs') :
    fs'.locked = fs.locked := by
  unfold remove at removed
  rw [bind_eq_ok] at removed
  obtain ⟨node, -, removed⟩ := removed
  cases node with
  | directory => cases removed
  | file id =>
      obtain ⟨p, -, done⟩ := bind_eq_ok.mp removed
      cases done
      rfl

end Vigil.Files
