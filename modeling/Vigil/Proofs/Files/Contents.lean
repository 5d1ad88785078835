import Vigil.Proofs.Files.Names

/-!
What stands in files, and which steps change it. Main statements: `Files.content_append`, what is
added to a file stands behind what stood there, and all other files stay; and for each step that
makes or changes names alone, that it leaves every file as it was (`Files.Leaves`).
-/

namespace Vigil

namespace Keyed

variable {κ α : Type} [LT κ] [DecidableLT κ] [DecidableEq κ] [KeyOrder κ]

theorem mem_of_mem_foldl_insert {l : List (κ × α)} {m : Keyed κ α} {p : κ × α}
    (h : p ∈ (l.foldl (fun m q => m.insert q.1 q.2) m).entries) : p ∈ l ∨ p ∈ m.entries := by
  induction l generalizing m with
  | nil => exact .inr h
  | cons q rest ih =>
      rcases ih h with later | here
      · exact .inl (List.mem_cons_of_mem _ later)
      · rcases eq_or_mem_of_mem_insertEntry here with rfl | before
        · exact .inl List.mem_cons_self
        · exact .inr before

/-- A map has only the entries from which it was made. -/
theorem mem_of_mem_ofList {l : List (κ × α)} {p : κ × α} (h : p ∈ (ofList l).entries) : p ∈ l :=
  (mem_of_mem_foldl_insert h).resolve_right List.not_mem_nil

end Keyed

namespace Files

variable {fs fs' : Files}

/-! ### Adding to a file -/

theorem content_setContent (fs : Files) (id j : Nat) (bytes : List UInt8) :
    (fs.setContent id bytes).content j = if id = j then bytes else fs.content j := by
  rw [content, setContent, Keyed.get?_insert]
  split
  · rfl
  · rfl

theorem content_append (fs : Files) (id j : Nat) (bytes : List UInt8) :
    (fs.append id bytes).content j = fs.content j ++ if id = j then bytes else [] := by
  rw [append, content_setContent]
  split
  · rename_i same
    rw [same]
  · rw [List.append_nil]

/-! ### Numbers of files -/

/-- Names lead to files whose numbers have been given out, and in all others nothing stands. -/
structure Numbered (fs : Files) : Prop where
  named : ∀ k id, fs.nodes.get? k = some (.file id) → id < fs.next
  blank : ∀ id, fs.next ≤ id → fs.content id = []

theorem numbered_ofHome (name : String) : (ofHome name).Numbered where
  named k id h := by
    rw [ofHome, Keyed.get?_insert] at h
    split at h
    · cases h
    · cases h
  blank _ _ := rfl

theorem Numbered.append (numbered : fs.Numbered) {id : Nat} (given : id < fs.next)
    (bytes : List UInt8) :
    (fs.append id bytes).Numbered where
  named := numbered.named
  blank j le := by
    have ne : id ≠ j := fun same => Nat.not_lt.mpr le (same ▸ given)
    rw [content_append, if_neg ne, List.append_nil]
    exact numbered.blank j le

/-! ### Names -/

/-- In every file stands what stood there. -/
structure Leaves (fs fs' : Files) : Prop where
  numbered : fs'.Numbered
  next : fs.next ≤ fs'.next
  content : ∀ id, fs'.content id = fs.content id

theorem Numbered.leaves (numbered : fs.Numbered) : Leaves fs fs :=
  ⟨numbered, Nat.le_refl _, fun _ => rfl⟩

/-- Other names for the same files leave all as it was. -/
theorem Leaves.of_nodes (numbered : fs.Numbered) {nodes : Keyed String FileNode}
    (known : ∀ k id, nodes.get? k = some (.file id) → ∃ j, fs.nodes.get? j = some (.file id)) :
    Leaves fs { fs with nodes } where
  numbered := {
    named := fun k id named => by
      obtain ⟨j, before⟩ := known k id named
      exact numbered.named j id before
    blank := numbered.blank }
  next := Nat.le_refl _
  content _ := rfl

/-- Some names stay, and some are written in another way. -/
theorem Leaves.of_moved (numbered : fs.Numbered) {stays moves : String × FileNode → Bool}
    {f : String → String} : Leaves fs { fs with
      nodes := .ofList (fs.nodes.entries.filter stays ++
        (fs.nodes.entries.filter moves).map fun x => (f x.1, x.2)) } := by
  refine .of_nodes numbered fun k id named => ?_
  have mem := Keyed.mem_of_mem_ofList ((Keyed.get?_eq_some_iff _).mp named)
  rcases List.mem_append.mp mem with here | there
  · exact ⟨k, (Keyed.get?_eq_some_iff _).mpr (List.mem_filter.mp here).1⟩
  · obtain ⟨⟨j, node⟩, before, same⟩ := List.mem_map.mp there
    cases same
    exact ⟨j, (Keyed.get?_eq_some_iff _).mpr (List.mem_filter.mp before).1⟩

section Steps

variable {path : String}

/-- A file that is opened has a number that has been given out. -/
theorem leaves_of_openOrCreate {id : Nat} (numbered : fs.Numbered)
    (opened : fs.openOrCreate path = .ok (id, fs')) : Leaves fs fs' ∧ id < fs'.next := by
  obtain ⟨-, p, -, -, ⟨node, rfl⟩ | ⟨-, rfl, rfl⟩⟩ := openOrCreate_eq_ok opened
  · refine ⟨numbered.leaves, ?_⟩
    unfold node? at node
    split at node
    · cases node
    · exact numbered.named _ _ node
  · have content (j : Nat) : Files.content { fs with
        nodes := fs.nodes.insert (key p.names) (.file fs.next)
        contents := fs.contents.insert fs.next []
        next := fs.next + 1 } j = fs.content j := by
      have set := content_setContent fs fs.next j []
      split at set
      · rename_i new
        exact set.trans (numbered.blank j (Nat.le_of_eq new)).symm
      · exact set
    refine ⟨⟨⟨fun k id named => ?_, fun j le => ?_⟩, Nat.le_succ _, content⟩, Nat.lt_succ_self _⟩
    · rw [Keyed.get?_insert] at named
      split at named
      · cases named
        exact Nat.lt_succ_self _
      · exact Nat.lt_succ_of_lt (numbered.named k id named)
    · exact (content j).trans (numbered.blank j (Nat.le_of_succ_le le))

/-- A file that loses its name keeps what stands in it. -/
theorem leaves_of_remove (numbered : fs.Numbered) (removed : fs.remove path = .ok fs') :
    Leaves fs fs' := by
  unfold remove at removed
  rw [bind_eq_ok] at removed
  obtain ⟨node, -, removed⟩ := removed
  cases node with
  | directory => cases removed
  | file id =>
      obtain ⟨p, -, done⟩ := bind_eq_ok.mp removed
      cases done
      refine .of_nodes numbered fun k id named => ⟨k, ?_⟩
      rw [Keyed.get?_erase] at named
      split at named
      · cases named
      · exact named

/-- The same goes for all files below a directory that is removed. -/
theorem leaves_of_removeTree (numbered : fs.Numbered) (removed : fs.removeTree path = .ok fs') :
    Leaves fs fs' := by
  unfold removeTree at removed
  rw [bind_eq_ok] at removed
  obtain ⟨node, -, removed⟩ := removed
  cases node with
  | file id => cases removed
  | directory =>
      obtain ⟨p, -, done⟩ := bind_eq_ok.mp removed
      cases done
      refine .of_nodes numbered fun k id named => ⟨k, ?_⟩
      rw [Keyed.get?_eq_some_iff] at named ⊢
      exact (List.mem_filter.mp named).1

/-- To make a directory changes nothing that stands in files. -/
theorem leaves_of_makeDirectory (numbered : fs.Numbered) (made : fs.makeDirectory path = .ok fs') :
    Leaves fs fs' := by
  unfold makeDirectory at made
  rw [ite_throw_bind_eq_ok, bind_eq_ok] at made
  obtain ⟨-, p, -, made⟩ := made
  split at made
  · cases made
  · cases made
    refine .of_nodes numbered fun k id named => ⟨k, ?_⟩
    rw [Keyed.get?_insert] at named
    split at named
    · cases named
    · exact named

/-- Renaming takes names away, and moves others. -/
theorem leaves_of_rename {target : String} (numbered : fs.Numbered)
    (renamed : fs.rename path target = .ok fs') : Leaves fs fs' := by
  unfold rename at renamed
  simp only [bind_eq_ok] at renamed
  obtain ⟨what, -, old, -, p, -, renamed⟩ := renamed
  split at renamed
  · cases renamed
    exact numbered.leaves
  · rw [ite_throw_bind_eq_ok, ite_throw_bind_eq_ok] at renamed
    obtain ⟨-, -, renamed⟩ := renamed
    split at renamed
    · cases renamed
    · cases renamed
    · rw [ite_throw_bind_eq_ok] at renamed
      cases renamed.2
      exact .of_moved numbered
    · rw [ite_throw_bind_eq_ok] at renamed
      cases renamed.2
      exact .of_moved numbered
    · cases renamed
      exact .of_moved numbered

end Steps

end Files

end Vigil
