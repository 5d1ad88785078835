import Vigil.Proofs.Roster.Merge

/-!
A list that is merged a second time.

Main definitions: `Roster.Steady`, whether a check can be set up depends on what it asks for;
`Roster.Settled`, a roster that is what a list makes of it. Main statements: `Roster.settled_merge`,
a merge settles the roster, whatever the list repeats, leaves out or asks for in vain;
`Roster.Settled.merge_eq`, merging the list again leaves the roster as it is.
-/

namespace Vigil

open Vigil.Clock

/-! ### Checks that depend on what is asked for -/

/-- The same service asking for the same check gets the same one, or none. -/
def Roster.Steady (build : Service → Option Checker) : Prop :=
  ∀ s t, s.id = t.id → s.sameTarget t = true → build s = build t

namespace Checker

/-- What was last known of a service, and whether it is active, does not matter to a factory. -/
def Factory.Steady (f : Factory) : Prop :=
  ∀ s d status version active, f { s with status, version, active } d = f s d

/-- A registry of steady factories. -/
def Registry.Steady (registry : Registry) : Prop :=
  ∀ name entry, registry.find? name = some entry → entry.factory.Steady

theorem Registry.Steady.empty : Registry.empty.Steady := by
  intro name entry found
  cases found

theorem Registry.Steady.register {registry : Registry} (steady : registry.Steady) (kind : Kind)
    {f : Factory} (new : f.Steady) : (registry.register kind f).Steady := by
  intro name entry found
  rw [Registry.find?_register] at found
  split at found
  · cases found
    exact new
  · exact steady name entry found

/-- The kinds that every installation knows are steady. -/
theorem Registry.steady_builtin : Registry.builtin.Steady := by
  refine .register (.register (.register (.register .empty _ ?_) _ ?_) _ ?_) _ ?_
  all_goals
    intro s d status version active
    rfl

/-- The checks of a steady registry are steady. -/
theorem Registry.Steady.builder {registry : Registry} (steady : registry.Steady)
    (default : Duration) : Roster.Steady (registry.builder default) := by
  intro s t number same
  obtain ⟨netbox, device, address, host, kind, arguments⟩ := Service.sameTarget_iff.mp same
  obtain ⟨status, version, active, rfl⟩ :
      ∃ status version active, t = { s with status, version, active } := by
    refine ⟨t.status, t.version, t.active, ?_⟩
    rw [number, netbox, device, address, host, kind, arguments]
  unfold Registry.builder Registry.build
  cases found : registry.find? s.kind with
  | none => rfl
  | some entry =>
      simp only [steady s.kind entry found s default]
      rfl

end Checker

namespace Roster

/-! ### Merging a list again -/

/-- The entries are those that a list leaves as they are. -/
structure Settled (r : Roster) (build : Service → Option Checker) (fresh : List Service) :
    Prop where
  absent : ∀ id, r.entry? id = none → r.chosen? build fresh id = none
  present : ∀ id e, r.entry? id = some e →
    ∃ s, r.chosen? build fresh id = some s ∧ e.service.sameTarget s = true

section Settling

variable {r : Roster} {build : Service → Option Checker} {fresh : List Service} {reachable : Bool}

/-- The service that decides on an entry decides on it again if those before it are refused
again. -/
theorem chosen?_eq_of_refused {r' : Roster} {id : Int} {s : Service}
    (chosen : r.chosen? build fresh id = some s) (accepted : r'.accepts build s = true)
    (refused : ∀ t ∈ fresh, t.id = id → r.accepts build t = false → r'.accepts build t = false) :
    r'.chosen? build fresh id = some s := by
  obtain ⟨holds, before, after, split, fail⟩ := List.find?_eq_some_iff_append.mp chosen
  refine List.find?_eq_some_iff_append.mpr ⟨?_, before, after, split, ?_⟩
  · simp only [Bool.and_eq_true, decide_eq_true_eq] at holds ⊢
    exact ⟨holds.1, accepted⟩
  · intro t mem
    have not := fail t mem
    by_cases here : t.id = id
    · have inside : t ∈ fresh := by
        rw [split]
        exact List.mem_append_left _ mem
      have passed : r.accepts build t = false := by simpa [here] using not
      simp [refused t inside here passed]
    · simp [here]

/-- After the merge of a list the roster is what the list makes of it. -/
theorem settled_merge (steady : Steady build) (ne : fresh ≠ []) :
    Settled (r.merge build fresh reachable).1 build fresh := by
  -- A service that was refused asks for a check that cannot be set up, if it asks for any.
  have unbuilt (t : Service) (active : t.active = true) (refused : r.accepts build t = false) :
      build t = none := by
    simp only [accepts, active, Bool.true_and, Bool.or_eq_false_iff] at refused
    exact Option.not_isSome_iff_eq_none.mp (by simp [refused.2])
  constructor
  · intro id none
    refine chosen?_eq_none_iff.mpr fun t mem here => ?_
    have refused := (entry?_merge_eq_none ne id).mp none t mem here
    cases active : t.active with
    | false => simp [accepts, active]
    | true => simp [accepts, here, none, unbuilt t active refused]
  · intro id e found
    obtain ⟨s, chosen, settles⟩ := entry?_merge_cases ne found
    obtain ⟨-, number, accepted⟩ := of_chosen?_eq_some chosen
    have active : s.active = true := by
      simp only [accepts, Bool.and_eq_true] at accepted
      exact accepted.1
    have same : e.service.sameTarget s = true := by
      rcases settles with ⟨-, same⟩ | ⟨rfl, -⟩
      · exact same
      · exact e.service.sameTarget_refl
    refine ⟨s, chosen?_eq_of_refused chosen ?_ ?_, same⟩
    · simp [accepts, active, number, found, same]
    · intro t mem here refused
      cases activeT : t.active with
      | false => simp [accepts, activeT]
      | true =>
          have none := unbuilt t activeT refused
          have differs : e.service.sameTarget t = false := by
            refine Bool.eq_false_iff.mpr fun sameT => ?_
            rcases settles with ⟨before, -⟩ | ⟨rfl, built⟩
            · have taken : r.accepts build t = true := by
                simp [accepts, activeT, here, before, sameT]
              rw [refused] at taken
              cases taken
            · rw [steady e.service t (number.trans here.symm) sameT, none] at built
              cases built
          simp [accepts, here, found, differs, none]

/-- A roster in the making into which entries have only been taken over. -/
structure Unchanged (r : Roster) (build : Service → Option Checker) (done : List Service)
    (d : Roster) :
    Prop extends Drafted r build done d where
  sameLives : d.lives = r.lives
  sameMade : d.made = r.made
  old : ∀ id e, d.entry? id = some e → r.entry? id = some e

/-- No service of such a list is entered anew: the draft takes over entries one by one. -/
theorem Settled.unchanged (settled : Settled r build fresh) :
    Unchanged r build fresh (r.draft build fresh).1 := by
  refine draft_induction r build fresh ⟨.nothing r build, rfl, rfl, fun id e found => ?_⟩ ?_
  · cases found
  · intro done s rest d d' split unchanged entered
    have drafted := unchanged.toDrafted
    have chosen (accepted : r.accepts build s = true) (absent : d.entry? s.id = none) :
        r.chosen? build fresh s.id = some s := by
      rw [split, List.append_cons]
      exact chosen?_of_done rest (drafted.chosen?_eq accepted absent)
    suffices d'.lives = r.lives ∧ d'.made = r.made ∧
        ∀ id e, d'.entry? id = some e → r.entry? id = some e from
      ⟨drafted.enter entered, this.1, this.2.1, this.2.2⟩
    cases entered with
    | passed reason => exact ⟨unchanged.sameLives, unchanged.sameMade, unchanged.old⟩
    | @kept o accepted absent before same =>
        refine ⟨unchanged.sameLives, unchanged.sameMade, fun id e found => ?_⟩
        change (d.entries.insert s.id o).get? id = some e at found
        rw [Keyed.get?_insert] at found
        split at found
        · rename_i here
          cases found
          exact here ▸ before
        · exact unchanged.old id e found
    | updated accepted absent before other built =>
        obtain ⟨t, first, same⟩ := settled.present _ _ before
        cases (chosen accepted absent).symm.trans first
        rw [other] at same
        cases same
    | added accepted absent unknown built =>
        cases (chosen accepted absent).symm.trans (settled.absent _ unknown)

/-- In a roster that is what a list makes of it, the list changes nothing. -/
theorem Settled.merge_eq (settled : Settled r build fresh) (ne : fresh ≠ []) :
    (r.merge build fresh reachable).1 = r := by
  obtain ⟨drafted, lives, made, old⟩ := settled.unchanged
  have entries : (r.draft build fresh).1.entries = r.entries := by
    refine Keyed.ext_get? fun id => ?_
    change Roster.entry? (r.draft build fresh).1 id = r.entry? id
    cases after : Roster.entry? (r.draft build fresh).1 id with
    | some e => exact (old id e after).symm
    | none =>
        cases before : r.entry? id with
        | none => rfl
        | some e =>
            obtain ⟨s, first, -⟩ := settled.present id e before
            have none := chosen?_eq_none_iff.mpr ((drafted.absent id).mp after)
            cases none.symm.trans first
  rw [merge_of_ne_nil ne]
  change Roster.mk _ (r.draft build fresh).1.lives (r.draft build fresh).1.made = r
  rw [entries, lives, made]

/-- Live states do not matter. -/
theorem Settled.of_entries {r' : Roster} (settled : Settled r build fresh)
    (same : r'.entries = r.entries) : Settled r' build fresh := by
  cases r
  cases r'
  cases same
  exact ⟨settled.absent, settled.present⟩

end Settling

end Roster

end Vigil
