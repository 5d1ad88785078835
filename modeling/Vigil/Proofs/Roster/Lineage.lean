import Vigil.Proofs.Roster.Reports

/-!
Whether a service keeps its live state from one merge to the next. Main statement:
`Roster.keeps_live_iff`, it does as long as each fresh list names it in a way that it may have an
entry; a list in which its check cannot be set up ends its live state, and it has a new one when it
comes back.
-/

namespace Vigil

open Vigil.Clock

namespace Roster

/-! ### One merge -/

/-- A merge leaves a service with an entry: its list is empty and means nothing, or names the
service in a way that it may have an entry. -/
def Deed.Retains (d : Deed) (r : Roster) (id : Int) : Prop :=
  match d with
  | .merge build fresh _ => fresh = [] ∨ ∃ s ∈ fresh, s.id = id ∧ r.accepts build s = true
  | .record .. => True

/-- A deed clears the roster if it is the merge of an empty list from a datastore that can be
reached. -/
def Deed.Clears : Deed → Prop
  | .merge _ fresh reachable => fresh = [] ∧ reachable = true
  | .record .. => False

/-- A fresh list is empty or names a service that is to be checked. -/
def Deed.Names (d : Deed) (id : Int) : Prop :=
  match d with
  | .merge _ fresh _ => fresh = [] ∨ ∃ s ∈ fresh, s.id = id ∧ s.active = true
  | .record .. => True

instance (d : Deed) (r : Roster) (id : Int) : Decidable (d.Retains r id) :=
  match d with
  | .merge build fresh _ =>
    inferInstanceAs (Decidable (fresh = [] ∨ ∃ s ∈ fresh, s.id = id ∧ r.accepts build s = true))
  | .record .. => .isTrue trivial

instance (d : Deed) : Decidable d.Clears :=
  match d with
  | .merge _ fresh reachable => inferInstanceAs (Decidable (fresh = [] ∧ reachable = true))
  | .record .. => .isFalse id

instance (d : Deed) (id : Int) : Decidable (d.Names id) :=
  match d with
  | .merge _ fresh _ =>
    inferInstanceAs (Decidable (fresh = [] ∨ ∃ s ∈ fresh, s.id = id ∧ s.active = true))
  | .record .. => .isTrue trivial

/-- A service that is retained keeps its live state. -/
theorem entry?_of_retains {r : Roster} {d : Deed} {id : Int} {e : Monitored}
    (before : r.entry? id = some e) (uncleared : ¬ d.Clears) (retains : d.Retains r id) :
    ∃ e', Roster.entry? (r.act d).1 id = some e' ∧ e'.cell = e.cell := by
  cases d with
  | record => exact ⟨e, before, rfl⟩
  | merge build fresh reachable =>
      by_cases ne : fresh = []
      · subst ne
        cases reachable with
        | false => exact ⟨e, before, rfl⟩
        | true => exact absurd ⟨rfl, rfl⟩ uncleared
      · obtain ⟨s, mem, same, accepted⟩ := retains.resolve_left ne
        cases after : Roster.entry? (r.merge build fresh reachable).1 id with
        | none =>
            have refused := (entry?_merge_eq_none ne id).mp after s mem same
            rw [accepted] at refused
            cases refused
        | some e' => exact ⟨e', after, (cell_of_merge ne after).1 e before⟩

/-- A service that is not retained is left out. -/
theorem entry?_of_not_retains {r : Roster} {d : Deed} {id : Int} (leaves : ¬ d.Retains r id) :
    Roster.entry? (r.act d).1 id = none := by
  cases d with
  | record => exact absurd trivial leaves
  | merge build fresh reachable =>
      obtain ⟨ne, none⟩ := not_or.mp leaves
      refine (entry?_merge_eq_none ne id).mpr fun s mem same => ?_
      exact Bool.eq_false_iff.mpr fun accepted => none ⟨s, mem, same, accepted⟩

/-! ### Whole runs -/

/-- An entry of a service that has been left out has a live state from afterwards. -/
theorem Run.new_cell {w w' : World} {past : List Moment} (run : Run w past w') {id : Int} {n : Nat}
    (before : ∀ e, w.roster.entry? id = some e → n ≤ e.cell) (bound : n ≤ w.roster.lives.length)
    {e' : Monitored} (after : w'.roster.entry? id = some e') : n ≤ e'.cell := by
  induction run with
  | rest => exact before e' after
  | @step w w' d past _ _ ih =>
      refine ih (fun e found => ?_) (Nat.le_trans bound (length_lives_act w.roster d)) after
      cases d with
      | record => exact before e found
      | merge build fresh reachable =>
          by_cases ne : fresh = []
          · subst ne
            cases reachable with
            | false => exact before e found
            | true => simp [World.after, act, entry?, Keyed.get?_empty] at found
          · obtain ⟨taken, new⟩ := cell_of_merge ne found
            cases old : w.roster.entry? id with
            | none => exact Nat.le_trans bound (new old).1
            | some o =>
                rw [taken o old]
                exact before o old

/-- A service that stands in the roster keeps its live state along a run if and only if each merge
retains it. -/
theorem Run.cell_eq_iff {w w' : World} {past : List Moment} (run : Run w past w')
    (sound : w.Sound) {id : Int} {e e' : Monitored} (before : w.roster.entry? id = some e)
    (uncleared : ∀ m ∈ past, ¬ m.deed.Clears) (after : w'.roster.entry? id = some e') :
    e'.cell = e.cell ↔ ∀ m ∈ past, m.deed.Retains m.before id := by
  induction run generalizing e with
  | rest =>
      cases before.symm.trans after
      simp
  | @step w w' d past _ run ih =>
      rw [List.forall_mem_cons] at uncleared ⊢
      by_cases retains : d.Retains w.roster id
      · obtain ⟨next, found, same⟩ := entry?_of_retains before uncleared.1 retains
        rw [← same, ih (sound.after d) found uncleared.2 after]
        simp [retains]
      · have gone := entry?_of_not_retains retains
        have inside := Nat.lt_of_lt_of_le (sound.roster id e before) (length_lives_act w.roster d)
        have new := run.new_cell (n := (w.after d).roster.lives.length)
          (fun o found => by cases gone.symm.trans found) (Nat.le_refl _) after
        have ne : e'.cell ≠ e.cell := by
          intro same
          change e.cell < (w.after d).roster.lives.length at inside
          omega
        simp [retains, ne]

/-- A service that stands in the roster keeps its live state, which then goes on from what it was,
if and only if each fresh list names it in a way that it may have an entry. -/
theorem keeps_live_iff {earlier past : List Moment} {w w' : World} {id : Int} {e e' : Monitored}
    (reached : Run .empty earlier w) (before : w.roster.entry? id = some e) (run : Run w past w')
    (uncleared : ∀ m ∈ past, ¬ m.deed.Clears) (after : w'.roster.entry? id = some e') :
    (e'.cell = e.cell ↔ ∀ m ∈ past, m.deed.Retains m.before id) ∧
      (e'.cell = e.cell →
        Reported (w.roster.live e) (reportsOn e.cell past) (w'.roster.live e')) := by
  have sound := reached.sound World.empty_sound
  refine ⟨run.cell_eq_iff sound before uncleared after, fun same => ?_⟩
  have here : w'.roster.live e' = w'.roster.live e := by rw [live, live, same]
  rw [here]
  exact run.reported (sound.roster id e before)

/-! ### A check that cannot be set up -/

def outage : List Deed := comesIn ++ [.record firstEntry (.down "refused") default]

/-- The port of the service changes, and then the datastore cannot be reached. -/
def moves : List Deed := [.merge builtin [portService "8080"] true, .merge builtin [] false]

theorem moved_service_keeps_live :
    ∃ earlier past w w' e e', Run .empty earlier w ∧ w.roster.entry? 1 = some e ∧ Run w past w' ∧
      w'.roster.entry? 1 = some e' ∧ e'.service ≠ e.service ∧ e'.cell = e.cell ∧
      Reported (w.roster.live e) (reportsOn e.cell past) (w'.roster.live e') := by
  obtain ⟨earlier, w, past, w', reached, run, before, uncleared, retained, there⟩ :=
    exists_runs outage moves
      (fun w past w' => w.roster.entry? 1 = some firstEntry ∧ (∀ m ∈ past, ¬ m.deed.Clears) ∧
        (∀ m ∈ past, m.deed.Retains m.before 1) ∧
        (w'.roster.entry? 1).any (·.service ≠ firstEntry.service) = true)
      (by decide +kernel)
  obtain ⟨e', after, other⟩ := (Option.any_eq_true _ _).mp there
  obtain ⟨iff, live⟩ := keeps_live_iff reached before run uncleared after
  have same := iff.mpr retained
  exact ⟨earlier, past, w, w', firstEntry, e', reached, before, run, after, of_decide_eq_true other,
    same, live same⟩

/-- The port of the service is written wrongly for a while. -/
def slip : List Deed :=
  [.merge builtin [portService "eighty"] true, .merge builtin [portService "80"] true]

/-- A service that all lists name is down, cannot be set up once, and is as good as new
afterwards. -/
theorem slip_forgets_outage :
    ∃ earlier past w w' e e', Run .empty earlier w ∧ w.roster.entry? 1 = some e ∧ Run w past w' ∧
      (∀ m ∈ past, ¬ m.deed.Clears ∧ m.deed.Names 1) ∧ w'.roster.entry? 1 = some e' ∧
      e'.cell ≠ e.cell ∧ (w.roster.live e).status = .down ∧
      (w'.roster.live e').status = .unknown := by
  obtain ⟨earlier, w, past, w', reached, run, before, down, named, there⟩ :=
    exists_runs outage slip
      (fun w past w' => w.roster.entry? 1 = some firstEntry ∧
        (w.roster.live firstEntry).status = .down ∧
        (∀ m ∈ past, ¬ m.deed.Clears ∧ m.deed.Names 1) ∧
        (w'.roster.entry? 1).any (fun e' => e'.cell ≠ firstEntry.cell ∧
          (w'.roster.live e').status = .unknown) = true)
      (by decide +kernel)
  obtain ⟨e', after, other⟩ := (Option.any_eq_true _ _).mp there
  obtain ⟨apart, unknown⟩ := of_decide_eq_true other
  exact ⟨earlier, past, w, w', firstEntry, e', reached, before, run, named, after, apart, down,
    unknown⟩

end Roster

end Vigil
