import Vigil.Proofs.Upkeep.Stored

/-!
How a service comes into the roster, and what is told of it from then on.

A service that comes in has a live state of its own, and nobody can record a verdict on that before.
Main statements: `Upkeep.Run.exists_arrival`, an entry with a new live state is brought by one merge
of the run; `Upkeep.Moment.toldOn_of_isOn`, the events of a service are those of the verdicts on its
live state, unless there are verdicts on one that it has had at another time in the roster.
-/

namespace Vigil.Upkeep

open Vigil.Roster (Report Reported reportsOn)

variable {build : Service → Option Checker} {u u' : Upkeep} {past : List Moment} {id : Int}

/-! ### The merge that brings a service -/

/-- A merge brings a service into the roster, with a live state of its own. -/
def Moment.Brings (m : Moment) (s : Service) (cell : Nat) : Prop :=
  m.before.world.roster.entry? s.id = none ∧
    ∃ e, m.after.world.roster.entry? s.id = some e ∧ e.service = s ∧ e.cell = cell

/-- What comes to hold along a run does so by one deed of it. -/
theorem Run.exists_turn {p : Upkeep → Prop} (run : Run build u past u') (before : ¬ p u)
    (after : p u') :
    ∃ earlier m later, past = earlier ++ m :: later ∧ ¬ p m.before ∧ p m.after := by
  induction run with
  | rest => exact absurd after before
  | @step u next u' d past done run ih =>
      by_cases now : p next
      · exact ⟨[], ⟨u, d, next⟩, past, rfl, before, now⟩
      · obtain ⟨earlier, m, later, rfl, turn⟩ := ih now after
        exact ⟨⟨u, d, next⟩ :: earlier, m, later, rfl, turn⟩

/-- A deed by which somebody comes to hold an entry with a new live state is a merge that brings the
service of the entry. -/
theorem brings_of_act? {d : Deed} (done : u.act? build d = some u') (owned : u.world.Owned)
    {o : Monitored} (new : ∀ h ∈ u.world.handles, h.cell ≠ o.cell) (held : o ∈ u'.world.handles) :
    d = .merge ∧ u'.db = u.db ∧ Moment.Brings ⟨u, d, u'⟩ o.service o.cell ∧
      u'.world.roster.live o = .ofService o.service ∧
      ∃ services loaded, u.phase = .fetched services loaded ∧ o.service ∈ services := by
  have other (h : Monitored) (mem : h ∈ u.world.roster.list) : h.cell ≠ o.cell :=
    new h (owned.held h mem)
  cases step_of_act? done with
  | argumentsFail | argumentsCome | servicesFail | servicesCome | committed | others =>
      exact absurd rfl (new o held)
  | recorded allowed =>
      rcases List.mem_append.mp held with held | held
      · exact absurd rfl (new o held)
      · exact absurd rfl (other o held)
  | @merged services loaded fetched =>
      rcases List.mem_append.mp held with held | held
      · exact absurd rfl (new o held)
      · change o ∈ Roster.list (u.world.roster.merge build services u.gateway.reachable).1 at held
        have proper : (u.world.roster.merge build services u.gateway.reachable).1.Proper :=
          owned.roster.merge
        rcases owned.roster.origin held with ⟨h, mem, cell, -⟩ | behind
        · exact absurd cell (other h mem)
        · obtain ⟨id, found⟩ := Roster.mem_list.mp held
          have ne : services ≠ [] := by
            rintro rfl
            cases reachable : u.gateway.reachable with
            | false =>
                rw [reachable] at held
                exact absurd rfl (other o held)
            | true =>
                rw [reachable] at found
                cases found
          have unknown : u.world.roster.entry? id = none := by
            cases before : u.world.roster.entry? id with
            | none => rfl
            | some h =>
                have cell := (Roster.cell_of_merge ne found).1 h before
                exact absurd cell.symm (other h (Roster.mem_list.mpr ⟨id, before⟩))
          obtain ⟨mem, number, live⟩ := Roster.live_of_merge ne found unknown
          refine ⟨rfl, rfl, ⟨?_, o, ?_, rfl, rfl⟩, live, services, loaded, fetched, mem⟩
          · rw [number]
            exact unknown
          · rw [number]
            exact found

/-! ### Verdicts on one live state -/

/-- A verdict on a service is recorded on a live state, not on one from another time of the service
in the roster. -/
def Deed.IsOn (d : Deed) (cell : Nat) (id : Int) : Prop :=
  match d with
  | .record entry _ _ => entry.service.id = id → entry.cell = cell
  | _ => True

instance (d : Deed) (cell : Nat) (id : Int) : Decidable (d.IsOn cell id) :=
  match d with
  | .record entry _ _ => inferInstanceAs (Decidable (entry.service.id = id → entry.cell = cell))
  | .askArguments .. | .askServices .. | .merge | .commit .. | .others .. => .isTrue trivial

/-- What some deeds do to a live state. -/
def reportsOf (build : Service → Option Checker) (cell : Nat) (past : List Moment) : List Report :=
  reportsOn cell (past.filterMap (·.onRoster? build))

theorem reportsOf_append (cell : Nat) (past more : List Moment) :
    reportsOf build cell (past ++ more) = reportsOf build cell past ++
    reportsOf build cell more := by
  simp [reportsOf, reportsOn, List.filterMap_append]

/-- What a deed does to a live state, if it is the record of a verdict. -/
theorem reportsOf_singleton {m : Moment} (cell : Nat) : reportsOf build cell [m] =
    match m.deed with
    | .record entry v time =>
      if entry.cell = cell then [⟨v, (m.before.world.roster.record entry v time).2⟩] else []
    | _ => [] := by
  obtain ⟨u, d, u'⟩ := m
  cases d with
  | record entry v time =>
      by_cases here : entry.cell = cell
      · simp [reportsOf, reportsOn, Moment.onRoster?, Roster.Moment.on?, here]
      · simp [reportsOf, reportsOn, Moment.onRoster?, Roster.Moment.on?, here]
  | merge =>
      cases phase : u.phase <;>
        simp [reportsOf, reportsOn, Moment.onRoster?, Roster.Moment.on?, phase]
  | _ => rfl

/-- The events that a deed causes by a verdict on a live state. -/
def Moment.toldOn (m : Moment) (cell : Nat) : List Event :=
  match m.deed with
  | .record entry _ _ => if entry.cell = cell then m.told else []
  | _ => []

/-- The events of the reports on a live state are those of the verdicts on it. -/
theorem events_reportsOf (build : Service → Option Checker) (cell : Nat) (past : List Moment) :
    (reportsOf build cell past).flatMap (·.events) = past.flatMap (·.toldOn cell) := by
  induction past with
  | nil => rfl
  | cons m past ih =>
      rw [← List.singleton_append, reportsOf_append, List.flatMap_append, List.flatMap_append, ih,
        reportsOf_singleton, List.flatMap_singleton]
      refine congrArg (· ++ _) ?_
      obtain ⟨u, d, u'⟩ := m
      cases d with
      | record entry v time =>
          by_cases here : entry.cell = cell
          · simp [Moment.toldOn, Moment.told, here]
          · simp [Moment.toldOn, here]
      | askArguments | askServices | merge | commit | others => rfl

/-- A deed does not cause events on a live state if it is a verdict on another one. -/
theorem Moment.toldOn_of_not_isOn {m : Moment} {cell : Nat} (aside : ¬ m.deed.IsOn cell id) :
    m.toldOn cell = [] := by
  unfold Moment.toldOn
  split
  · rename_i entry v time deed
    rw [deed] at aside
    exact if_neg fun here => aside fun _ => here
  · rfl

theorem Moment.filter_told_of_not_isOn {m : Moment} {cell : Nat} (aside : ¬ m.deed.IsOn cell id) :
    (m.told.filter fun e => e.service = id) = m.told := by
  cases deed : m.deed with
  | record entry v time =>
      rw [deed] at aside
      obtain ⟨own, -⟩ := Classical.not_imp.mp aside
      rw [m.filter_told deed, if_pos own, Moment.told, deed]
  | askArguments | askServices | merge | commit | others =>
      rw [deed] at aside
      exact absurd trivial aside

/-- A verdict on an entry with a live state is one on a given service. -/
def Deed.IsOf (d : Deed) (cell : Nat) (id : Int) : Prop :=
  match d with
  | .record entry _ _ => entry.cell = cell → entry.service.id = id
  | _ => True

/-- If all verdicts on a service are on a live state of it, its events are those on the live
state. -/
theorem Moment.toldOn_of_isOn {m : Moment} {cell : Nat} (one : m.deed.IsOf cell id)
    (only : m.deed.IsOn cell id) : m.toldOn cell = m.told.filter fun e => e.service = id := by
  unfold Moment.toldOn
  split
  · rename_i entry v time deed
    rw [deed] at one only
    rw [m.filter_told deed]
    by_cases here : entry.cell = cell
    · rw [if_pos here, if_pos (one here), Moment.told, deed]
    · rw [if_neg here, if_neg fun own => here (only own)]
  · rename_i other
    unfold Moment.told
    split
    · rename_i deed
      exact absurd deed (other _ _ _)
    · rfl

theorem Run.isOf (run : Run build u past u') {cell : Nat}
    (one : ∀ h ∈ u'.world.handles, h.cell = cell → h.service.id = id) :
    ∀ m ∈ past, m.deed.IsOf cell id := by
  intro m mem
  cases deed : m.deed with
  | record entry v time => exact one entry (run.held_of_record mem deed)
  | askArguments | askServices | merge | commit | others => trivial

/-- Before anyone holds an entry with a live state, there are no verdicts on it. -/
theorem Run.reportsOf_eq_nil (run : Run build u past u') {cell : Nat}
    (new : ∀ h ∈ u'.world.handles, h.cell ≠ cell) : reportsOf build cell past = [] := by
  induction run with
  | rest => rfl
  | @step u next u' d past done run ih =>
      rw [← List.singleton_append, reportsOf_append, ih new, reportsOf_singleton]
      cases d with
      | record entry v time =>
          have held := (Run.step done run).held_of_record List.mem_cons_self rfl
          simp [new entry held]
      | askArguments | askServices | merge | commit | others => rfl

theorem Run.toldOn_eq_nil (run : Run build u past u') {cell : Nat}
    (new : ∀ h ∈ u'.world.handles, h.cell ≠ cell) : ∀ m ∈ past, m.toldOn cell = [] := by
  rw [← List.flatMap_eq_nil_iff, ← events_reportsOf build, run.reportsOf_eq_nil new]
  rfl

/-! ### Arrivals -/

/-- In a run an entry comes to be held whose live state nobody has held before, by one of its
deeds. -/
structure Arrival (build : Service → Option Checker) (u : Upkeep) (calm : List Moment) (m : Moment)
    (rest : List Moment) (w : Upkeep) (o : Monitored) : Prop where
  before : Run build u calm m.before
  comes : m.before.act? build m.deed = some m.after
  after : Run build m.after rest w
  new : ∀ h ∈ m.before.world.handles, h.cell ≠ o.cell
  held : o ∈ m.after.world.handles

/-- An entry that nobody held before has come in by some deed of the run, and that deed splits the
run. -/
theorem Run.exists_arrival (run : Run build u past u') {e : Monitored}
    (young : ∀ h ∈ u.world.handles, h.cell ≠ e.cell) (held : e ∈ u'.world.handles) :
    ∃ calm m rest o, past = calm ++ m :: rest ∧ o.cell = e.cell ∧
      Arrival build u calm m rest u' o := by
  obtain ⟨calm, m, rest, rfl, nobody, o, mem, same⟩ := run.exists_turn
    (p := fun u => ∃ h ∈ u.world.handles, h.cell = e.cell)
    (fun ⟨h, mem, same⟩ => young h mem same) ⟨e, held, rfl⟩
  obtain ⟨before, comes, after⟩ := run.split
  refine ⟨calm, m, rest, o, rfl, same, before, comes, after, ?_, mem⟩
  intro h mem' same'
  exact nobody ⟨h, mem', same'.trans same⟩

section Arrivals

variable {calm rest : List Moment} {m : Moment} {w : Upkeep} {o : Monitored}

theorem Arrival.owned_before (arrival : Arrival build u calm m rest w o) (owned : u.world.Owned) :
    m.before.world.Owned := arrival.before.roster.owned owned

theorem Arrival.owned_after (arrival : Arrival build u calm m rest w o) (owned : u.world.Owned) :
    m.after.world.Owned :=
  (Run.step arrival.comes (.rest _)).roster.owned (arrival.owned_before owned)

/-- From the arrival on the live state is what the verdicts on it make of the service, and there
have been none before. -/
theorem Arrival.reported (arrival : Arrival build u calm m rest w o) (owned : u.world.Owned) :
    Reported (.ofService o.service) (reportsOf build o.cell (calm ++ m :: rest))
      (w.world.roster.live o) := by
  obtain ⟨deed, -, -, live, -⟩ := brings_of_act? arrival.comes (arrival.owned_before owned)
    arrival.new arrival.held
  rw [List.append_cons, reportsOf_append, reportsOf_append,
    arrival.before.reportsOf_eq_nil arrival.new, reportsOf_singleton, deed, ← live]
  exact arrival.after.roster.reported ((arrival.owned_after owned).inside o arrival.held)

end Arrivals

end Vigil.Upkeep
