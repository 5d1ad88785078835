import Vigil.Proofs.Roster.Reports
import Vigil.Proofs.Store.Loaded
import Vigil.Proofs.Upkeep.Run
import Vigil.Proofs.Writer.Delivery

/-!
What is told of a service and what of it is stored, along a run of roster and datastore.

Main statements: `Upkeep.Run.known`, the datastore knows what the last stored event of a service
tells; `Upkeep.backs_of_loads`, a list of services that is loaded says what the datastore knows.
-/

namespace Vigil.Upkeep

open Vigil.Clock Vigil.Store

variable {build : Service → Option Checker} {u u' : Upkeep} {past : List Moment} {id : Int}

/-! ### Events of a service -/

def Moment.told (m : Moment) : List Event :=
  match m.deed with
  | .record entry v time => (m.before.world.roster.record entry v time).2
  | _ => []

def Moment.stored (m : Moment) : List Event :=
  match m.deed with
  | .commit e first second =>
    match (m.before.gateway.commit e first second m.before.db).1 with
    | .ok _ => [e]
    | .error _ => []
  | _ => []

/-- The events of a service that some deeds cause. -/
def toldOf (id : Int) (past : List Moment) : List Event :=
  past.flatMap fun m => m.told.filter fun e => e.service = id

/-- The events of a service that some deeds store. -/
def storedOf (id : Int) (past : List Moment) : List Event :=
  past.flatMap fun m => m.stored.filter fun e => e.service = id

@[simp] theorem toldOf_cons (id : Int) (m : Moment) (past : List Moment) :
    toldOf id (m :: past) = (m.told.filter fun e => e.service = id) ++ toldOf id past :=
  List.flatMap_cons

@[simp] theorem storedOf_cons (id : Int) (m : Moment) (past : List Moment) :
    storedOf id (m :: past) = (m.stored.filter fun e => e.service = id) ++ storedOf id past :=
  List.flatMap_cons

@[simp] theorem toldOf_append (id : Int) (past more : List Moment) :
    toldOf id (past ++ more) = toldOf id past ++ toldOf id more := List.flatMap_append

@[simp] theorem storedOf_append (id : Int) (past more : List Moment) :
    storedOf id (past ++ more) = storedOf id past ++ storedOf id more := List.flatMap_append

/-- The events of a verdict are those of one service. -/
theorem Moment.filter_told {m : Moment} {entry : Monitored} {v : Verdict} {time : Instant}
    (deed : m.deed = .record entry v time) : (m.told.filter fun e => e.service = id) =
      if entry.service.id = id then (m.before.world.roster.record entry v time).2 else [] := by
  have service (e : Event) (mem : e ∈ (m.before.world.roster.record entry v time).2) :
      e.service = entry.service.id := (Live.of_mem_events mem).1
  simp only [Moment.told, deed]
  split
  · rename_i here
    refine List.filter_eq_self.mpr fun e mem => ?_
    simp [service e mem, here]
  · rename_i elsewhere
    refine List.filter_eq_nil_iff.mpr fun e mem => ?_
    simp [service e mem, elsewhere]

/-- What is told comes from the program itself, and its statuses are known. -/
theorem of_mem_toldOf {e : Event} (mem : e ∈ toldOf id past) :
    e.service = id ∧ e.source ∈ Event.acceptedSources ∧ ∀ t ∈ e.status?, t ≠ .unknown := by
  obtain ⟨m, -, mem⟩ := List.mem_flatMap.mp mem
  obtain ⟨told, service⟩ := List.mem_filter.mp mem
  refine ⟨of_decide_eq_true service, ?_⟩
  unfold Moment.told at told
  split at told
  · rename_i entry v time deed
    refine ⟨?_, fun t here => ?_⟩
    · rw [(Live.of_mem_events told).2]
      exact List.mem_cons_self
    · have tells := List.mem_filterMap.mpr ⟨e, told, here⟩
      rw [Roster.record, Live.status?_events] at tells
      split at tells
      · rw [List.mem_singleton.mp tells]
        exact v.known
      · cases tells
  · cases told

/-! ### What the datastore knows of a service -/

def Deed.byOthers : Deed → Bool
  | .others .. => true
  | _ => false

/-- If others change the datastore, it stays in good order and goes on to know what it knows of a
service. -/
def Moment.Keeps (m : Moment) (id : Int) : Prop :=
  m.deed.byOthers = true → m.after.db.Regular ∧
    ∀ mark c, m.before.db.known? mark id = some c → m.after.db.known? mark id = some c

/-- What is known after a deed is what it stores. -/
theorem known_of_act? {d : Deed} (done : u.act? build d = some u') (regular : u.db.Regular)
    (keeps : Moment.Keeps ⟨u, d, u'⟩ id) :
    u'.db.Regular ∧
      ((∀ e ∈ storedOf id [⟨u, d, u'⟩], e.source ∈ Event.acceptedSources) →
        ∀ mark c, u.db.known? mark id = some c →
          u'.db.known? mark id = some (Writer.lastTold mark id c (storedOf id [⟨u, d, u'⟩]))) := by
  cases step_of_act? done with
  | argumentsFail | argumentsCome | servicesFail | servicesCome | merged | recorded =>
      exact ⟨regular, fun _ mark c known => known⟩
  | others =>
      obtain ⟨regular', kept⟩ := keeps rfl
      exact ⟨regular', fun _ mark c known => kept mark c known⟩
  | @committed e first second answer g db commit same =>
      cases answer with
      | error f =>
          have stored : storedOf id [⟨u, .commit e first second, { u with gateway := g, db }⟩] =
            [] := by
            simp [storedOf, Moment.stored, commit]
          rw [stored]
          cases Gateway.eq_of_commit_error commit
          exact ⟨regular, fun _ mark c known => known⟩
      | ok =>
          have stored : storedOf id [⟨u, .commit e first second, { u with gateway := g, db }⟩] =
              if e.service = id then [e] else [] := by
            simp [storedOf, Moment.stored, commit, List.filter_cons]
          rw [stored]
          by_cases own : e.source ∈ Event.acceptedSources
          · have taken := Gateway.takenDown_of_commit regular own commit
            refine ⟨taken.regular, fun _ mark c known => ?_⟩
            rw [taken.known, known]
            by_cases here : e.service = id
            · rw [if_pos here]
              exact congrArg some (Writer.lastTold_append mark id c [] e).symm
            · rw [if_neg here, Event.tells_of_ne here]
              rfl
          · cases Gateway.eq_of_commit_foreign own commit
            refine ⟨regular, fun accepted mark c known => ?_⟩
            by_cases here : e.service = id
            · exact absurd (accepted e (by simp [here])) own
            · rw [if_neg here]
              exact known

/-- What is known after some deeds is what the last of their events tells that has been stored. -/
theorem Run.known (run : Run build u past u') (regular : u.db.Regular)
    (keeps : ∀ m ∈ past, m.Keeps id) :
    u'.db.Regular ∧
      ((∀ e ∈ storedOf id past, e.source ∈ Event.acceptedSources) →
        ∀ mark c, u.db.known? mark id = some c →
          u'.db.known? mark id = some (Writer.lastTold mark id c (storedOf id past))) := by
  induction run with
  | rest => exact ⟨regular, fun _ mark c known => known⟩
  | @step u next u' d past done _ ih =>
      rw [List.forall_mem_cons] at keeps
      obtain ⟨regular', first⟩ := known_of_act? done regular keeps.1
      obtain ⟨last, more⟩ := ih regular' keeps.2
      refine ⟨last, fun own mark c known => ?_⟩
      rw [← List.singleton_append, storedOf_append] at own ⊢
      rw [List.forall_mem_append] at own
      rw [more own.2 mark _ (first own.1 mark c known), Writer.lastTold_of_append]

/-- A list that is loaded says what the datastore knows, of the status only if it is asked for. -/
theorem backs_of_loads {d : Deed} {services : List Service} (done : u.act? build d = some u')
    (loads : Moment.loaded? ⟨u, d, u'⟩ = some services) (regular : u.db.Regular) :
    (∃ arguments, u.phase = .halfway arguments) ∧ ∀ s ∈ services, u'.db.Backs u.full s := by
  cases step_of_act? done with
  | servicesCome halfway selected list =>
      cases loads
      subst list
      exact ⟨⟨_, halfway⟩, regular.backs_of_selected selected u.full _⟩
  | argumentsFail | argumentsCome | servicesFail | merged | recorded | committed | others =>
      cases loads

end Vigil.Upkeep
